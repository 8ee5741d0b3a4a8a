import Mathlib.Data.List.Basic

namespace GDriver
namespace Library

/-!
# Pattern matching of the query language

The `LIKE` operator: `%` stands for any text, `_` for any single character,
and every other character for itself, where the letters `a` to `z` also match
their upper case.
-/

/-- Upper-case the twenty-six plain letters and nothing else. -/
def foldCase (char : Char) : Char :=
  if 'a' ≤ char ∧ char ≤ 'z' then Char.ofNat (char.toNat - 32) else char

/-- Match a pattern against a whole text. -/
def matchesLike : List Char → List Char → Bool
  | [], text => text.isEmpty
  | symbol :: pattern, text =>
      if symbol = '%' then
        text.tails.any (matchesLike pattern)
      else
        match text with
        | [] => false
        | char :: rest =>
            (symbol = '_' || foldCase symbol = foldCase char) && matchesLike pattern rest

/-- `text LIKE pattern`. -/
def like (text pattern : String) : Bool :=
  matchesLike pattern.toList text.toList

end Library
end GDriver
