import Mathlib.Data.List.Basic

namespace GDriver
namespace Library

/-!
# Text

The operations on strings that the program takes from its standard library,
written over lists of characters so that they can be evaluated on closed
inputs.
-/

/-- Drop every trailing occurrence of a character. -/
def trimEndMatches (text : String) (char : Char) : String :=
  String.ofList (text.toList.reverse.dropWhile fun last => last = char).reverse

/-- Drop every leading occurrence of a character. -/
def trimStartMatches (text : String) (char : Char) : String :=
  String.ofList (text.toList.dropWhile fun first => first = char)

/-- Whether a text begins with another. -/
def startsWith (text start : String) : Bool :=
  start.toList.isPrefixOf text.toList

/-- Join the parts with a separator between any two. -/
def join (separator : String) : List String → String
  | [] => ""
  | [part] => part
  | part :: rest => part ++ separator ++ join separator rest

/-- The value of a decimal digit. -/
def digitValue (char : Char) : Option Nat :=
  if '0' ≤ char ∧ char ≤ '9' then some (char.toNat - '0'.toNat) else none

/-- Read a non-empty run of digits, continuing from a value. -/
def parseDigits : Nat → List Char → Option Nat
  | value, [] => some value
  | value, char :: rest =>
      match digitValue char with
      | none => none
      | some digit => parseDigits (value * 10 + digit) rest

/-- Read a signed decimal number that fits 64 bits.  A sign may precede the
digits; at least one digit must follow. -/
def parseI64 (text : String) : Option Int :=
  let unsigned (digits : List Char) : Option Nat :=
    if digits.isEmpty then none else parseDigits 0 digits
  let signed : Option Int :=
    match text.toList with
    | '-' :: digits => (unsigned digits).map fun value => -(value : Int)
    | '+' :: digits => (unsigned digits).map fun value => (value : Int)
    | digits => (unsigned digits).map fun value => (value : Int)
  signed.filter fun value => -9223372036854775808 ≤ value ∧ value < 9223372036854775808

/-- Read an unsigned decimal number.  What is read here is always far below 64 bits, so
there is no upper bound. -/
def parseUnsigned (text : List Char) : Option Nat :=
  let digits := if text.head? = some '+' then text.tail else text
  if digits.isEmpty then none else parseDigits 0 digits

theorem digitValue_of_isDigit {char : Char} (digit : char.isDigit = true) :
    digitValue char = some (char.toNat - '0'.toNat) := by
  refine if_pos ?_
  rw [Char.isDigit, Bool.and_eq_true, decide_eq_true_eq, decide_eq_true_eq] at digit
  exact digit

theorem parseDigits_of_isDigit {digits : List Char} (all : ∀ char ∈ digits, char.isDigit = true) (value : Nat) :
    parseDigits value digits = some (Nat.ofDigitChars 10 digits value) := by
  induction digits generalizing value with
  | nil => rfl
  | cons char rest inductionHypothesis =>
      rw [parseDigits, digitValue_of_isDigit (all char List.mem_cons_self), Nat.ofDigitChars_cons, Nat.mul_comm]
      exact inductionHypothesis (fun later member => all later (List.mem_cons_of_mem _ member)) _

/-- A number that is written out is read back. -/
theorem parseUnsigned_toDigits (value : Nat) : parseUnsigned (Nat.toDigits 10 value) = some value := by
  have all (char : Char) (member : char ∈ Nat.toDigits 10 value) : char.isDigit = true :=
    Nat.isDigit_of_mem_toDigits (by decide) (by decide) member
  have parsed := parseDigits_of_isDigit all 0
  rw [Nat.ofDigitChars_ten_toDigits] at parsed
  have unsigned : (Nat.toDigits 10 value).head? ≠ some '+' := by
    intro signed
    exact absurd (all '+' (List.mem_of_mem_head? signed)) (by decide)
  rw [parseUnsigned]
  rw [if_neg unsigned, if_neg]
  · exact parsed
  · rw [List.isEmpty_iff]
    exact Nat.toDigits_ne_nil

end Library
end GDriver
