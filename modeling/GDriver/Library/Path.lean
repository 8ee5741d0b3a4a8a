import GDriver.Library.Text
import Mathlib.Data.List.DropRight

namespace GDriver
namespace Library

/-!
# Paths

Paths as texts, with the operations of a path library on them: components,
file name, parent, extension.  Empty components and `.` components denote
nothing and are dropped.
-/

/-- Split at every occurrence of a character. -/
def splitAtEvery (char : Char) : List Char → List (List Char)
  | [] => [[]]
  | first :: rest =>
      if first = char then [] :: splitAtEvery char rest
      else
        match splitAtEvery char rest with
        | [] => [[first]]
        | part :: parts => (first :: part) :: parts

/-- Split at the last occurrence of a character. -/
def splitAtLast (char : Char) (text : List Char) : Option (List Char × List Char) :=
  match text.reverse.dropWhile fun last => last ≠ char with
  | [] => none
  | _ :: before =>
      some (before.reverse, (text.reverse.takeWhile fun last => last ≠ char).reverse)

/-- The components of a path. -/
def components (path : String) : List String :=
  ((splitAtEvery '/' path.toList).map String.ofList).filter fun part => part ≠ "" && part ≠ "."

/-- The last component, unless it leads upwards. -/
def fileName (path : String) : Option String :=
  (components path).getLast?.filter fun part => part ≠ ".."

/-- A part of a path that denotes nothing. -/
def isIdle (part : List Char) : Bool :=
  part = [] || part = ['.']

/-- The parts of a path up to its last component, without it and without what
denotes nothing before it. -/
def innerParts (parts : List (List Char)) : List (List Char) :=
  (parts.rdropWhile isIdle).dropLast.rdropWhile isIdle

/-- The path without its last component.  What is left of the text stays as it
is, and a dot that begins it is a component. -/
def parentPath (path : String) : Option String :=
  if startsWith path "/" then
    if (components path).isEmpty then none
    else some ("/" ++ join "/" ((innerParts (splitAtEvery '/' path.toList).tail).map String.ofList))
  else if (splitAtEvery '/' path.toList).head? = some ['.'] then
    if (components path).isEmpty then some ""
    else some (join "/" ("." :: (innerParts (splitAtEvery '/' path.toList).tail).map String.ofList))
  else if (components path).isEmpty then none
  else some (join "/" ((innerParts (splitAtEvery '/' path.toList)).map String.ofList))

/-- The part of the file name after its last dot.  A name that only begins
with a dot has none. -/
def extension (path : String) : Option String :=
  (fileName path).bind fun name =>
    match splitAtLast '.' name.toList with
    | none => none
    | some ([], _) => none
    | some (_, after) => some (String.ofList after)

/-- The file name without its extension. -/
def fileStem (path : String) : Option String :=
  (fileName path).map fun name =>
    match splitAtLast '.' name.toList with
    | none => name
    | some ([], _) => name
    | some (before, _) => String.ofList before

/-- Append a relative path; an absolute one replaces the directory. -/
def joinPath (directory name : String) : String :=
  if startsWith name "/" then name
  else if directory.toList = [] then name
  else if directory.toList.getLast? = some '/' then directory ++ name
  else directory ++ "/" ++ name

example : fileName "/mnt/notes.tar.gz" = some "notes.tar.gz" := by decide

example : extension "/mnt/.profile" = none := by decide

example : parentPath "/mnt//docs//notes.txt" = some "/mnt//docs" := by decide

example : parentPath "./notes.txt" = some "." := by decide

/-! ## The last part of a path -/

section Splitting

variable {char : Char} {text before after : List Char}

theorem splitAtEvery_ne_nil (char : Char) (text : List Char) : splitAtEvery char text ≠ [] := by
  cases text with
  | nil => exact List.cons_ne_nil _ _
  | cons first rest =>
      rw [splitAtEvery]
      split
      · exact List.cons_ne_nil _ _
      · split
        · exact List.cons_ne_nil _ _
        · exact List.cons_ne_nil _ _

/-- A split at one known occurrence. -/
theorem splitAtEvery_append (char : Char) (before after : List Char) :
    splitAtEvery char (before ++ char :: after) =
      splitAtEvery char before ++ splitAtEvery char after := by
  induction before with
  | nil => simp only [List.nil_append, splitAtEvery, if_true, List.singleton_append]
  | cons first rest inductionHypothesis =>
      simp only [List.cons_append, splitAtEvery, inductionHypothesis]
      split
      · rfl
      · cases parts : splitAtEvery char rest with
        | nil => exact absurd parts (splitAtEvery_ne_nil char rest)
        | cons part parts => rfl

theorem splitAtEvery_of_notMem (absent : char ∉ text) : splitAtEvery char text = [text] := by
  induction text with
  | nil => rfl
  | cons first rest inductionHypothesis =>
      rw [List.mem_cons, not_or] at absent
      rw [splitAtEvery, if_neg fun same => absent.1 same.symm, inductionHypothesis absent.2]

/-- No part of a split has the character in it. -/
theorem notMem_of_mem_splitAtEvery {part : List Char} (member : part ∈ splitAtEvery char text) :
    char ∉ part := by
  induction text generalizing part with
  | nil =>
      rw [List.mem_singleton.mp member]
      exact List.not_mem_nil
  | cons first rest inductionHypothesis =>
      rw [splitAtEvery] at member
      split at member
      · rcases List.mem_cons.mp member with same | later
        · rw [same]
          exact List.not_mem_nil
        · exact inductionHypothesis later
      · next other =>
          cases parts : splitAtEvery char rest with
          | nil => exact absurd parts (splitAtEvery_ne_nil char rest)
          | cons head tail =>
              rw [parts] at member inductionHypothesis
              rcases List.mem_cons.mp member with same | later
              · rw [same, List.mem_cons, not_or]
                exact ⟨fun here => other here.symm, inductionHypothesis List.mem_cons_self⟩
              · exact inductionHypothesis (List.mem_cons_of_mem _ later)

/-- What stands after the last occurrence of a character. -/
def lastPart (char : Char) (text : List Char) : List Char :=
  (splitAtEvery char text).getLast (splitAtEvery_ne_nil char text)

/-- What is appended goes on with the last part. -/
theorem splitAtEvery_extended {init tail : List (List Char)} {last head : List Char}
    (parts : splitAtEvery char text = init ++ [last]) (more : splitAtEvery char after = head :: tail) :
    splitAtEvery char (text ++ after) = init ++ (last ++ head) :: tail := by
  induction text generalizing init last with
  | nil =>
      rcases List.append_eq_singleton_iff.mp parts.symm with ⟨none, same⟩ | ⟨_, impossible⟩
      · rw [none, List.singleton_inj.mp same]
        exact more
      · cases impossible
  | cons first rest inductionHypothesis =>
      rw [splitAtEvery] at parts
      rw [List.cons_append, splitAtEvery]
      split at parts
      · next here =>
          rw [if_pos here]
          cases init with
          | nil => exact absurd (List.cons.inj parts).2 (splitAtEvery_ne_nil char rest)
          | cons part others =>
              rcases List.cons.inj parts with ⟨empty, following⟩
              rw [inductionHypothesis following, empty]
              rfl
      · next other =>
          rw [if_neg other]
          cases known : splitAtEvery char rest with
          | nil => exact absurd known (splitAtEvery_ne_nil char rest)
          | cons part others =>
              rw [known] at parts
              cases init with
              | nil =>
                  rcases List.cons.inj parts with ⟨same, none⟩
                  rw [none] at known
                  rw [@inductionHypothesis [] part known, ← same]
                  rfl
              | cons earlier init =>
                  rcases List.cons.inj parts with ⟨same, following⟩
                  have continued : splitAtEvery char rest = (part :: init) ++ [last] := by
                    rw [known, following]
                    rfl
                  rw [inductionHypothesis continued, ← same]
                  rfl

/-- The first part is empty when nothing stands before the first occurrence. -/
theorem head_splitAtEvery_eq_nil {head : List Char} {tail : List (List Char)}
    (parts : splitAtEvery char text = head :: tail) : head = [] ↔ text = [] ∨ text.head? = some char := by
  cases text with
  | nil =>
      rw [splitAtEvery] at parts
      rw [← (List.cons.inj parts).1]
      exact iff_of_true rfl (Or.inl rfl)
  | cons first rest =>
      rw [splitAtEvery] at parts
      split at parts
      · next here =>
          rw [← (List.cons.inj parts).1, here]
          exact iff_of_true rfl (Or.inr rfl)
      · next other =>
          have nonempty : head ≠ [] := by
            intro empty
            rw [empty] at parts
            split at parts
            · cases parts
            · cases parts
          refine iff_of_false nonempty ?_
          rintro (empty | begins)
          · cases empty
          · exact other (Option.some.inj begins)

/-- A split at the last occurrence. -/
theorem of_splitAtLast (split : splitAtLast char text = some (before, after)) :
    text = before ++ char :: after := by
  have whole := List.takeWhile_append_dropWhile (p := fun last => decide (last ≠ char)) (l := text.reverse)
  rw [splitAtLast] at split
  cases rest : text.reverse.dropWhile fun last => last ≠ char with
  | nil =>
      simp only [rest] at split
      cases split
  | cons first earlier =>
      simp only [rest] at split
      cases split
      have found : first = char := by
        have stops := List.head?_dropWhile_not (fun last => decide (last ≠ char)) text.reverse
        rw [rest] at stops
        simpa using stops
      rw [rest, found] at whole
      have same : text = ((text.reverse.takeWhile fun last => decide (last ≠ char)) ++
          char :: earlier).reverse := by
        rw [whole, List.reverse_reverse]
      refine same.trans ?_
      rw [List.reverse_append, List.reverse_cons, List.append_assoc, List.singleton_append]

end Splitting

/-- The file name is the last part of the path, unless that part is empty, leads
nowhere or leads upwards. -/
theorem lastPart_path (path : String) :
    fileName path = some (String.ofList (lastPart '/' path.toList)) ∨
      (lastPart '/' path.toList).length ≤ 2 := by
  have parts : splitAtEvery '/' path.toList =
      (splitAtEvery '/' path.toList).dropLast ++ [lastPart '/' path.toList] :=
    (List.dropLast_append_getLast (splitAtEvery_ne_nil '/' path.toList)).symm
  have short {text : String} (same : String.ofList (lastPart '/' path.toList) = text)
      (within : text.toList.length ≤ 2) : (lastPart '/' path.toList).length ≤ 2 := by
    rw [← same, String.toList_ofList] at within
    exact within
  by_cases empty : String.ofList (lastPart '/' path.toList) = ""
  · exact Or.inr (short empty (by decide))
  · by_cases here : String.ofList (lastPart '/' path.toList) = "."
    · exact Or.inr (short here (by decide))
    · by_cases up : String.ofList (lastPart '/' path.toList) = ".."
      · exact Or.inr (short up (by decide))
      · refine Or.inl ?_
        rw [fileName, components, parts, List.map_append, List.filter_append]
        simp only [List.map_cons, List.map_nil, List.filter_cons, List.filter_nil, ne_eq, empty, here,
          not_false_eq_true, decide_true, Bool.and_self, if_true, List.getLast?_concat,
          Option.filter_some, up]

end Library
end GDriver
