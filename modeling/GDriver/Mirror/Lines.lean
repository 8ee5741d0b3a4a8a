import GDriver.Mirror.Chains
import Mathlib.Data.List.Chain

namespace GDriver
namespace Mirror

open Library Relation Sync

/-!
# The line of a file

Above a file are its parents, as far as they are known.  The walk meets them from the file upwards
and turns the names round at its end, so that a path reads from the topmost ancestor down.
-/

/-- The known ancestors of a file and the file itself, from the topmost down. -/
structure IsLine (known : String → Option (String × Option String)) (fileId : String)
    (line : List String) : Prop where
  members : ∀ id, id ∈ line ↔ ReflTransGen (LeadsTo (parentIn known)) fileId id ∧ (known id).isSome = true
  once : line.Nodup
  descends : line.IsChain fun above below => parentIn known below = some above
  ends : (known fileId).isSome = true → line.getLast? = some fileId

/-- The name of an id, if it is known. -/
def nameIn (known : String → Option (String × Option String)) (id : String) : Option String :=
  (known id).map Prod.fst

section Lines

variable {known : String → Option (String × Option String)} {fileId : String}

/-- What lies above a file lies above its parent. -/
theorem reaches_iff {parentId : String} (leads : parentIn known fileId = some parentId) (id : String) :
    ReflTransGen (LeadsTo (parentIn known)) fileId id ↔
      id = fileId ∨ ReflTransGen (LeadsTo (parentIn known)) parentId id := by
  rw [ReflTransGen.cases_head_iff]
  constructor
  · rintro (same | ⟨above, led, further⟩)
    · exact Or.inl same.symm
    · rw [LeadsTo, leads] at led
      cases led
      exact Or.inr further
  · rintro (same | further)
    · exact Or.inl same.symm
    · exact Or.inr ⟨parentId, leads, further⟩

/-- Nothing lies above a file without a parent. -/
theorem eq_of_reaches {id : String} (last : parentIn known fileId = none)
    (reaches : ReflTransGen (LeadsTo (parentIn known)) fileId id) : id = fileId := by
  rcases ReflTransGen.cases_head_iff.mp reaches with same | ⟨above, led, _⟩
  · exact same.symm
  · rw [LeadsTo, last] at led
    cases led

theorem isLine_of_unknown (absent : known fileId = none) : IsLine known fileId [] where
  members := by
    intro id
    have last : parentIn known fileId = none := by
      rw [parentIn, absent]
      rfl
    refine iff_of_false List.not_mem_nil ?_
    rintro ⟨reaches, isKnown⟩
    rw [eq_of_reaches last reaches, absent] at isKnown
    cases isKnown
  once := List.nodup_nil
  descends := List.isChain_nil
  ends := by
    intro isKnown
    rw [absent] at isKnown
    cases isKnown

theorem isLine_of_top {name : String} (found : known fileId = some (name, none)) : IsLine known fileId [fileId] where
  members := by
    intro id
    have last : parentIn known fileId = none := by
      rw [parentIn, found]
      rfl
    rw [List.mem_singleton]
    constructor
    · intro same
      rw [same]
      exact ⟨ReflTransGen.refl, Option.isSome_of_mem found⟩
    · rintro ⟨reaches, _⟩
      exact eq_of_reaches last reaches
  once := List.nodup_singleton _
  descends := List.isChain_singleton _
  ends := fun _ => rfl

/-- A file continues the line of its parent. -/
theorem IsLine.under {name parentId : String} {line : List String} (acyclic : Acyclic (parentIn known))
    (found : known fileId = some (name, some parentId)) (above : IsLine known parentId line) :
    IsLine known fileId (line ++ [fileId]) := by
  have leads : parentIn known fileId = some parentId := by
    rw [parentIn, found]
    rfl
  have isKnown : (known fileId).isSome = true := Option.isSome_of_mem found
  constructor
  · intro id
    rw [List.mem_append, List.mem_singleton, above.members, reaches_iff leads]
    constructor
    · rintro (⟨reaches, isSome⟩ | same)
      · exact ⟨Or.inr reaches, isSome⟩
      · rw [same]
        exact ⟨Or.inl rfl, isKnown⟩
    · rintro ⟨same | reaches, isSome⟩
      · exact Or.inr same
      · exact Or.inl ⟨reaches, isSome⟩
  · rw [List.nodup_append]
    refine ⟨above.once, List.nodup_singleton _, ?_⟩
    intro id member other alone same
    rw [List.mem_singleton] at alone
    rw [same, alone] at member
    exact acyclic fileId (TransGen.head' leads ((above.members fileId).mp member).1)
  · rw [List.isChain_append]
    refine ⟨above.descends, List.isChain_singleton _, ?_⟩
    intro last isLast first isFirst
    have unknown_or : (known parentId).isSome = true := by
      have reached := (above.members last).mp (List.mem_of_getLast? isLast)
      rcases ReflTransGen.cases_head_iff.mp reached.1 with same | ⟨higher, led, _⟩
      · rw [same]
        exact reached.2
      · rw [LeadsTo, parentIn] at led
        rcases Option.bind_eq_some_iff.mp led with ⟨entry, parentFound, _⟩
        exact Option.isSome_of_mem parentFound
    rw [above.ends unknown_or] at isLast
    cases isLast
    cases isFirst
    exact leads
  · intro _
    exact List.getLast?_concat

/-- The parent chain has the names of a line. -/
theorem exists_isLine (acyclic : Acyclic (parentIn known)) {names : List String} (chain : Chain known fileId names) :
    ∃ line, IsLine known fileId line ∧ names = line.filterMap (nameIn known) := by
  induction chain with
  | unknown absent => exact ⟨[], isLine_of_unknown absent, rfl⟩
  | @top id name found =>
      have named : nameIn known id = some name := by
        rw [nameIn, found]
        rfl
      refine ⟨[id], isLine_of_top found, ?_⟩
      rw [List.filterMap_cons_some named, List.filterMap_nil]
  | @under id name parentId names found above inductionHypothesis =>
      rcases inductionHypothesis with ⟨line, isLine, same⟩
      have named : nameIn known id = some name := by
        rw [nameIn, found]
        rfl
      refine ⟨line ++ [id], isLine.under acyclic found, ?_⟩
      rw [List.filterMap_append, ← same, List.filterMap_cons_some named, List.filterMap_nil]

/-- The walk looks at nothing but the ids that it reaches. -/
theorem ancestorNames_congr {other : String → Option (String × Option String)} (steps : Nat) (id : String)
    (segments : List String)
    (alike : ∀ reached, ReflTransGen (LeadsTo (parentIn known)) id reached → other reached = known reached) :
    ancestorNames other steps id segments = ancestorNames known steps id segments := by
  induction steps generalizing id segments with
  | zero => rfl
  | succ steps inductionHypothesis =>
      rw [ancestorNames, ancestorNames, alike id ReflTransGen.refl]
      cases found : known id with
      | none => rfl
      | some entry =>
          rcases entry with ⟨name, parent⟩
          cases parent with
          | none => rfl
          | some parentId =>
              have leads : LeadsTo (parentIn known) id parentId := by
                rw [LeadsTo, parentIn, found]
                rfl
              exact inductionHypothesis parentId _ fun reached further => alike reached (further.head leads)

end Lines

/-- Over a finite map without cycles, the walk from an id ends, at most one step after all of the
ids, with the names of its line; what the map says of ids that it does not reach plays no part. -/
theorem relative_path_of_line (known : String → Option (String × Option String)) (ids : List String)
    (listed : ∀ id, (known id).isSome = true → id ∈ ids) (acyclic : Acyclic (parentIn known)) (fileId : String) :
    ∃ line, IsLine known fileId line ∧
      (∀ steps, ids.length < steps →
        resolveRelativePath steps fileId known = some (join "/" (line.filterMap (nameIn known)))) ∧
      ∀ other : String → Option (String × Option String),
        (∀ id, ReflTransGen (LeadsTo (parentIn known)) fileId id → other id = known id) →
          ∀ steps, resolveRelativePath steps fileId other = resolveRelativePath steps fileId known := by
  have leading (id : String) (leads : (parentIn known id).isSome) : id ∈ ids := by
    rcases Option.isSome_iff_exists.mp leads with ⟨parentId, led⟩
    rcases Option.bind_eq_some_iff.mp led with ⟨entry, found, _⟩
    exact listed id (Option.isSome_of_mem found)
  have walks (steps : Nat) (enough : ids.length < steps) :
      ∃ names, Chain known fileId names ∧ resolveRelativePath steps fileId known = some (join "/" names) := by
    have ends := endsWithin_of_no_cycle leading (acyclic_iff_forall.mp acyclic fileId) enough
    rw [← isSome_resolveRelativePath] at ends
    rcases Option.isSome_iff_exists.mp ends with ⟨relativePath, resolved⟩
    rcases chain_of_resolveRelativePath resolved with ⟨names, chain, same⟩
    rw [same] at resolved
    exact ⟨names, chain, resolved⟩
  rcases walks (ids.length + 1) (Nat.lt_succ_self _) with ⟨names, chain, _⟩
  rcases exists_isLine acyclic chain with ⟨line, isLine, named⟩
  refine ⟨line, isLine, ?_, ?_⟩
  · intro steps enough
    rcases walks steps enough with ⟨others, again, resolved⟩
    rw [resolved, again.unique chain, named]
  · intro other alike steps
    rw [resolveRelativePath, resolveRelativePath, ancestorNames_congr steps fileId [] alike]

/-- A report in a folder, and notes whose folder is not known. -/
def nestedNames (id : String) : Option (String × Option String) :=
  if id = "root-1" then some ("My Drive", none)
  else if id = "sub-1" then some ("Documents", some "root-1")
  else if id = "f-nested" then some ("report.pdf", some "sub-1")
  else if id = "f-loose" then some ("notes.txt", some "shared-1")
  else none

theorem relative_path_of_nested :
    ∃ line, IsLine nestedNames "f-nested" line ∧
      (∀ steps, 4 < steps →
        resolveRelativePath steps "f-nested" nestedNames = some (join "/" (line.filterMap (nameIn nestedNames)))) ∧
      ∀ other : String → Option (String × Option String),
        (∀ id, ReflTransGen (LeadsTo (parentIn nestedNames)) "f-nested" id → other id = nestedNames id) →
          ∀ steps, resolveRelativePath steps "f-nested" other = resolveRelativePath steps "f-nested" nestedNames := by
  have listed (id : String) (isKnown : (nestedNames id).isSome = true) :
      id ∈ ["root-1", "sub-1", "f-nested", "f-loose"] := by
    unfold nestedNames at isKnown
    split_ifs at isKnown <;> simp_all
  have leading (id : String) (leads : (parentIn nestedNames id).isSome) :
      id ∈ ["root-1", "sub-1", "f-nested", "f-loose"] := by
    rcases Option.isSome_iff_exists.mp leads with ⟨parentId, led⟩
    rcases Option.bind_eq_some_iff.mp led with ⟨entry, found, _⟩
    exact listed id (Option.isSome_of_mem found)
  have acyclic : Acyclic (parentIn nestedNames) := @acyclic_of_ends _ _ _ leading 4 (by decide)
  exact relative_path_of_line nestedNames ["root-1", "sub-1", "f-nested", "f-loose"] listed acyclic "f-nested"

end Mirror
end GDriver
