import GDriver.Library.Path

namespace GDriver
namespace Library

/-!
# Normal forms of paths

Where a path leads when its components are taken as steps one after the other: a `..`
leads back up, at the root it leads nowhere, and in a relative path that has no step to
take back it stays.  No link is looked at.
-/

/-- Take one step from a place. -/
def step (rooted : Bool) (place : List String) (part : String) : List String :=
  if part = ".." then
    match place.getLast? with
    | none => if rooted then [] else [".."]
    | some last => if last = ".." then place ++ [".."] else place.dropLast
  else place ++ [part]

/-- Take several steps from a place. -/
def walk (rooted : Bool) (place : List String) (parts : List String) : List String :=
  parts.foldl (step rooted) place

/-- A path without empty, idle or superfluous steps. -/
structure Place where
  rooted : Bool
  parts : List String
  deriving DecidableEq, Repr

/-- Where a path leads. -/
def placeOf (path : String) : Place where
  rooted := startsWith path "/"
  parts := walk (startsWith path "/") [] (components path)

/-- The place lies strictly below the other. -/
def Place.StrictlyBelow (place folder : Place) : Prop :=
  place.rooted = folder.rooted ∧ ∃ part more, place.parts = folder.parts ++ part :: more

/-- The path leads strictly into the folder. -/
def StrictlyInside (folder path : String) : Prop :=
  (placeOf path).StrictlyBelow (placeOf folder)

theorem walk_append (rooted : Bool) (place first second : List String) :
    walk rooted place (first ++ second) = walk rooted (walk rooted place first) second :=
  List.foldl_append

/-- Steps that never lead up are appended. -/
theorem walk_of_down {parts : List String} (down : ".." ∉ parts) (rooted : Bool) (place : List String) :
    walk rooted place parts = place ++ parts := by
  induction parts generalizing place with
  | nil => exact (List.append_nil place).symm
  | cons part rest inductionHypothesis =>
      rw [List.mem_cons, not_or] at down
      have first : step rooted place part = place ++ [part] := if_neg fun up => down.1 up.symm
      rw [walk, List.foldl_cons, ← walk, first, inductionHypothesis down.2, List.append_assoc]
      rfl

/-! ## Components of joined paths -/

/-- The components of two paths with a slash between them. -/
theorem components_slash (first second : String) :
    components (first ++ "/" ++ second) = components first ++ components second := by
  have split : (first ++ "/" ++ second).toList = first.toList ++ '/' :: second.toList := by
    simp only [String.toList_append, List.append_assoc]
    rfl
  simp only [components, split, splitAtEvery_append, List.map_append, List.filter_append]

theorem components_empty : components "" = [] := by decide

/-- The components of joined parts. -/
theorem components_join (parts : List String) :
    components (join "/" parts) = parts.flatMap components := by
  induction parts with
  | nil => exact components_empty
  | cons part rest inductionHypothesis =>
      cases rest with
      | nil => simp only [join, List.flatMap_cons, List.flatMap_nil, List.append_nil]
      | cons second rest =>
          rw [join, components_slash, inductionHypothesis]
          · rfl
          · intro impossible
            cases impossible

/-- A path is its trimmed text with the slashes that were cut off. -/
theorem toList_trimEndMatches (text : String) (char : Char) :
    ∃ count, text.toList = (trimEndMatches text char).toList ++ List.replicate count char := by
  have whole := List.takeWhile_append_dropWhile (p := fun last => decide (last = char))
    (l := text.toList.reverse)
  refine ⟨(text.toList.reverse.takeWhile fun last => decide (last = char)).length, ?_⟩
  have cut : (text.toList.reverse.takeWhile fun last => decide (last = char)) =
      List.replicate (text.toList.reverse.takeWhile fun last => decide (last = char)).length char := by
    refine List.eq_replicate_iff.mpr ⟨rfl, fun last member => ?_⟩
    exact of_decide_eq_true (List.all_eq_true.mp List.all_takeWhile last member)
  have turned := congrArg List.reverse whole
  rw [List.reverse_append, List.reverse_reverse] at turned
  rw [trimEndMatches, String.toList_ofList, ← List.reverse_replicate, ← cut]
  exact turned.symm

theorem components_append_slashes (text : String) (count : Nat) :
    components (String.ofList (text.toList ++ List.replicate count '/')) = components text := by
  induction count with
  | zero => rw [List.replicate_zero, List.append_nil, String.ofList_toList]
  | succ count inductionHypothesis =>
      have same : String.ofList (text.toList ++ List.replicate (count + 1) '/') =
          String.ofList (text.toList ++ List.replicate count '/') ++ "/" ++ "" := by
        apply String.toList_injective
        simp only [String.toList_append, String.toList_ofList, List.replicate_succ', List.append_assoc]
        rfl
      rw [same, components_slash, inductionHypothesis, components_empty, List.append_nil]

theorem components_trimEndMatches (text : String) :
    components (trimEndMatches text '/') = components text := by
  rcases toList_trimEndMatches text '/' with ⟨count, whole⟩
  rw [← components_append_slashes (trimEndMatches text '/') count, ← whole, String.ofList_toList]

/-- Whether a path under a folder is rooted is decided by the text of the folder. -/
theorem startsWith_slash (folder path : String) :
    startsWith (trimEndMatches folder '/' ++ "/" ++ path) "/" = startsWith (folder ++ "/") "/" := by
  rcases toList_trimEndMatches folder '/' with ⟨count, whole⟩
  simp only [startsWith, String.toList_append, whole]
  cases (trimEndMatches folder '/').toList with
  | nil =>
      cases count with
      | zero => rfl
      | succ count => rfl
  | cons first rest => rfl

/-- Where a path under a folder leads: along its components, from where the folder
leads. -/
theorem placeOf_under (folder path : String) :
    placeOf (trimEndMatches folder '/' ++ "/" ++ path) =
      ⟨(placeOf (folder ++ "/")).rooted,
        walk (placeOf (folder ++ "/")).rooted (placeOf (folder ++ "/")).parts (components path)⟩ := by
  have bare : components (folder ++ "/") = components folder := by
    have extended := components_slash folder ""
    rw [String.append_empty, components_empty, List.append_nil] at extended
    exact extended
  simp only [placeOf, startsWith_slash, components_slash, components_trimEndMatches, bare, walk_append]

/-! ## The parent of a path -/

section Parents

/-- The components of a path are the parts of its text that denote something. -/
theorem components_eq (path : String) :
    components path = ((splitAtEvery '/' path.toList).filter fun part => !isIdle part).map String.ofList := by
  rw [components, List.filter_map]
  refine congrArg (List.map String.ofList) (List.filter_congr fun part _ => ?_)
  have empty : String.ofList part = "" ↔ part = [] := by
    rw [← String.toList_inj, String.toList_ofList]
    rfl
  have dot : String.ofList part = "." ↔ part = ['.'] := by
    have one : ".".toList = ['.'] := by decide
    rw [← String.toList_inj, String.toList_ofList, one]
  simp only [Function.comp_apply, isIdle, ne_eq, empty, dot, Bool.not_or, decide_not]

theorem filter_rdropWhile_isIdle (parts : List (List Char)) :
    (parts.rdropWhile isIdle).filter (fun part => !isIdle part) = parts.filter fun part => !isIdle part := by
  induction parts using List.reverseRecOn with
  | nil => rw [List.rdropWhile_nil]
  | append_singleton init last inductionHypothesis =>
      rw [List.rdropWhile_concat]
      split
      · next idle => rw [inductionHypothesis, List.filter_append, List.filter_singleton, idle, Bool.not_true,
          cond_false, List.append_nil]
      · rfl

/-- What is before the last component has the other components. -/
theorem filter_innerParts (parts : List (List Char)) :
    (innerParts parts).filter (fun part => !isIdle part) = (parts.filter fun part => !isIdle part).dropLast := by
  rw [innerParts, filter_rdropWhile_isIdle, ← filter_rdropWhile_isIdle parts]
  rcases List.eq_nil_or_concat (parts.rdropWhile isIdle) with empty | ⟨init, last, same⟩
  · rw [empty]
    rfl
  · have stays : isIdle last = false := by
      have nonempty : parts.rdropWhile isIdle ≠ [] := by
        rw [same, List.concat_eq_append]
        exact List.concat_ne_nil _ _
      have ends := List.rdropWhile_last_not isIdle parts nonempty
      simp only [same, List.concat_eq_append, List.getLast_concat] at ends
      exact Bool.eq_false_iff.mpr ends
    rw [same, List.concat_eq_append, List.dropLast_concat, List.filter_append, List.filter_singleton, stays,
      Bool.not_false, cond_true, List.dropLast_concat]

theorem components_join_parts {parts : List (List Char)} (whole : ∀ part ∈ parts, '/' ∉ part) :
    components (join "/" (parts.map String.ofList)) = (parts.filter fun part => !isIdle part).map String.ofList := by
  rw [components_join, List.flatMap_map]
  induction parts with
  | nil => rfl
  | cons part rest inductionHypothesis =>
      rw [List.flatMap_cons, inductionHypothesis fun part member => whole part (List.mem_cons_of_mem _ member),
        components_eq, String.toList_ofList, splitAtEvery_of_notMem (whole part List.mem_cons_self),
        ← List.map_append, ← List.filter_append]
      rfl

theorem components_join_innerParts {parts : List (List Char)} (whole : ∀ part ∈ parts, '/' ∉ part) :
    components (join "/" ((innerParts parts).map String.ofList)) =
      ((parts.filter fun part => !isIdle part).map String.ofList).dropLast := by
  have inside : ∀ part ∈ innerParts parts, '/' ∉ part := fun part member =>
    whole part ((List.rdropWhile_prefix _ _).subset
      (List.dropLast_subset _ ((List.rdropWhile_prefix _ _).subset member)))
  rw [components_join_parts inside, filter_innerParts, List.map_dropLast]

theorem components_rooted (path : String) : components ("/" ++ path) = components path := by
  have slash := components_slash "" path
  rw [String.empty_append, components_empty, List.nil_append] at slash
  exact slash

theorem head_of_rooted {path : String} (rooted : startsWith path "/" = true) :
    ∃ tail, splitAtEvery '/' path.toList = [] :: tail := by
  have slash : "/".toList = ['/'] := by decide
  rw [startsWith, slash] at rooted
  cases text : path.toList with
  | nil =>
      rw [text] at rooted
      cases rooted
  | cons first rest =>
      rw [text, List.isPrefixOf_cons_cons, Bool.and_eq_true, beq_iff_eq] at rooted
      rw [splitAtEvery, if_pos rooted.1.symm]
      exact ⟨_, rfl⟩

/-- An idle part at the beginning adds no component. -/
theorem components_of_idle_head {path : String} {head : List Char} {tail : List (List Char)}
    (parts : splitAtEvery '/' path.toList = head :: tail) (idle : isIdle head = true) :
    components path = (tail.filter fun part => !isIdle part).map String.ofList := by
  rw [components_eq, parts, List.filter_cons, idle, Bool.not_true, if_neg Bool.false_ne_true]

/-- The parent of a path has its components but for the last. -/
theorem components_parentPath {path parent : String} (leads : parentPath path = some parent) :
    components parent = (components path).dropLast := by
  have whole {part : List Char} : part ∈ splitAtEvery '/' path.toList → '/' ∉ part := notMem_of_mem_splitAtEvery
  have wholeTail : ∀ part ∈ (splitAtEvery '/' path.toList).tail, '/' ∉ part :=
    fun part member => whole (List.mem_of_mem_tail member)
  rw [parentPath] at leads
  split at leads
  · next rooted =>
      rcases head_of_rooted rooted with ⟨tail, parts⟩
      split at leads
      · cases leads
      · rw [← Option.some.inj leads, components_rooted, components_join_innerParts wholeTail,
          components_of_idle_head parts rfl, parts, List.tail_cons]
  · split at leads
    · next dot =>
        rcases List.head?_eq_some_iff.mp dot with ⟨tail, parts⟩
        have own := components_of_idle_head parts rfl
        split at leads
        · next none_ =>
            rw [← Option.some.inj leads, List.isEmpty_iff.mp none_, components_empty]
            rfl
        · rw [← Option.some.inj leads, own, parts, List.tail_cons]
          rw [parts, List.tail_cons] at wholeTail
          have joined := components_join_innerParts wholeTail
          have here : components "." = [] := by decide
          rw [components_join] at joined ⊢
          rw [List.flatMap_cons, here, List.nil_append, joined]
    · split at leads
      · cases leads
      · rw [← Option.some.inj leads, components_join_innerParts fun _ => whole, components_eq]

/-- Without a parent a path has no components, as the current directory. -/
theorem components_parentPath_getD (path : String) :
    components ((parentPath path).getD ".") = (components path).dropLast := by
  cases leads : parentPath path with
  | some parent => exact components_parentPath leads
  | none =>
      have here : components "." = [] := by decide
      have empty : components path = [] := by
        rw [parentPath] at leads
        split at leads
        · split at leads
          · next none_ => exact List.isEmpty_iff.mp none_
          · cases leads
        · split at leads
          · split at leads
            · cases leads
            · cases leads
          · split at leads
            · next none_ => exact List.isEmpty_iff.mp none_
            · cases leads
      rw [Option.getD_none, here, empty]
      rfl

end Parents

/-! ## Paths that lead elsewhere -/

section Apart

variable {rooted : Bool} {parts others : List String} {part other : String}

theorem walk_concat_of_down (down : part ≠ "..") (place : List String) :
    walk rooted place (parts ++ [part]) = walk rooted place parts ++ [part] := by
  rw [walk_append]
  exact if_neg down

/-- A step down never leads where another step leads. -/
theorem step_ne (down : part ≠ "..") (apart : other ≠ part) (place : List String) :
    step rooted place other ≠ place ++ [part] := by
  have longer : (place ++ [part]).length = place.length + 1 := List.length_append
  have ends (text : String) : text ≠ part → place ++ [text] ≠ place ++ [part] := by
    intro another same
    exact another (List.singleton_inj.mp (List.append_cancel_left same))
  rw [step]
  split
  · split
    · next empty =>
        rw [List.getLast?_eq_none_iff.mp empty, List.nil_append]
        split
        · exact (List.cons_ne_nil _ _).symm
        · intro same
          exact down (List.singleton_inj.mp same).symm
    · split
      · exact ends ".." down.symm
      · intro same
        have shorter := congrArg List.length same
        rw [List.length_dropLast, longer] at shorter
        omega
  · exact ends other apart

/-- Two paths whose last steps go down to different parts lead to different places. -/
theorem placeOf_ne_of_last {first second : String} (here : components first = parts ++ [part])
    (there : components second = others ++ [other]) (down : part ≠ "..") (downToo : other ≠ "..")
    (apart : part ≠ other) : placeOf first ≠ placeOf second := by
  intro same
  have walked := congrArg Place.parts same
  simp only [placeOf, here, there, walk_concat_of_down down, walk_concat_of_down downToo] at walked
  exact apart (List.append_inj_right' walked rfl |> List.singleton_inj.mp)

/-- A path leads elsewhere than one that takes another last step, or stops before it. -/
theorem placeOf_ne_of_step {first second : String} {last : List String} (here : components first = parts ++ [part])
    (there : components second = parts ++ last) (short : last.length ≤ 1) (down : part ≠ "..")
    (apart : part ∉ last) : placeOf first ≠ placeOf second := by
  intro same
  have flags := congrArg Place.rooted same
  have walked := congrArg Place.parts same
  simp only [placeOf] at flags
  simp only [placeOf, here, there, walk_concat_of_down down, ← flags, walk_append] at walked
  cases last with
  | nil =>
      have lengths := congrArg List.length walked
      rw [List.length_append] at lengths
      exact absurd lengths (Nat.succ_ne_self _)
  | cons other rest =>
      rw [List.length_eq_zero_iff.mp (Nat.le_zero.mp (Nat.le_of_succ_le_succ short))] at walked apart
      exact step_ne down (fun equal => apart (List.mem_singleton.mpr equal.symm)) _ walked.symm

end Apart

/-- The last part of the text of a path, if it denotes something. -/
theorem components_lastPart (path : String) :
    ∃ parts, ∀ suffix : String, '/' ∉ suffix.toList →
      components (path ++ suffix) = parts ++
        ([lastPart '/' path.toList ++ suffix.toList].filter fun part => !isIdle part).map String.ofList := by
  refine ⟨(((splitAtEvery '/' path.toList).dropLast).filter fun part => !isIdle part).map String.ofList,
    fun suffix noSlash => ?_⟩
  have parts : splitAtEvery '/' path.toList =
      (splitAtEvery '/' path.toList).dropLast ++ [lastPart '/' path.toList] :=
    (List.dropLast_append_getLast (splitAtEvery_ne_nil '/' path.toList)).symm
  rw [components_eq, String.toList_append, splitAtEvery_extended parts (splitAtEvery_of_notMem noSlash),
    List.filter_append, List.map_append]

theorem ofList_ne_up {part : List Char} (long : 2 < part.length) : String.ofList part ≠ ".." := by
  intro same
  have two : "..".length = 2 := by decide
  have lengths := congrArg String.length same
  rw [String.length_ofList, two] at lengths
  omega

theorem isIdle_of_long {part : List Char} (long : 2 < part.length) : isIdle part = false := by
  rw [isIdle, Bool.or_eq_false_iff, decide_eq_false_iff_not, decide_eq_false_iff_not]
  constructor
  · rintro rfl
    exact Nat.not_lt_zero _ long
  · rintro rfl
    exact absurd long (by decide)

theorem lt_length_lastPart {suffix : String} (long : 2 < suffix.length) (path : String) :
    2 < (lastPart '/' path.toList ++ suffix.toList).length := by
  rw [List.length_append, String.length_toList]
  omega

/-- The components of a path with a longer text in its last part. -/
theorem components_extended {suffix : String} (noSlash : '/' ∉ suffix.toList) (long : 2 < suffix.length)
    (path : String) :
    ∃ parts, components (path ++ suffix) = parts ++ [String.ofList (lastPart '/' path.toList ++ suffix.toList)] := by
  rcases components_lastPart path with ⟨parts, known⟩
  refine ⟨parts, (known suffix noSlash).trans ?_⟩
  rw [List.filter_singleton, isIdle_of_long (lt_length_lastPart long path)]
  rfl

/-- A path with a longer text in its last part leads elsewhere. -/
theorem placeOf_extended_ne {suffix : String} (noSlash : '/' ∉ suffix.toList) (long : 2 < suffix.length)
    (path : String) : placeOf (path ++ suffix) ≠ placeOf path := by
  rcases components_lastPart path with ⟨parts, known⟩
  have own := known "" List.not_mem_nil
  have extended := known suffix noSlash
  have longer := lt_length_lastPart long path
  rw [List.filter_singleton, isIdle_of_long longer] at extended
  rw [String.append_empty] at own
  refine placeOf_ne_of_step extended own ?_ (ofList_ne_up longer) ?_
  · rw [List.length_map]
    exact List.length_filter_le _ [_]
  · intro member
    rcases List.mem_map.mp member with ⟨part, inside, same⟩
    have whole := List.mem_singleton.mp (List.mem_filter.mp inside).1
    have lengths := congrArg String.length same
    rw [String.length_ofList, String.length_ofList, whole, List.length_append, List.length_append,
      String.length_toList, String.length_toList] at lengths
    have zero : "".length = 0 := rfl
    omega

/-- The components of a path joined with a name that has no slash. -/
theorem components_joinPath {name : String} (noSlash : '/' ∉ name.toList) (long : 2 < name.length)
    (directory : String) : components (joinPath directory name) = components directory ++ [name] := by
  have alone : components name = [name] := by
    rw [components_eq, splitAtEvery_of_notMem noSlash, List.filter_singleton,
      isIdle_of_long (by rw [String.length_toList]; exact long)]
    exact congrArg (fun text => [text]) String.ofList_toList
  have relative : startsWith name "/" = false := by
    rw [Bool.eq_false_iff]
    intro rooted
    rcases head_of_rooted rooted with ⟨tail, parts⟩
    rw [splitAtEvery_of_notMem noSlash] at parts
    have empty := (List.cons.inj parts).1
    rw [← String.length_toList, empty] at long
    exact absurd long (Nat.not_lt_zero _)
  rw [joinPath, if_neg (Bool.eq_false_iff.mp relative)]
  split
  · next empty =>
      have same : directory = "" := String.toList_inj.mp empty
      rw [alone, same, components_empty, List.nil_append]
  · split
    · next ends =>
        rcases List.getLast?_eq_some_iff.mp ends with ⟨rest, text⟩
        have same : directory = String.ofList rest ++ "/" ++ "" := by
          apply String.toList_injective
          have slash : "/".toList = ['/'] := by decide
          rw [text, String.append_empty, String.toList_append, String.toList_ofList, slash]
        have joined : directory ++ name = String.ofList rest ++ "/" ++ name := by
          rw [same, String.append_empty]
        rw [joined, components_slash, alone, same, components_slash, components_empty, List.append_nil]
    · rw [components_slash, alone]

/-- A name that is a single component. -/
def isPlain (name : String) : Bool :=
  name ≠ "" && name ≠ "." && name ≠ ".." && !name.toList.contains '/'

theorem components_of_plain {name : String} (plain : isPlain name = true) :
    components name = [name] ∧ name ≠ ".." := by
  simp only [isPlain, Bool.and_eq_true, decide_eq_true_eq, Bool.not_eq_true',
    List.contains_eq_mem, decide_eq_false_iff_not] at plain
  rcases plain with ⟨⟨⟨nonempty, here⟩, up⟩, whole⟩
  refine ⟨?_, up⟩
  simp only [components, splitAtEvery_of_notMem whole, List.map_cons, List.map_nil, String.ofList_toList]
  simp only [List.filter_cons, List.filter_nil, ne_eq, nonempty, here, not_false_eq_true, decide_true,
    Bool.and_self, if_true]

end Library
end GDriver
