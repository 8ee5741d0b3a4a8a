import GDriver.Api.Multipart

namespace GDriver
namespace Ipc

open Api (jsonString)

/-!
# JSON values

What the derived conversions write into a value and read from one, and the text of a value.  The
fields of an object are in the order of their names.  A record may also be given as an array of its
fields.  Floating point is left to a format that is given: all that counts is that a number that fits
the narrow format survives the wide one.
-/

/-- The floating-point formats of 32 and of 64 bits, and how a number of 64 bits is printed. -/
structure FloatFormat where
  Single : Type
  Double : Type
  isFinite : Single → Bool
  widen : Single → Double
  narrow : Double → Single
  ofInt : Int → Single
  narrow_widen : ∀ number, isFinite number = true → narrow (widen number) = number
  print : Double → List Char
  print_visible : ∀ number, ∀ char ∈ print number, 32 ≤ char.toNat

/-- A JSON value. -/
inductive Json (Double : Type) where
  | null
  | bool (value : Bool)
  | int (number : Int)
  | float (number : Double)
  | string (text : String)
  | array (items : List (Json Double))
  | object (fields : List (String × Json Double))

namespace Json

/-! ## Texts -/

section Printing

variable (floats : FloatFormat)

mutual

/-- The text of a value, without any space. -/
def print : Json floats.Double → List Char
  | .null => "null".toList
  | .bool value => (if value then "true" else "false").toList
  | .int number => (toString number).toList
  | .float number => floats.print number
  | .string text => jsonString text
  | .array items => '[' :: (printItems items ++ [']'])
  | .object fields => '\x7b' :: (printFields fields ++ ['\x7d'])

def printItems : List (Json floats.Double) → List Char
  | [] => []
  | item :: rest => print item ++ (if rest.isEmpty then [] else [',']) ++ printItems rest

def printFields : List (String × Json floats.Double) → List Char
  | [] => []
  | (name, value) :: rest =>
      jsonString name ++ [':'] ++ print value ++ (if rest.isEmpty then [] else [',']) ++ printFields rest

end

end Printing

/-! ## Objects -/

section Objects

variable {Double : Type}

/-- The value of a field. -/
def lookup (name : String) : List (String × Json Double) → Option (Json Double)
  | [] => none
  | (first, value) :: rest => if first = name then some value else lookup name rest

/-- Set a field, at its place in the order of the names. -/
def insert (name : String) (value : Json Double) : List (String × Json Double) → List (String × Json Double)
  | [] => [(name, value)]
  | (first, kept) :: rest =>
      if name < first then (name, value) :: (first, kept) :: rest
      else if first = name then (name, value) :: rest
      else (first, kept) :: insert name value rest

/-- The object with the fields of a record, set one after the other. -/
def ofFields (names : List String) (values : List (Json Double)) : List (String × Json Double) :=
  (names.zip values).foldl (fun fields field => insert field.1 field.2 fields) []

/-- The values of the fields of a record, in the order of their names.  An array gives them by their
places; the last ones may be left out of it if they have a default. -/
def fieldValues (names : List String) (needed : Nat) : Json Double → Option (List (Option (Json Double)))
  | .object fields => some (names.map fun name => lookup name fields)
  | .array items =>
      if needed ≤ items.length ∧ items.length ≤ names.length then
        some (items.map some ++ List.replicate (names.length - items.length) none)
      else none
  | _ => none

end Objects

/-! ## Fields -/

section Fields

variable {Double α : Type}

def readString : Json Double → Option String
  | .string text => some text
  | _ => none

def readBool : Json Double → Option Bool
  | .bool value => some value
  | _ => none

def readI64 : Json Double → Option Int64
  | .int number =>
      if -9223372036854775808 ≤ number ∧ number < 9223372036854775808 then some (Int64.ofInt number) else none
  | _ => none

def readU64 : Json Double → Option UInt64
  | .int number => if 0 ≤ number ∧ number < 18446744073709551616 then some (UInt64.ofNat number.toNat) else none
  | _ => none

def readU32 : Json Double → Option UInt32
  | .int number => if 0 ≤ number ∧ number < 4294967296 then some (UInt32.ofNat number.toNat) else none
  | _ => none

def readList (read : Json Double → Option α) : Json Double → Option (List α)
  | .array items => items.mapM read
  | _ => none

/-- A constructor without fields, by its name or as the only field of an object. -/
def readVariant (name : α → String) (all : List α) : Json Double → Option α
  | .string text => all.find? fun value => name value = text
  | .object [(text, .null)] => all.find? fun value => name value = text
  | _ => none

/-- A field that must be there. -/
def required (read : Json Double → Option α) (field : Option (Json Double)) : Option α :=
  field.bind read

/-- A field that may be `null` or left out. -/
def optional (read : Json Double → Option α) : Option (Json Double) → Option (Option α)
  | none => some none
  | some .null => some none
  | some value => (read value).map some

def ofI64 (number : Int64) : Json Double :=
  .int number.toInt

def ofU64 (number : UInt64) : Json Double :=
  .int number.toNat

def ofU32 (number : UInt32) : Json Double :=
  .int number.toNat

def ofOption (write : α → Json Double) : Option α → Json Double
  | none => .null
  | some value => write value

end Fields

section Floats

variable (floats : FloatFormat)

def readF32 : Json floats.Double → Option floats.Single
  | .float number => some (floats.narrow number)
  | .int number => some (floats.ofInt number)
  | _ => none

/-- A number that is not finite is written as `null`. -/
def ofF32 (number : floats.Single) : Json floats.Double :=
  if floats.isFinite number then .float (floats.widen number) else .null

end Floats

/-! ## What is written is read -/

section Written

variable {Double α : Type}

theorem lookup_insert (name wanted : String) (value : Json Double) (fields : List (String × Json Double)) :
    lookup wanted (insert name value fields) = if name = wanted then some value else lookup wanted fields := by
  induction fields with
  | nil => rfl
  | cons field rest inductionHypothesis =>
      rw [insert]
      split
      · rfl
      · split
        · next same =>
            rw [lookup, lookup, same]
            split
            · rfl
            · rfl
        · next other =>
            rw [lookup, inductionHypothesis, lookup]
            by_cases first : field.1 = wanted
            · have apart : name ≠ wanted := fun same => other (first.trans same.symm)
              rw [if_pos first, if_neg apart, if_pos first]
            · rw [if_neg first, if_neg first]

/-- A field that is not among those that are set stays. -/
theorem lookup_foldl_of_notMem {names : List String} {name : String} (absent : name ∉ names)
    (values : List (Json Double))
    (fields : List (String × Json Double)) :
    lookup name ((names.zip values).foldl (fun fields field => insert field.1 field.2 fields) fields) =
      lookup name fields := by
  induction names generalizing values fields with
  | nil => rfl
  | cons first names inductionHypothesis =>
      cases values with
      | nil => rfl
      | cons value values =>
          have apart : first ≠ name := fun same => absent (same ▸ List.mem_cons_self)
          have later : name ∉ names := fun member => absent (List.mem_cons_of_mem _ member)
          rw [List.zip_cons_cons, List.foldl_cons, inductionHypothesis later, lookup_insert, if_neg apart]

theorem map_lookup_foldl {names : List String} (distinct : names.Nodup) {values : List (Json Double)}
    (full : names.length = values.length) (fields : List (String × Json Double)) :
    (names.map fun name =>
        lookup name ((names.zip values).foldl (fun fields field => insert field.1 field.2 fields) fields)) =
      values.map some := by
  induction names generalizing values fields with
  | nil =>
      cases values with
      | nil => rfl
      | cons value values => cases full
  | cons name names inductionHypothesis =>
      cases values with
      | nil => cases full
      | cons value values =>
          have parts := List.nodup_cons.mp distinct
          rw [List.zip_cons_cons, List.foldl_cons, List.map_cons, List.map_cons, lookup_foldl_of_notMem parts.1,
            lookup_insert,
            if_pos rfl, inductionHypothesis parts.2 (Nat.succ.inj full)]

theorem fieldValues_ofFields {names : List String} (distinct : names.Nodup) {values : List (Json Double)}
    (full : names.length = values.length) (needed : Nat) :
    fieldValues names needed (.object (ofFields names values)) = some (values.map some) :=
  congrArg some (map_lookup_foldl distinct full [])

theorem readI64_ofI64 (number : Int64) : readI64 (ofI64 number : Json Double) = some number := by
  have low := number.le_toInt
  have high := number.toInt_lt
  rw [ofI64, readI64, if_pos ⟨low, high⟩, Int64.ofInt_toInt]

theorem readU64_ofU64 (number : UInt64) : readU64 (ofU64 number : Json Double) = some number := by
  have bound := number.toNat_lt
  have fits : 0 ≤ (number.toNat : Int) ∧ (number.toNat : Int) < 18446744073709551616 := by omega
  rw [ofU64, readU64, if_pos fits, Int.toNat_natCast, UInt64.ofNat_toNat]

theorem readU32_ofU32 (number : UInt32) : readU32 (ofU32 number : Json Double) = some number := by
  have bound := number.toNat_lt
  have fits : 0 ≤ (number.toNat : Int) ∧ (number.toNat : Int) < 4294967296 := by omega
  rw [ofU32, readU32, if_pos fits, Int.toNat_natCast, UInt32.ofNat_toNat]

theorem readList_map {read : Json Double → Option α} {write : α → Json Double} {values : List α}
    (kept : ∀ value ∈ values, read (write value) = some value) : readList read (.array (values.map write)) =
      some values := by
  rw [readList]
  induction values with
  | nil => rfl
  | cons value rest inductionHypothesis =>
      rw [List.map_cons, List.mapM_cons, kept value List.mem_cons_self,
        inductionHypothesis fun later member => kept later (List.mem_cons_of_mem _ member)]
      rfl

/-- A constructor is found by its name if no two have one name. -/
theorem readVariant_name {name : α → String} {all : List α} (distinct : (all.map name).Nodup) {value : α}
    (member : value ∈ all) : readVariant name all (.string (name value) : Json Double) = some value := by
  rw [readVariant]
  induction all with
  | nil => cases member
  | cons first rest inductionHypothesis =>
      have parts := List.nodup_cons.mp (List.map_cons ▸ distinct)
      rw [List.find?_cons]
      rcases List.mem_cons.mp member with same | later
      · rw [same, decide_eq_true rfl]
      · have apart : name first ≠ name value := fun same => parts.1 (same ▸ List.mem_map_of_mem later)
        rw [decide_eq_false apart]
        exact inductionHypothesis parts.2 later

@[simp] theorem required_string (text : String) :
    required readString (some (.string text) : Option (Json Double)) = some text := rfl

@[simp] theorem required_bool (value : Bool) : required readBool (some (.bool value) : Option (Json Double)) =
  some value := rfl

theorem required_of_read {read : Json Double → Option α} {written : Json Double} {value : α}
    (kept : read written = some value) : required read (some written) = some value :=
  kept

@[simp] theorem required_i64 (number : Int64) :
    required readI64 (some (ofI64 number) : Option (Json Double)) = some number :=
  required_of_read (readI64_ofI64 number)

@[simp] theorem required_u64 (number : UInt64) :
    required readU64 (some (ofU64 number) : Option (Json Double)) = some number :=
  required_of_read (readU64_ofU64 number)

/-- An optional field is kept if its value is, and is not written as `null`. -/
theorem optional_ofOption {read : Json Double → Option α} {write : α → Json Double} {value : Option α}
    (kept : ∀ inner ∈ value, read (write inner) = some inner) (some_ : ∀ inner ∈ value, write inner ≠ .null) :
    optional read (some (ofOption write value)) = some value := by
  cases value with
  | none => rfl
  | some inner =>
      rw [ofOption]
      have same := kept inner rfl
      have notNull := some_ inner rfl
      cases written : write inner with
      | null => exact absurd written notNull
      | bool _ => exact congrArg (Option.map some) (written ▸ same)
      | int _ => exact congrArg (Option.map some) (written ▸ same)
      | float _ => exact congrArg (Option.map some) (written ▸ same)
      | string _ => exact congrArg (Option.map some) (written ▸ same)
      | array _ => exact congrArg (Option.map some) (written ▸ same)
      | object _ => exact congrArg (Option.map some) (written ▸ same)

@[simp] theorem optional_string (text : Option String) :
    optional readString (some (ofOption .string text) : Option (Json Double)) = some text :=
  optional_ofOption (fun _ _ => rfl) fun _ _ impossible => by cases impossible

@[simp] theorem optional_u64 (number : Option UInt64) :
    optional readU64 (some (ofOption ofU64 number) : Option (Json Double)) = some number :=
  optional_ofOption (fun inner _ => readU64_ofU64 inner) fun _ _ impossible => by cases impossible

@[simp] theorem optional_u32 (number : Option UInt32) :
    optional readU32 (some (ofOption ofU32 number) : Option (Json Double)) = some number :=
  optional_ofOption (fun inner _ => readU32_ofU32 inner) fun _ _ impossible => by cases impossible

end Written

section WrittenFloats

variable {floats : FloatFormat}

theorem readF32_ofF32 {number : floats.Single} (finite : floats.isFinite number = true) :
    readF32 floats (ofF32 floats number) = some number := by
  rw [ofF32, if_pos finite]
  exact congrArg some (floats.narrow_widen number finite)

theorem optional_f32 {number : Option floats.Single} (finite : ∀ inner ∈ number, floats.isFinite inner = true) :
    optional (readF32 floats) (some (ofOption (ofF32 floats) number)) = some number := by
  refine optional_ofOption (fun inner member => readF32_ofF32 (finite inner member)) ?_
  intro inner member
  rw [ofF32, if_pos (finite inner member)]
  intro impossible
  cases impossible

end WrittenFloats

/-! ## Printed texts -/

/-- A text without control characters. -/
def Visible (text : List Char) : Prop :=
  ∀ char ∈ text, 32 ≤ char.toNat

instance (text : List Char) : Decidable (Visible text) :=
  List.decidableBAll (fun char : Char => 32 ≤ char.toNat) text

theorem Visible.append {first second : List Char} (visible : Visible first) (also : Visible second) :
    Visible (first ++ second) := by
  intro char member
  rcases List.mem_append.mp member with inside | inside
  · exact visible char inside
  · exact also char inside

theorem Visible.newline_notMem {text : List Char} (visible : Visible text) : '\n' ∉ text ∧ '\r' ∉ text :=
  ⟨fun member => absurd (visible '\n' member) (by decide), fun member => absurd (visible '\r' member) (by decide)⟩

theorem visible_jsonString (text : String) : Visible (jsonString text) :=
  fun _ member => Api.le_toNat_of_mem_jsonString member

theorem visible_toString_nat (number : Nat) : Visible (toString number).toList := by
  intro char member
  rw [Nat.toString_eq_ofList_toDigits, String.toList_ofList] at member
  have digit := Nat.isDigit_of_mem_toDigits (by decide) (by decide) member
  rw [Char.isDigit, Bool.and_eq_true, decide_eq_true_eq, decide_eq_true_eq] at digit
  exact Nat.le_trans (by decide) (UInt32.le_iff_toNat_le.mp digit.1)

theorem visible_toString (number : Int) : Visible (toString number).toList := by
  cases number with
  | ofNat number => exact visible_toString_nat number
  | negSucc number =>
      have sign : (toString (Int.negSucc number)).toList = "-".toList ++ (toString (number + 1)).toList :=
        String.toList_append
      rw [sign]
      exact Visible.append (by decide) (visible_toString_nat (number + 1))

section VisiblePrint

variable {floats : FloatFormat}

theorem visible_comma (last : Bool) : Visible (if last then [] else [',']) := by
  cases last with
  | false => decide
  | true => decide

mutual

theorem visible_print (value : Json floats.Double) : Visible (print floats value) := by
  cases value with
  | null => exact show Visible "null".toList by decide
  | bool value =>
      cases value with
      | false => exact show Visible "false".toList by decide
      | true => exact show Visible "true".toList by decide
  | int number => exact visible_toString number
  | float number => exact floats.print_visible number
  | string text => exact visible_jsonString text
  | array items =>
      have inner := Visible.append (visible_printItems items) (show Visible [']'] by decide)
      exact Visible.append (show Visible ['['] by decide) inner
  | object fields =>
      have inner := Visible.append (visible_printFields fields) (show Visible ['\x7d'] by decide)
      exact Visible.append (show Visible ['\x7b'] by decide) inner

theorem visible_printItems (items : List (Json floats.Double)) : Visible (printItems floats items) := by
  cases items with
  | nil => exact show Visible [] by decide
  | cons item rest =>
      rw [printItems]
      exact Visible.append (Visible.append (visible_print item) (visible_comma _)) (visible_printItems rest)

theorem visible_printFields (fields : List (String × Json floats.Double)) : Visible (printFields floats fields) := by
  cases fields with
  | nil => exact show Visible [] by decide
  | cons field rest =>
      cases field with
      | mk name value =>
          rw [printFields]
          have named := Visible.append (visible_jsonString name) (show Visible [':'] by decide)
          exact Visible.append (Visible.append (Visible.append named (visible_print value)) (visible_comma _))
            (visible_printFields rest)

end

end VisiblePrint

end Json

end Ipc
end GDriver
