import GDriver.World
import GDriver.Library.Infix

namespace GDriver
namespace Api

open Library

/-!
# Multipart bodies

A small file is uploaded in one request, whose body has two parts: the metadata as JSON,
and the bytes of the file.  The parts are told apart by a boundary that is always the same.
A reader takes every line that begins with the boundary for a delimiter.
-/

/-- The bytes of a text. -/
def utf8 (text : String) : List UInt8 :=
  text.toList.flatMap String.utf8EncodeChar

/-! ## The metadata as JSON -/

def hexDigit (value : Nat) : Char :=
  if value < 10 then Char.ofNat (48 + value) else Char.ofNat (87 + value)

/-- A character as it stands in a JSON string. -/
def escapeChar (character : Char) : List Char :=
  if character = '"' then ['\\', '"']
  else if character = '\\' then ['\\', '\\']
  else if character = '\x08' then ['\\', 'b']
  else if character = '\x0c' then ['\\', 'f']
  else if character = '\n' then ['\\', 'n']
  else if character = '\r' then ['\\', 'r']
  else if character = '\t' then ['\\', 't']
  else if character.toNat < 32 then
    ['\\', 'u', '0', '0', hexDigit (character.toNat / 16), hexDigit (character.toNat % 16)]
  else [character]

def jsonString (text : String) : List Char :=
  '"' :: text.toList.flatMap escapeChar ++ ['"']

/-- The items of a JSON array, with commas between them. -/
def jsonItems : List String → List Char
  | [] => []
  | [item] => jsonString item
  | item :: rest => jsonString item ++ ',' :: jsonItems rest

/-- The field for the parents, which is left out when there are none. -/
def jsonParents : Option (List String) → List Char
  | none => []
  | some parents => ",\"parents\":[".toList ++ jsonItems parents ++ [']']

def metadataJson (metadata : CreateFileMetadata) : List Char :=
  '\x7b' :: ("\"name\":".toList ++ jsonString metadata.name ++ ",\"mimeType\":".toList ++
    jsonString metadata.mimeType ++ jsonParents metadata.parents ++ ['\x7d'])

def metadataBytes (metadata : CreateFileMetadata) : List UInt8 :=
  (metadataJson metadata).flatMap String.utf8EncodeChar

/-! ## The body that is sent -/

def multipartBoundary : String := "gdriver_multipart_boundary"

/-- The body and the content type of a multipart upload. -/
structure MultipartRequest where
  body : List UInt8
  contentType : String

def multipartRequest (metadata : CreateFileMetadata) (content : List UInt8) (contentMime : String) :
    MultipartRequest where
  body :=
    -- metadata part
    utf8 ("--" ++ multipartBoundary ++ "\r\n") ++
    utf8 "Content-Type: application/json; charset=UTF-8\r\n\r\n" ++
    metadataBytes metadata ++
    utf8 "\r\n" ++
    -- content part
    utf8 ("--" ++ multipartBoundary ++ "\r\n") ++
    utf8 ("Content-Type: " ++ contentMime ++ "\r\n\r\n") ++
    content ++
    utf8 "\r\n" ++
    -- closing boundary
    utf8 ("--" ++ multipartBoundary ++ "--\r\n")
  contentType := "multipart/related; boundary=\"" ++ multipartBoundary ++ "\""

/-! ## How a body is read -/

def crlf : List UInt8 := [13, 10]

def dashes : List UInt8 := [45, 45]

/-- The boundary that a content type names. -/
def boundaryParameter (contentType : String) : Option String :=
  (splitFirst "boundary=\"".toList contentType.toList).map fun parts =>
    String.ofList (parts.2.takeWhile (· ≠ '"'))

/-- What a delimiter line begins with, and the line break before it. -/
def delimiter (boundary : String) : List UInt8 :=
  crlf ++ dashes ++ utf8 boundary

/-- The body of a part is what follows its first empty line. -/
def partBody (part : List UInt8) : List UInt8 :=
  match splitFirst (crlf ++ crlf) part with
  | none => []
  | some (_, body) => body

/-- The parts from behind a delimiter up to the closing one.  Every delimiter makes the
rest shorter, so as many turns as there are bytes are enough. -/
def parseParts (separator : List UInt8) : Nat → List UInt8 → Option (List (List UInt8))
  | 0, _ => none
  | turns + 1, rest =>
      if dashes.isPrefixOf rest then some []
      else
        match splitFirst separator rest with
        | none => none
        | some (part, after) => (parseParts separator turns after).map fun parts => partBody part :: parts

/-- The bodies of the parts of a multipart body.  The first delimiter needs no line break
before it. -/
def parseMultipart (request : MultipartRequest) : Option (List (List UInt8)) :=
  match boundaryParameter request.contentType with
  | none => none
  | some boundary =>
      match splitFirst (delimiter boundary) (crlf ++ request.body) with
      | none => none
      | some (_, rest) => parseParts (delimiter boundary) (request.body.length + 1) rest

/-! ## Bytes without a carriage return -/

theorem utf8_append (first second : String) : utf8 (first ++ second) = utf8 first ++ utf8 second := by
  rw [utf8, String.toList_append, List.flatMap_append]
  rfl

/-- A byte below 128 stands for itself. -/
theorem of_mem_utf8EncodeChar {character : Char} {byte : UInt8} (member : byte ∈ String.utf8EncodeChar character)
    (ascii : byte.toNat < 128) : character.toNat = byte.toNat := by
  rw [String.utf8EncodeChar] at member
  have leading (value base modulus : Nat) (high : 128 ≤ base) (fits : base + modulus ≤ 256) (positive : 0 < modulus)
      (same : byte = UInt8.ofNat (value % modulus + base)) : False := by
    have below := Nat.mod_lt value positive
    rw [same, UInt8.toNat_ofNat', Nat.mod_eq_of_lt (by omega)] at ascii
    omega
  split at member
  · next small =>
      rw [List.mem_singleton] at member
      rw [member, UInt8.toNat_ofNat', Nat.mod_eq_of_lt (by omega)]
      rfl
  split at member
  · simp only [List.mem_cons, List.not_mem_nil, or_false] at member
    rcases member with same | same
    · exact (leading _ 0xc0 0x20 (by decide) (by decide) (by decide) same).elim
    · exact (leading _ 0x80 0x40 (by decide) (by decide) (by decide) same).elim
  split at member
  · simp only [List.mem_cons, List.not_mem_nil, or_false] at member
    rcases member with same | same | same
    · exact (leading _ 0xe0 0x10 (by decide) (by decide) (by decide) same).elim
    · exact (leading _ 0x80 0x40 (by decide) (by decide) (by decide) same).elim
    · exact (leading _ 0x80 0x40 (by decide) (by decide) (by decide) same).elim
  · simp only [List.mem_cons, List.not_mem_nil, or_false] at member
    rcases member with same | same | same | same
    · exact (leading _ 0xf0 0x08 (by decide) (by decide) (by decide) same).elim
    · exact (leading _ 0x80 0x40 (by decide) (by decide) (by decide) same).elim
    · exact (leading _ 0x80 0x40 (by decide) (by decide) (by decide) same).elim
    · exact (leading _ 0x80 0x40 (by decide) (by decide) (by decide) same).elim

theorem cr_not_mem_flatMap {characters : List Char} (absent : '\r' ∉ characters) :
    (13 : UInt8) ∉ characters.flatMap String.utf8EncodeChar := by
  intro member
  rcases List.mem_flatMap.mp member with ⟨character, inside, encoded⟩
  have same : character.toNat = 13 := of_mem_utf8EncodeChar encoded (by decide)
  have isCr : character = '\r' := Char.toNat_inj.mp same
  rw [isCr] at inside
  exact absent inside

theorem le_toNat_hexDigit {value : Nat} (below : value < 16) : 32 ≤ (hexDigit value).toNat := by
  have all : ∀ value < 16, 32 ≤ (hexDigit value).toNat := by decide
  exact all value below

/-- No control character stands in a string as it is. -/
theorem le_toNat_of_mem_escapeChar {character written : Char} (member : written ∈ escapeChar character) :
    32 ≤ written.toNat := by
  have short {first second : Char} (member : written ∈ [first, second]) (high : 32 ≤ first.toNat)
      (alsoHigh : 32 ≤ second.toNat) : 32 ≤ written.toNat := by
    rcases List.mem_cons.mp member with same | rest
    · rw [same]
      exact high
    · rw [List.mem_singleton.mp rest]
      exact alsoHigh
  rw [escapeChar] at member
  split at member
  · exact short member (by decide) (by decide)
  split at member
  · exact short member (by decide) (by decide)
  split at member
  · exact short member (by decide) (by decide)
  split at member
  · exact short member (by decide) (by decide)
  split at member
  · exact short member (by decide) (by decide)
  split at member
  · exact short member (by decide) (by decide)
  split at member
  · exact short member (by decide) (by decide)
  split at member
  · next below =>
      simp only [List.mem_cons, List.not_mem_nil, or_false] at member
      rcases member with rfl | rfl | rfl | rfl | rfl | rfl
      · decide
      · decide
      · decide
      · decide
      · exact le_toNat_hexDigit (by omega)
      · exact le_toNat_hexDigit (by omega)
  · next visible =>
      rw [List.mem_singleton.mp member]
      exact Nat.not_lt.mp visible

theorem le_toNat_of_mem_jsonString {text : String} {written : Char} (member : written ∈ jsonString text) :
    32 ≤ written.toNat := by
  rw [jsonString, List.cons_append, List.mem_cons, List.mem_append, List.mem_flatMap, List.mem_singleton] at member
  rcases member with rfl | ⟨character, _, inside⟩ | rfl
  · decide
  · exact le_toNat_of_mem_escapeChar inside
  · decide

theorem cr_not_mem_jsonString (text : String) : '\r' ∉ jsonString text := by
  intro member
  exact absurd (le_toNat_of_mem_jsonString member) (by decide)

theorem cr_not_mem_jsonItems (items : List String) : '\r' ∉ jsonItems items := by
  induction items with
  | nil => exact List.not_mem_nil
  | cons item rest inductionHypothesis =>
      cases rest with
      | nil => exact cr_not_mem_jsonString item
      | cons second others =>
          intro member
          simp only [jsonItems, List.mem_append, List.mem_cons] at member
          rcases member with first | comma | later
          · exact cr_not_mem_jsonString item first
          · exact absurd comma (by decide)
          · exact inductionHypothesis later

theorem cr_not_mem_jsonParents (parents : Option (List String)) : '\r' ∉ jsonParents parents := by
  cases parents with
  | none => exact List.not_mem_nil
  | some ids =>
      have opens : '\r' ∉ ",\"parents\":[".toList := by simp
      exact List.not_mem_append (List.not_mem_append opens (cr_not_mem_jsonItems ids)) (by decide)

/-- JSON holds no line break. -/
theorem cr_not_mem_metadataJson (metadata : CreateFileMetadata) : '\r' ∉ metadataJson metadata := by
  have name : '\r' ∉ "\"name\":".toList := by simp
  have kind : '\r' ∉ ",\"mimeType\":".toList := by simp
  have fields := List.not_mem_append (List.not_mem_append (List.not_mem_append (List.not_mem_append name
    (cr_not_mem_jsonString metadata.name)) kind) (cr_not_mem_jsonString metadata.mimeType))
    (cr_not_mem_jsonParents metadata.parents)
  intro member
  rcases List.mem_cons.mp member with brace | rest
  · exact absurd brace (by decide)
  · exact List.not_mem_append fields (by decide) rest

/-! ## How the delimiters are found -/

section Lines

variable {third item : UInt8} {more line rest : List UInt8}

/-- A line that does not begin as the separator goes on after its line break is passed over. -/
theorem splitFirst_line (differs : item ≠ third) (unbroken : 13 ∉ item :: line) :
    splitFirst (13 :: 10 :: third :: more) (crlf ++ (item :: line ++ rest)) =
      (splitFirst (13 :: 10 :: third :: more) rest).map fun parts => (crlf ++ (item :: line ++ parts.1), parts.2) := by
  have skipped : (13 : UInt8) ∉ 10 :: item :: line := by
    rw [List.mem_cons, not_or]
    exact ⟨by decide, unbroken⟩
  have cut : crlf ++ (item :: line ++ rest) = 13 :: (10 :: item :: line ++ rest) := rfl
  rw [cut, splitFirst_cons, splitFirst_skip rest skipped, Option.map_map]
  · rfl
  · intro begins
    rw [List.cons_prefix_cons, List.cons_append, List.cons_append, List.cons_prefix_cons,
      List.cons_prefix_cons] at begins
    exact differs begins.2.2.1.symm

/-- The break before an empty line is passed over by a separator that goes on otherwise. -/
theorem splitFirst_blank (differs : 13 ≠ third) :
    splitFirst (13 :: 10 :: third :: more) (crlf ++ (crlf ++ rest)) =
      (splitFirst (13 :: 10 :: third :: more) (crlf ++ rest)).map fun parts => (crlf ++ parts.1, parts.2) := by
  have cut : crlf ++ (crlf ++ rest) = 13 :: 10 :: (crlf ++ rest) := rfl
  rw [cut, splitFirst_cons, splitFirst_cons, Option.map_map]
  · rfl
  · intro begins
    rw [List.cons_prefix_cons] at begins
    exact absurd begins.1 (by decide)
  · intro begins
    rw [List.cons_prefix_cons, List.cons_prefix_cons] at begins
    exact differs (List.cons_prefix_cons.mp begins.2.2).1.symm

end Lines

/-- The bytes of the boundary. -/
def boundaryBytes : List UInt8 :=
  utf8 multipartBoundary

theorem boundaryParameter_multipartRequest (metadata : CreateFileMetadata) (content : List UInt8)
    (contentMime : String) :
    boundaryParameter (multipartRequest metadata content contentMime).contentType = some multipartBoundary := by
  have text : ("multipart/related; boundary=\"" ++ multipartBoundary ++ "\"").toList =
      "multipart/related; ".toList ++ ("boundary=\"".toList ++ (multipartBoundary.toList ++ ['"'])) := by
    simp [multipartBoundary]
  have read : splitFirst "boundary=\"".toList ("multipart/related; ".toList ++ ("boundary=\"".toList ++
      (multipartBoundary.toList ++ ['"']))) =
        some ("multipart/related; ".toList, multipartBoundary.toList ++ ['"']) := by
    simp [splitFirst, multipartBoundary]
  rw [boundaryParameter, multipartRequest, text, read]
  simp [multipartBoundary]

/-- The delimiter begins with a carriage return and holds no other. -/
theorem cr_not_mem_boundaryBytes : 13 ∉ 10 :: (dashes ++ boundaryBytes) := by
  decide

/-- What the delimiter of an upload holds after its dash. -/
theorem delimiter_eq : delimiter multipartBoundary = 13 :: 10 :: 45 :: (45 :: boundaryBytes) := rfl

def jsonHeader : List UInt8 :=
  utf8 "Content-Type: application/json; charset=UTF-8"

def contentHeader (contentMime : String) : List UInt8 :=
  utf8 ("Content-Type: " ++ contentMime)

/-- What follows the second delimiter. -/
def contentPart (content : List UInt8) (contentMime : String) : List UInt8 :=
  crlf ++ (contentHeader contentMime ++ (crlf ++ (crlf ++
    (content ++ (delimiter multipartBoundary ++ (dashes ++ crlf))))))

theorem body_multipartRequest (metadata : CreateFileMetadata) (content : List UInt8) (contentMime : String) :
    crlf ++ (multipartRequest metadata content contentMime).body =
      delimiter multipartBoundary ++ (crlf ++ (jsonHeader ++ (crlf ++ (crlf ++ (metadataBytes metadata ++
        (delimiter multipartBoundary ++ contentPart content contentMime)))))) := by
  have lineBreak : utf8 "\r\n" = crlf := by decide
  have twoBreaks : utf8 "\r\n\r\n" = crlf ++ crlf := by decide
  have opening : utf8 "--" = dashes := by decide
  have closing : utf8 "--\r\n" = dashes ++ crlf := by decide
  have header : utf8 "Content-Type: application/json; charset=UTF-8\r\n\r\n" = jsonHeader ++ (crlf ++ crlf) := by
    decide
  rw [multipartRequest]
  simp only [utf8_append, lineBreak, twoBreaks, opening, closing, header, contentPart, contentHeader, delimiter,
    List.append_assoc]

/-! ## What is read from an upload -/

theorem jsonHeader_eq : jsonHeader = 67 :: jsonHeader.tail := rfl

theorem cr_not_mem_jsonHeader : 13 ∉ jsonHeader := by
  decide

theorem metadataBytes_eq (metadata : CreateFileMetadata) :
    metadataBytes metadata = 123 :: (metadataBytes metadata).tail := rfl

theorem cr_not_mem_metadataBytes (metadata : CreateFileMetadata) : 13 ∉ metadataBytes metadata :=
  cr_not_mem_flatMap (cr_not_mem_metadataJson metadata)

theorem contentHeader_eq (contentMime : String) :
    contentHeader contentMime = 67 :: (contentHeader contentMime).tail := by
  have fixed : utf8 "Content-Type: " = 67 :: (utf8 "Content-Type: ").tail := rfl
  rw [contentHeader, utf8_append, fixed]
  rfl

theorem cr_not_mem_contentHeader {contentMime : String} (unbroken : '\r' ∉ contentMime.toList) :
    13 ∉ contentHeader contentMime := by
  rw [contentHeader, utf8_append]
  exact List.not_mem_append (by decide) (cr_not_mem_flatMap unbroken)

theorem partBody_header {item : UInt8} {line : List UInt8} (differs : item ≠ 13) (unbroken : 13 ∉ item :: line)
    (rest : List UInt8) : partBody (crlf ++ (item :: line ++ (crlf ++ rest))) = partBody (crlf ++ rest) := by
  have passed : splitFirst (crlf ++ crlf) (crlf ++ (item :: line ++ (crlf ++ rest))) =
      (splitFirst (crlf ++ crlf) (crlf ++ rest)).map fun parts => (crlf ++ (item :: line ++ parts.1), parts.2) :=
    splitFirst_line differs unbroken
  rw [partBody, passed, partBody]
  cases splitFirst (crlf ++ crlf) (crlf ++ rest) with
  | none => rfl
  | some parts => rfl

theorem partBody_blank (body : List UInt8) : partBody (crlf ++ (crlf ++ body)) = body := by
  rw [partBody, ← List.append_assoc, splitFirst_append]

/-- A body is shorter than its part by the empty line and the break before it. -/
theorem length_partBody (rest : List UInt8) : (partBody (crlf ++ rest)).length ≤ rest.length - 2 := by
  rw [partBody]
  cases found : splitFirst (crlf ++ crlf) (crlf ++ rest) with
  | none => exact Nat.zero_le _
  | some parts =>
      have counted := congrArg List.length (of_splitFirst found)
      simp only [List.length_append, crlf, List.length_cons, List.length_nil] at counted
      dsimp only
      omega

section Upload

variable {metadata : CreateFileMetadata} {content : List UInt8} {contentMime : String}

/-- The first part is the metadata. -/
theorem splitFirst_metadata (rest : List UInt8) :
    splitFirst (delimiter multipartBoundary) (crlf ++ (jsonHeader ++ (crlf ++ (crlf ++ (metadataBytes metadata ++
      (delimiter multipartBoundary ++ rest)))))) =
      some (crlf ++ (jsonHeader ++ (crlf ++ (crlf ++ metadataBytes metadata))), rest) := by
  have header := cr_not_mem_jsonHeader
  have json := cr_not_mem_metadataBytes metadata
  rw [jsonHeader_eq] at header
  rw [metadataBytes_eq] at json
  have found := splitFirst_append (delimiter multipartBoundary) rest
  rw [delimiter_eq] at found ⊢
  rw [jsonHeader_eq, metadataBytes_eq, splitFirst_line (by decide) header, splitFirst_blank (by decide),
    splitFirst_line (by decide) json, found]
  simp only [Option.map_some, List.append_nil]

/-- The second part is looked for in the content, from the line break before it on. -/
theorem splitFirst_contentPart (unbroken : '\r' ∉ contentMime.toList) :
    splitFirst (delimiter multipartBoundary) (contentPart content contentMime) =
      (splitFirst (delimiter multipartBoundary)
        ((crlf ++ content) ++ (delimiter multipartBoundary ++ (dashes ++ crlf)))).map fun parts =>
          (crlf ++ (contentHeader contentMime ++ (crlf ++ parts.1)), parts.2) := by
  have header := cr_not_mem_contentHeader unbroken
  rw [contentHeader_eq] at header
  rw [contentPart, delimiter_eq, contentHeader_eq, splitFirst_line (by decide) header, splitFirst_blank (by decide),
    Option.map_map, List.append_assoc]
  rfl

theorem partBody_contentPart (unbroken : '\r' ∉ contentMime.toList) (rest : List UInt8) :
    partBody (crlf ++ (contentHeader contentMime ++ (crlf ++ rest))) = partBody (crlf ++ rest) := by
  have header := cr_not_mem_contentHeader unbroken
  rw [contentHeader_eq] at header ⊢
  exact partBody_header (by decide) header rest

/-- Behind the second delimiter, the content is read back when no delimiter occurs in it. -/
theorem parseParts_of_absent (unbroken : '\r' ∉ contentMime.toList)
    (absent : ¬ delimiter multipartBoundary <:+: crlf ++ content) (turns : Nat) :
    parseParts (delimiter multipartBoundary) (turns + 2) (contentPart content contentMime) = some [content] := by
  have fresh := cr_not_mem_boundaryBytes
  have found : splitFirst (delimiter multipartBoundary)
      ((crlf ++ content) ++ (delimiter multipartBoundary ++ (dashes ++ crlf))) =
        some (crlf ++ content, dashes ++ crlf) := by
    rw [← List.append_assoc]
    exact splitFirst_of_fresh (dashes ++ crlf) fresh absent
  have inside : dashes.isPrefixOf (contentPart content contentMime) = false := rfl
  have closes : dashes.isPrefixOf (dashes ++ crlf) = true := rfl
  rw [parseParts, inside, if_neg Bool.false_ne_true, splitFirst_contentPart unbroken, found, Option.map_some]
  dsimp only
  rw [parseParts, closes, if_pos rfl, Option.map_some, partBody_contentPart unbroken, partBody_blank]

/-- When a delimiter occurs in it, less than the content is read. -/
theorem parseParts_of_occurs (unbroken : '\r' ∉ contentMime.toList)
    (occurs : delimiter multipartBoundary <:+: crlf ++ content) (turns : Nat) :
    parseParts (delimiter multipartBoundary) turns (contentPart content contentMime) ≠ some [content] := by
  intro read
  cases turns with
  | zero => cases read
  | succ turns =>
      rcases splitFirst_of_infix (delimiter multipartBoundary ++ (dashes ++ crlf)) occurs with
        ⟨before, after, found, short⟩
      have inside : dashes.isPrefixOf (contentPart content contentMime) = false := rfl
      rw [parseParts, inside, if_neg Bool.false_ne_true, splitFirst_contentPart unbroken, found,
        Option.map_some] at read
      rcases Option.map_eq_some_iff.mp read with ⟨parts, _, same⟩
      have body := (List.cons.inj same).1
      dsimp only at body
      rw [partBody_contentPart unbroken] at body
      have shorter := length_partBody before
      rw [body] at shorter
      have long : (delimiter multipartBoundary).length = 30 := by decide
      rw [long, List.length_append] at short
      have two : crlf.length = 2 := rfl
      omega

end Upload

/-- A delimiter occurs behind a line break when the content begins with the boundary or a
delimiter occurs in it. -/
theorem occurs_iff (content : List UInt8) :
    delimiter multipartBoundary <:+: crlf ++ content ↔
      dashes ++ boundaryBytes <+: content ∨ delimiter multipartBoundary <:+: content := by
  have cut : crlf ++ content = 13 :: 10 :: content := rfl
  rw [cut, List.infix_cons_iff, List.infix_cons_iff, delimiter_eq, List.cons_prefix_cons, List.cons_prefix_cons,
    List.cons_prefix_cons]
  constructor
  · rintro (⟨_, _, begins⟩ | ⟨wrong, _⟩ | later)
    · exact Or.inl begins
    · exact absurd wrong (by decide)
    · exact Or.inr later
  · rintro (begins | later)
    · exact Or.inl ⟨rfl, rfl, begins⟩
    · exact Or.inr (Or.inr later)

/-- The first part is always read, and the second is read from behind the second delimiter. -/
theorem parseMultipart_multipartRequest (metadata : CreateFileMetadata) (content : List UInt8) (contentMime : String) :
    parseMultipart (multipartRequest metadata content contentMime) =
      (parseParts (delimiter multipartBoundary) (multipartRequest metadata content contentMime).body.length
        (contentPart content contentMime)).map fun parts => metadataBytes metadata :: parts := by
  have header := cr_not_mem_jsonHeader
  rw [jsonHeader_eq] at header
  have first : partBody (crlf ++ (jsonHeader ++ (crlf ++ (crlf ++ metadataBytes metadata)))) =
      metadataBytes metadata := by
    rw [jsonHeader_eq, partBody_header (by decide) header, partBody_blank]
  have inside : dashes.isPrefixOf (crlf ++ (jsonHeader ++ (crlf ++ (crlf ++ (metadataBytes metadata ++
      (delimiter multipartBoundary ++ contentPart content contentMime)))))) = false := rfl
  rw [parseMultipart, boundaryParameter_multipartRequest]
  dsimp only
  rw [body_multipartRequest, splitFirst_append]
  dsimp only
  rw [parseParts, inside, if_neg Bool.false_ne_true, splitFirst_metadata]
  dsimp only
  rw [first]

/-- An upload is read back exactly when no line of the content begins with the boundary. -/
theorem multipart_decodes_iff (metadata : CreateFileMetadata) (content : List UInt8) (contentMime : String)
    (unbroken : '\r' ∉ contentMime.toList ∧ '\n' ∉ contentMime.toList) :
    parseMultipart (multipartRequest metadata content contentMime) = some [metadataBytes metadata, content] ↔
      ¬ (dashes ++ boundaryBytes <+: content ∨ delimiter multipartBoundary <:+: content) := by
  rw [parseMultipart_multipartRequest, ← occurs_iff]
  constructor
  · intro read occurs
    rcases Option.map_eq_some_iff.mp read with ⟨parts, second, same⟩
    rw [(List.cons.inj same).2] at second
    exact parseParts_of_occurs unbroken.1 occurs _ second
  · intro absent
    have long : ∃ turns, (multipartRequest metadata content contentMime).body.length = turns + 2 := by
      have counted := congrArg List.length (body_multipartRequest metadata content contentMime)
      have thirty : (delimiter multipartBoundary).length = 30 := by decide
      have two : crlf.length = 2 := rfl
      rw [List.length_append, List.length_append] at counted
      exact ⟨(multipartRequest metadata content contentMime).body.length - 2, by omega⟩
    rcases long with ⟨turns, same⟩
    rw [same, parseParts_of_absent unbroken.1 absent, Option.map_some]

theorem multipart_decodes_hello :
    parseMultipart (multipartRequest ⟨"a.txt", "text/plain", none⟩ [104, 105] "text/plain") =
      some [metadataBytes ⟨"a.txt", "text/plain", none⟩, [104, 105]] :=
  (multipart_decodes_iff ⟨"a.txt", "text/plain", none⟩ [104, 105] "text/plain" (by decide)).mpr (by decide)

/-- A file that holds the boundary on its second line is read back without that line. -/
theorem multipart_truncates :
    ¬ parseMultipart (multipartRequest ⟨"a.eml", "message/rfc822", none⟩
        ([104, 105] ++ delimiter multipartBoundary ++ dashes) "message/rfc822") =
      some [metadataBytes ⟨"a.eml", "message/rfc822", none⟩, [104, 105] ++ delimiter multipartBoundary ++ dashes] := by
  intro read
  rw [parseMultipart_multipartRequest] at read
  rcases Option.map_eq_some_iff.mp read with ⟨parts, second, same⟩
  rw [(List.cons.inj same).2] at second
  refine parseParts_of_occurs (by decide) ?_ _ second
  exact ⟨crlf ++ [104, 105], dashes, rfl⟩

end Api
end GDriver
