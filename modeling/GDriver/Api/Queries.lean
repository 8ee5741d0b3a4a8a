import GDriver.Api.Multipart
import GDriver.Library.Path
import GDriver.Library.Percent
import Mathlib.Data.List.TakeWhile

namespace GDriver
namespace Api

open Library

/-!
# Query strings

A request carries its parameters in the query part of its URL: names and values with an equals sign
between them, joined by ampersands.  The values are percent-encoded by a table of the bytes that
pass.  An equals sign passes, so a reader may only split a parameter at the first one.
-/

/-- The bytes that are written as themselves. -/
def isUnescaped (byte : UInt8) : Bool :=
  let char := Char.ofNat byte.toNat
  ('A' ≤ char && char ≤ 'Z') || ('a' ≤ char && char ≤ 'z') || ('0' ≤ char && char ≤ '9') ||
    "-_.~:/,()'!*@;=$".toList.contains char

def encodeByte (byte : UInt8) : List Char :=
  if isUnescaped byte then [Char.ofNat byte.toNat]
  else if byte = 32 then "%20".toList
  else percentByte byte

/-- Percent-encode a string for use in a URL path segment or query value. -/
def urlencoding (text : String) : String :=
  String.ofList ((utf8 text).flatMap encodeByte)

def driveApiBase : String := "https://www.googleapis.com/drive/v3"

/-- The fields of a listing, as the request names them. -/
def defaultFileFieldsText : String :=
  "files(id,name,mimeType,parents,size,version,modifiedTime,createdTime," ++
    "trashed,shared,md5Checksum,webViewLink),nextPageToken,incompleteSearch"

/-- The fields of a page of changes, as the request names them. -/
def changeFieldsText : String :=
  "changes(kind,changeType,fileId,removed,time,file(id,name,mimeType,parents," ++
    "size,version,modifiedTime,createdTime,trashed,md5Checksum,webViewLink))," ++
    "nextPageToken,newStartPageToken"

/-- A parameter that is sent if it has a value. -/
def optionalParam (key : String) (value : Option String) : List (String × String) :=
  (value.map fun value => (key, value)).toList

def queryString (params : List (String × String)) : String :=
  join "&" (params.map fun param => param.1 ++ "=" ++ urlencoding param.2)

def filesListParams (query pageToken : Option String) (pageSize : Option UInt32) (fields : Option String) :
    List (String × String) :=
  optionalParam "q" query ++ optionalParam "pageToken" pageToken ++
    optionalParam "pageSize" (pageSize.map fun size => toString size.toNat) ++
    [("fields", fields.getD defaultFileFieldsText)]

def filesListUrl (query pageToken : Option String) (pageSize : Option UInt32) (fields : Option String) : String :=
  driveApiBase ++ "/files" ++ "?" ++ queryString (filesListParams query pageToken pageSize fields)

def changesListParams (pageToken : String) (pageSize : Option UInt32) (fields driveId : Option String)
    (includeRemoved : Option Bool) : List (String × String) :=
  [("pageToken", pageToken)] ++ optionalParam "pageSize" (pageSize.map fun size => toString size.toNat) ++
    [("fields", fields.getD changeFieldsText)] ++ optionalParam "driveId" driveId ++
    optionalParam "includeRemoved" (includeRemoved.map fun removed => if removed then "true" else "false")

def changesListUrl (pageToken : String) (pageSize : Option UInt32) (fields driveId : Option String)
    (includeRemoved : Option Bool) : String :=
  driveApiBase ++ "/changes" ++ "?" ++ queryString (changesListParams pageToken pageSize fields driveId includeRemoved)

def filesExportUrl (fileId mimeType : String) : String :=
  driveApiBase ++ "/files/" ++ urlencoding fileId ++ "/export?mimeType=" ++ urlencoding mimeType

/-! ## Reading a query -/

/-- The query part of a URL. -/
def queryPart (url : String) : List Char :=
  ((url.toList.dropWhile (· ≠ '?')).tail).takeWhile (· ≠ '#')

/-- One parameter, split at its first equals sign. -/
def decodeParam (part : List Char) : String × Option String :=
  (String.ofList (part.takeWhile (· ≠ '=')), Library.utf8 (percentDecode (part.dropWhile (· ≠ '=')).tail))

def decodeQuery (url : String) : List (String × Option String) :=
  (splitAtEvery '&' (queryPart url)).map decodeParam

/-- The characters that may stand for themselves in an encoded value: none that has a meaning in a
query, and none beyond ASCII. -/
def isPlain (char : Char) : Bool :=
  decide (char.toNat < 128) && !"&#+?".toList.contains char

/-! ## The table -/

theorem isUnescaped_spec {byte : UInt8} (passes : isUnescaped byte = true) :
    Char.ofNat byte.toNat ≠ '%' ∧ isPlain (Char.ofNat byte.toNat) = true ∧
      String.utf8EncodeChar (Char.ofNat byte.toNat) = [byte] := by
  have all : ∀ value < 256, isUnescaped (UInt8.ofNat value) = true →
      Char.ofNat (UInt8.ofNat value).toNat ≠ '%' ∧ isPlain (Char.ofNat (UInt8.ofNat value).toNat) = true ∧
        String.utf8EncodeChar (Char.ofNat (UInt8.ofNat value).toNat) = [UInt8.ofNat value] := by
    decide +kernel
  have this := all byte.toNat byte.toNat_lt
  rw [UInt8.ofNat_toNat] at this
  exact this passes

/-- A byte is written as one plain character, or as an escape. -/
theorem encodeByte_cases (byte : UInt8) :
    (∃ char, encodeByte byte = [char] ∧ char ≠ '%' ∧ isPlain char = true ∧ String.utf8EncodeChar char = [byte]) ∨
      encodeByte byte = percentByte byte := by
  rw [encodeByte]
  split
  · next passes => exact Or.inl ⟨_, rfl, isUnescaped_spec passes⟩
  · split
    · next space =>
        rw [space]
        exact Or.inr (by decide)
    · exact Or.inr rfl

theorem percentDecode_encodeByte (byte : UInt8) (rest : List Char) :
    percentDecode (encodeByte byte ++ rest) = byte :: percentDecode rest := by
  rcases encodeByte_cases byte with ⟨char, one, other, _, encodes⟩ | escape
  · rw [one, List.singleton_append, percentDecode_cons other, encodes]
    rfl
  · rw [escape, percentDecode_percentByte]

theorem wellEscaped_encodeByte (byte : UInt8) (rest : List Char) :
    wellEscaped isPlain (encodeByte byte ++ rest) = wellEscaped isPlain rest := by
  rcases encodeByte_cases byte with ⟨char, one, other, plain, _⟩ | escape
  · rw [one, List.singleton_append, wellEscaped_cons other plain]
  · rw [escape, wellEscaped_percentByte]

theorem isPlain_of_hex {value : Nat} (below : value < 16) : isPlain (upperHexDigit value) = true := by
  have all : ∀ value < 16, isPlain (upperHexDigit value) = true := by decide
  exact all value below

/-- Everything in an encoded text is a plain character or a percent sign. -/
theorem plain_of_mem_urlencoding {text : String} {char : Char} (member : char ∈ (urlencoding text).toList) :
    char = '%' ∨ isPlain char = true := by
  rw [urlencoding, String.toList_ofList] at member
  rcases List.mem_flatMap.mp member with ⟨byte, _, written⟩
  have bound := byte.toNat_lt
  rcases encodeByte_cases byte with ⟨single, one, _, plain, _⟩ | escape
  · rw [one, List.mem_singleton] at written
    rw [written]
    exact Or.inr plain
  · rw [escape, percentByte] at written
    simp only [List.mem_cons, List.not_mem_nil, or_false] at written
    rcases written with percent | high | low
    · exact Or.inl percent
    · rw [high]
      exact Or.inr (isPlain_of_hex (by omega))
    · rw [low]
      exact Or.inr (isPlain_of_hex (by omega))

theorem notMem_urlencoding {char : Char} (other : char ≠ '%') (special : isPlain char = false) (text : String) :
    char ∉ (urlencoding text).toList := by
  intro member
  rcases plain_of_mem_urlencoding member with percent | plain
  · exact other percent
  · rw [special] at plain
    cases plain

/-- Decoding gives the text back. -/
theorem utf8_urlencoding (text : String) : Library.utf8 (percentDecode (urlencoding text).toList) = some text := by
  have decoded := percentDecode_flatMap percentDecode_encodeByte (utf8 text) []
  rw [List.append_nil] at decoded
  rw [urlencoding, String.toList_ofList, decoded]
  exact (congrArg Library.utf8 (List.append_nil _)).trans (utf8_encoded text)

theorem urlencoding_injective : Function.Injective urlencoding := by
  intro first second same
  have decoded := utf8_urlencoding first
  rw [same, utf8_urlencoding] at decoded
  exact (Option.some.inj decoded).symm

/-! ## Splitting -/

/-- A text without the character, followed by it, is what stands before it. -/
theorem takeWhile_before {char : Char} {before : List Char} (absent : char ∉ before) (after : List Char) :
    (before ++ char :: after).takeWhile (· ≠ char) = before ∧
      (before ++ char :: after).dropWhile (· ≠ char) = char :: after := by
  have all : ∀ other ∈ before, decide (other ≠ char) = true := by
    intro other member
    refine decide_eq_true ?_
    intro same
    rw [same] at member
    exact absent member
  rw [List.takeWhile_append_of_pos all, List.dropWhile_append_of_pos all, List.takeWhile_cons, List.dropWhile_cons]
  simp

theorem decodeParam_written {key : String} (named : '=' ∉ key.toList) (value : String) :
    decodeParam (key ++ "=" ++ urlencoding value).toList = (key, some value) := by
  have written : (key ++ "=" ++ urlencoding value).toList = key.toList ++ '=' :: (urlencoding value).toList := by
    rw [String.toList_append, String.toList_append, List.append_assoc]
    rfl
  have parts := takeWhile_before named (urlencoding value).toList
  rw [decodeParam, written, parts.1, parts.2, List.tail_cons, String.ofList_toList, utf8_urlencoding]

/-- Parts that are joined by a character that none of them has are what the split gives back. -/
theorem splitAtEvery_join {parts : List String} (some_ : parts ≠ []) (absent : ∀ part ∈ parts, '&' ∉ part.toList) :
    splitAtEvery '&' (join "&" parts).toList = parts.map String.toList := by
  induction parts with
  | nil => exact absurd rfl some_
  | cons part rest inductionHypothesis =>
      cases rest with
      | nil => exact splitAtEvery_of_notMem (absent part List.mem_cons_self)
      | cons second rest =>
          have later := inductionHypothesis (List.cons_ne_nil _ _) fun other member =>
            absent other (List.mem_cons_of_mem _ member)
          have joined : (join "&" (part :: second :: rest)).toList =
              part.toList ++ '&' :: (join "&" (second :: rest)).toList := by
            rw [join, String.toList_append, String.toList_append, List.append_assoc]
            · rfl
            · exact List.cons_ne_nil _ _
          rw [joined, splitAtEvery_append, splitAtEvery_of_notMem (absent part List.mem_cons_self), later]
          rfl

/-- A name that may stand in a query as it is. -/
def isKey (key : String) : Bool :=
  key.toList.all fun char => char ≠ '=' && char ≠ '&' && char ≠ '#'

theorem notMem_of_isKey {key : String} (named : isKey key = true) :
    '=' ∉ key.toList ∧ '&' ∉ key.toList ∧ '#' ∉ key.toList := by
  rw [isKey, List.all_eq_true] at named
  refine ⟨fun member => ?_, fun member => ?_, fun member => ?_⟩
  · exact absurd (named _ member) (by decide)
  · exact absurd (named _ member) (by decide)
  · exact absurd (named _ member) (by decide)

theorem notMem_param {key : String} (named : isKey key = true) (value : String) :
    '&' ∉ (key ++ "=" ++ urlencoding value).toList ∧ '#' ∉ (key ++ "=" ++ urlencoding value).toList := by
  have absent := notMem_of_isKey named
  rw [String.toList_append, String.toList_append]
  simp only [List.mem_append, not_or]
  exact ⟨⟨⟨absent.2.1, by decide⟩, notMem_urlencoding (by decide) (by decide) value⟩,
    ⟨⟨absent.2.2, by decide⟩, notMem_urlencoding (by decide) (by decide) value⟩⟩

theorem notMem_join {char : Char} {parts : List String} (separate : char ≠ '&')
    (absent : ∀ part ∈ parts, char ∉ part.toList) : char ∉ (join "&" parts).toList := by
  induction parts with
  | nil => exact List.not_mem_nil
  | cons part rest inductionHypothesis =>
      cases rest with
      | nil => exact absent part List.mem_cons_self
      | cons second rest =>
          have later := inductionHypothesis fun other member => absent other (List.mem_cons_of_mem _ member)
          rw [join, String.toList_append, String.toList_append]
          · simp only [List.mem_append, not_or]
            refine ⟨⟨absent part List.mem_cons_self, ?_⟩, later⟩
            intro member
            exact separate (List.mem_singleton.mp member)
          · exact List.cons_ne_nil _ _

section Urls

variable {params : List (String × String)}

/-- The parameters behind the first question mark of a URL are read back. -/
theorem decodeQuery_of_written {before : String} (first : '?' ∉ before.toList) (some_ : params ≠ [])
    (named : ∀ param ∈ params, isKey param.1 = true) :
    decodeQuery (before ++ "?" ++ queryString params) = params.map fun param => (param.1, some param.2) := by
  have whole : (before ++ "?" ++ queryString params).toList = before.toList ++ '?' :: (queryString params).toList := by
    rw [String.toList_append, String.toList_append, List.append_assoc]
    rfl
  have parts (part : String) (member : part ∈ params.map fun param => param.1 ++ "=" ++ urlencoding param.2) :
      '&' ∉ part.toList ∧ '#' ∉ part.toList := by
    rcases List.mem_map.mp member with ⟨param, inside, same⟩
    rw [← same]
    exact notMem_param (named param inside) param.2
  have unbroken : '#' ∉ (queryString params).toList :=
    notMem_join (by decide) fun part member => (parts part member).2
  have query : queryPart (before ++ "?" ++ queryString params) = (queryString params).toList := by
    rw [queryPart, whole, (takeWhile_before first _).2, List.tail_cons, List.takeWhile_eq_self_iff]
    intro char member
    refine decide_eq_true ?_
    intro same
    rw [same] at member
    exact unbroken member
  have nonempty : (params.map fun param => param.1 ++ "=" ++ urlencoding param.2) ≠ [] := by
    rw [Ne, List.map_eq_nil_iff]
    exact some_
  rw [decodeQuery, query, queryString, splitAtEvery_join nonempty fun part member => (parts part member).1,
    List.map_map, List.map_map]
  refine List.map_congr_left fun param member => ?_
  exact decodeParam_written (notMem_of_isKey (named param member)).1 param.2

theorem key_of_mem_optionalParam {key : String} {value : Option String} {param : String × String}
    (member : param ∈ optionalParam key value) : param.1 = key := by
  rw [optionalParam, Option.mem_toList, Option.map_eq_some_iff] at member
  rcases member with ⟨_, _, same⟩
  rw [← same]

theorem isKey_filesListParams (query pageToken : Option String) (pageSize : Option UInt32) (fields : Option String) :
    ∀ param ∈ filesListParams query pageToken pageSize fields, isKey param.1 = true := by
  intro param member
  simp only [filesListParams, List.mem_append, List.mem_singleton] at member
  have fieldsKey : isKey "fields" = true := by decide
  rcases member with ((inside | inside) | inside) | same
  · rw [key_of_mem_optionalParam inside]
    decide
  · rw [key_of_mem_optionalParam inside]
    decide
  · rw [key_of_mem_optionalParam inside]
    decide
  · rw [same]
    exact fieldsKey

theorem isKey_changesListParams (pageToken : String) (pageSize : Option UInt32) (fields driveId : Option String)
    (includeRemoved : Option Bool) :
    ∀ param ∈ changesListParams pageToken pageSize fields driveId includeRemoved, isKey param.1 = true := by
  intro param member
  simp only [changesListParams, List.mem_append, List.mem_singleton] at member
  have tokenKey : isKey "pageToken" = true := by decide
  have fieldsKey : isKey "fields" = true := by decide
  rcases member with (((same | inside) | same) | inside) | inside
  · rw [same]
    exact tokenKey
  · rw [key_of_mem_optionalParam inside]
    decide
  · rw [same]
    exact fieldsKey
  · rw [key_of_mem_optionalParam inside]
    decide
  · rw [key_of_mem_optionalParam inside]
    decide

end Urls

theorem decodeQuery_filesExportUrl (fileId mimeType : String) :
    decodeQuery (filesExportUrl fileId mimeType) = [("mimeType", some mimeType)] := by
  have same : filesExportUrl fileId mimeType =
      (driveApiBase ++ "/files/" ++ urlencoding fileId ++ "/export") ++ "?" ++
        queryString [("mimeType", mimeType)] := by
    rw [← String.toList_inj, filesExportUrl, queryString, List.map_singleton, join]
    simp only [String.toList_append, List.append_assoc]
    rfl
  have first : '?' ∉ (driveApiBase ++ "/files/" ++ urlencoding fileId ++ "/export").toList := by
    simp only [String.toList_append, List.mem_append, not_or]
    exact ⟨⟨⟨by decide, by decide⟩, notMem_urlencoding (by decide) (by decide) fileId⟩, by decide⟩
  have key : isKey "mimeType" = true := by decide
  rw [same, decodeQuery_of_written first (List.cons_ne_nil _ _) ?_]
  · rfl
  · intro param member
    rw [List.mem_singleton.mp member]
    exact key

/-- What a URL asks for is read back from it, and an encoded value has no character in it that
means something in a query. -/
theorem queries_decode :
    (∀ query pageToken pageSize fields, decodeQuery (filesListUrl query pageToken pageSize fields) =
      (filesListParams query pageToken pageSize fields).map fun param => (param.1, some param.2)) ∧
    (∀ pageToken pageSize fields driveId includeRemoved,
      decodeQuery (changesListUrl pageToken pageSize fields driveId includeRemoved) =
        (changesListParams pageToken pageSize fields driveId includeRemoved).map fun param => (param.1, some param.2)) ∧
    (∀ fileId mimeType, decodeQuery (filesExportUrl fileId mimeType) = [("mimeType", some mimeType)]) ∧
    Function.Injective urlencoding ∧
    ∀ text, wellEscaped isPlain (urlencoding text).toList = true := by
  refine ⟨?_, ?_, decodeQuery_filesExportUrl, urlencoding_injective, fun text => ?_⟩
  · intro query pageToken pageSize fields
    refine decodeQuery_of_written (by decide) ?_ (isKey_filesListParams query pageToken pageSize fields)
    exact List.append_ne_nil_of_right_ne_nil _ (List.cons_ne_nil _ _)
  · intro pageToken pageSize fields driveId includeRemoved
    refine decodeQuery_of_written (by decide) ?_ (isKey_changesListParams pageToken pageSize fields driveId
      includeRemoved)
    rw [changesListParams, List.append_assoc, List.append_assoc, List.append_assoc]
    exact List.cons_ne_nil _ _
  · rw [urlencoding, String.toList_ofList]
    exact wellEscaped_flatMap wellEscaped_encodeByte _

end Api
end GDriver
