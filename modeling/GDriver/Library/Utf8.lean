import Mathlib.Logic.Basic

namespace GDriver
namespace Library

/-!
# Texts and their bytes

Bytes that encode a text encode one text only.  A beginning that encodes a text, and an end that is
one ASCII character, can be taken off.
-/

/-- The bytes of a text. -/
def textBytes (text : String) : List UInt8 :=
  text.toByteArray.data.toList

/-- The text that bytes encode, if they encode one. -/
def utf8 (bytes : List UInt8) : Option String :=
  String.fromUTF8? ⟨bytes.toArray⟩

theorem utf8_eq_some_iff {bytes : List UInt8} {text : String} : utf8 bytes = some text ↔ textBytes text = bytes := by
  have same : text.toByteArray = ⟨bytes.toArray⟩ ↔ textBytes text = bytes := by
    constructor
    · intro equal
      rw [textBytes, equal]
    · intro equal
      rw [← equal, textBytes]
  rw [utf8, String.fromUTF8?, ← same]
  split
  · next valid =>
      rw [Option.some.injEq, ← String.toByteArray_inj]
      exact eq_comm
  · next invalid =>
      refine iff_of_false (fun impossible => by cases impossible) ?_
      intro equal
      rw [← equal] at invalid
      exact invalid text.isValidUTF8

theorem utf8_textBytes (text : String) : utf8 (textBytes text) = some text :=
  utf8_eq_some_iff.mpr rfl

theorem textBytes_append (first second : String) : textBytes (first ++ second) =
    textBytes first ++ textBytes second := by
  rw [textBytes, String.toByteArray_append, ByteArray.data_append, Array.toList_append]
  rfl

/-- Characters before it do not make an encoding of something that is none. -/
theorem isValidUTF8_of_append {characters : List Char} {rest : ByteArray}
    (valid : ByteArray.IsValidUTF8 (characters.utf8Encode ++ rest)) : ByteArray.IsValidUTF8 rest := by
  induction characters with
  | nil => simpa using valid
  | cons character more inductionHypothesis =>
      apply inductionHypothesis
      rw [← List.singleton_append, List.utf8Encode_append, ByteArray.append_assoc] at valid
      exact ByteArray.isValidUTF8_utf8Encode_singleton_append_iff.mp valid

theorem utf8_append (text : String) (bytes : List UInt8) :
    utf8 (textBytes text ++ bytes) = (utf8 bytes).map fun rest => text ++ rest := by
  cases decoded : utf8 bytes with
  | some rest =>
      rw [utf8_eq_some_iff] at decoded
      rw [Option.map_some, utf8_eq_some_iff, textBytes_append, decoded]
  | none =>
      cases whole : utf8 (textBytes text ++ bytes) with
      | none => rfl
      | some joined =>
          rw [utf8_eq_some_iff] at whole
          have valid : ByteArray.IsValidUTF8 (text.toByteArray ++ ⟨bytes.toArray⟩) := by
            have equal : joined.toByteArray = text.toByteArray ++ ⟨bytes.toArray⟩ := by
              apply ByteArray.ext
              apply Array.toList_inj.mp
              rw [ByteArray.data_append, Array.toList_append]
              exact whole
            rw [← equal]
            exact joined.isValidUTF8
          rcases text.isValidUTF8 with ⟨characters, encoded⟩
          rw [encoded] at valid
          have rest := isValidUTF8_of_append valid
          rw [utf8, String.fromUTF8?, dif_pos rest] at decoded
          cases decoded

/-- A character that ends with an ASCII byte is that byte. -/
theorem utf8EncodeChar_of_getLast {character : Char} {last : UInt8} (ascii : last.toNat < 128)
    (ends : (String.utf8EncodeChar character).getLast? = some last) : String.utf8EncodeChar character = [last] := by
  have high (number : Nat) : UInt8.ofNat (number % 64 + 128) ≠ last := by
    intro same
    rw [← same, UInt8.toNat_ofNat'] at ascii
    omega
  rw [String.utf8EncodeChar] at ends ⊢
  split at ends
  · next short =>
      rw [if_pos short]
      exact congrArg (fun byte => [byte]) (Option.some.inj ends)
  · split at ends
    · exact absurd (Option.some.inj ends) (high _)
    · split at ends
      · exact absurd (Option.some.inj ends) (high _)
      · exact absurd (Option.some.inj ends) (high _)

theorem textBytes_concat (front : List Char) (character : Char) :
    textBytes (String.ofList (front ++ [character])) = textBytes (String.ofList front) ++
      String.utf8EncodeChar character := by
  rw [textBytes, textBytes, String.toByteArray_ofList, String.toByteArray_ofList, List.utf8Encode_append,
    ByteArray.data_append, Array.toList_append, List.utf8Encode_singleton, List.toList_data_toByteArray]

/-- An ASCII byte at the end of an encoding is its last character. -/
theorem utf8_of_concat {last : UInt8} (ascii : last.toNat < 128) {bytes : List UInt8}
    (encodes : (utf8 (bytes ++ [last])).isSome = true) : (utf8 bytes).isSome = true := by
  rcases Option.isSome_iff_exists.mp encodes with ⟨joined, decoded⟩
  rw [utf8_eq_some_iff, ← String.ofList_toList (s := joined)] at decoded
  rcases List.eq_nil_or_concat joined.toList with none | ⟨front, character, whole⟩
  · rw [none] at decoded
    exact absurd (congrArg List.length decoded) (by simp [textBytes])
  · rw [whole, List.concat_eq_append, textBytes_concat] at decoded
    have ends : (String.utf8EncodeChar character).getLast? = some last := by
      have same := congrArg List.getLast? decoded
      rw [List.getLast?_append, List.getLast?_concat] at same
      cases nonempty : (String.utf8EncodeChar character).getLast? with
      | none => exact absurd (List.getLast?_eq_none_iff.mp nonempty) String.utf8EncodeChar_ne_nil
      | some byte =>
          rw [nonempty] at same
          exact same
    rw [utf8EncodeChar_of_getLast ascii ends] at decoded
    rw [← List.append_cancel_right decoded, utf8_textBytes]
    rfl

theorem utf8_newline (bytes : List UInt8) : utf8 (bytes ++ [10]) = (utf8 bytes).map fun text => text ++ "\n" := by
  have one : textBytes "\n" = [10] := by decide
  cases decoded : utf8 bytes with
  | some text =>
      rw [utf8_eq_some_iff] at decoded
      rw [Option.map_some, utf8_eq_some_iff, textBytes_append, decoded, one]
  | none =>
      rw [Option.map_none, ← Option.not_isSome_iff_eq_none]
      intro encodes
      have ascii : (10 : UInt8).toNat < 128 := by decide
      have some := utf8_of_concat ascii encodes
      rw [decoded] at some
      cases some

end Library
end GDriver
