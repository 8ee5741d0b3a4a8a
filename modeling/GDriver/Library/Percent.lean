import GDriver.Library.Utf8
import Mathlib.Data.List.Basic

namespace GDriver
namespace Library

/-!
# Percent-encoding

A byte is written as itself, if it is one of those that may be, or as a percent sign with two
hexadecimal digits.  A reader takes a percent sign with two digits for a byte, and every other
character for the bytes of its encoding.
-/

def upperHexDigit (value : Nat) : Char :=
  if value < 10 then Char.ofNat (48 + value) else Char.ofNat (55 + value)

/-- The value of a hexadecimal digit of either case. -/
def hexValue (char : Char) : Option Nat :=
  if '0' ≤ char ∧ char ≤ '9' then some (char.toNat - 48)
  else if 'A' ≤ char ∧ char ≤ 'F' then some (char.toNat - 55)
  else if 'a' ≤ char ∧ char ≤ 'f' then some (char.toNat - 87)
  else none

def percentByte (byte : UInt8) : List Char :=
  ['%', upperHexDigit (byte.toNat / 16), upperHexDigit (byte.toNat % 16)]

/-- The bytes of a text in which some are percent-encoded. -/
def percentDecode : List Char → List UInt8
  | [] => []
  | '%' :: high :: low :: rest =>
      match hexValue high, hexValue low with
      | some upper, some lower => UInt8.ofNat (upper * 16 + lower) :: percentDecode rest
      | _, _ => 37 :: percentDecode (high :: low :: rest)
  | char :: rest => String.utf8EncodeChar char ++ percentDecode rest

/-- Whether every percent sign of a text begins an escape, and every other character meets a
condition. -/
def wellEscaped (plain : Char → Bool) : List Char → Bool
  | [] => true
  | '%' :: high :: low :: rest => (hexValue high).isSome && (hexValue low).isSome && wellEscaped plain rest
  | char :: rest => char ≠ '%' && plain char && wellEscaped plain rest

theorem utf8_encoded (text : String) : utf8 (text.toList.flatMap String.utf8EncodeChar) = some text := by
  have bytes : (text.toList.flatMap String.utf8EncodeChar).toByteArray = text.toByteArray :=
    String.utf8Encode_toList
  rw [utf8_eq_some_iff, textBytes, ← bytes, List.toList_data_toByteArray]

theorem hexValue_upperHexDigit {value : Nat} (below : value < 16) : hexValue (upperHexDigit value) = some value := by
  have all : ∀ value < 16, hexValue (upperHexDigit value) = some value := by decide
  exact all value below

theorem percentDecode_percentByte (byte : UInt8) (rest : List Char) :
    percentDecode (percentByte byte ++ rest) = byte :: percentDecode rest := by
  have bound := byte.toNat_lt
  have joined : byte.toNat / 16 * 16 + byte.toNat % 16 = byte.toNat := Nat.div_add_mod' _ _
  rw [percentByte, List.cons_append, List.cons_append, List.cons_append, List.nil_append, percentDecode,
    hexValue_upperHexDigit (by omega), hexValue_upperHexDigit (by omega)]
  dsimp only
  rw [joined, UInt8.ofNat_toNat]

/-- A character that is no percent sign stands for its bytes. -/
theorem percentDecode_cons {char : Char} (other : char ≠ '%') (rest : List Char) :
    percentDecode (char :: rest) = String.utf8EncodeChar char ++ percentDecode rest := by
  rw [percentDecode]
  intro high low later same
  exact absurd same other

theorem wellEscaped_percentByte (plain : Char → Bool) (byte : UInt8) (rest : List Char) :
    wellEscaped plain (percentByte byte ++ rest) = wellEscaped plain rest := by
  have bound := byte.toNat_lt
  rw [percentByte, List.cons_append, List.cons_append, List.cons_append, List.nil_append, wellEscaped,
    hexValue_upperHexDigit (by omega), hexValue_upperHexDigit (by omega)]
  exact Bool.true_and _

theorem wellEscaped_cons {plain : Char → Bool} {char : Char} (other : char ≠ '%') (allowed : plain char = true)
    (rest : List Char) : wellEscaped plain (char :: rest) = wellEscaped plain rest := by
  rw [wellEscaped, decide_eq_true other, allowed]
  · rfl
  · intro high low later same
    exact absurd same other

section Encoding

variable {encode : UInt8 → List Char}

/-- What is encoded byte by byte is decoded if every byte is. -/
theorem percentDecode_flatMap (each : ∀ byte rest, percentDecode (encode byte ++ rest) = byte :: percentDecode rest)
    (bytes : List UInt8) (rest : List Char) :
    percentDecode (bytes.flatMap encode ++ rest) = bytes ++ percentDecode rest := by
  induction bytes with
  | nil => rfl
  | cons byte later inductionHypothesis =>
      rw [List.flatMap_cons, List.append_assoc, each, inductionHypothesis]
      rfl

theorem wellEscaped_flatMap {plain : Char → Bool}
    (each : ∀ byte rest, wellEscaped plain (encode byte ++ rest) = wellEscaped plain rest) (bytes : List UInt8) :
    wellEscaped plain (bytes.flatMap encode) = true := by
  induction bytes with
  | nil => rfl
  | cons byte later inductionHypothesis =>
      rw [List.flatMap_cons, each]
      exact inductionHypothesis

end Encoding

end Library
end GDriver
