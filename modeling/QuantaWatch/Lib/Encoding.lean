import Mathlib

/-!
Byte strings, the UTF-8 bytes of a text, and lowercase hexadecimal.
-/

namespace QuantaWatch.Lib.Encoding

abbrev Bytes := List UInt8

def utf8Chars (text : List Char) : Bytes :=
  text.flatMap String.utf8EncodeChar

def utf8 (text : String) : Bytes :=
  utf8Chars text.toList

theorem utf8Chars_injective : Function.Injective utf8Chars := by
  intro left right equal
  have encoded : left.utf8Encode = right.utf8Encode := by
    unfold List.utf8Encode
    exact congrArg List.toByteArray equal
  have decoded := congrArg ByteArray.utf8Decode? encoded
  rw [List.utf8Decode?_utf8Encode, List.utf8Decode?_utf8Encode] at decoded
  simpa using decoded

theorem utf8_injective : Function.Injective utf8 :=
  utf8Chars_injective.comp fun _ _ equal => String.toList_injective equal

structure Digest where
  bytes : Bytes
  length_eq : bytes.length = 32
deriving DecidableEq

theorem Digest.bytes_injective : Function.Injective Digest.bytes := by
  intro left right equal
  cases left
  cases right
  simpa using equal

def hexDigit (value : Nat) : Char :=
  ['0', '1', '2', '3', '4', '5', '6', '7', '8', '9', 'a', 'b', 'c', 'd', 'e', 'f'].getD value '0'

def hexByte (byte : UInt8) : List Char :=
  [hexDigit (byte.toNat / 16), hexDigit (byte.toNat % 16)]

def hexEncode (bytes : Bytes) : String :=
  String.ofList (bytes.flatMap hexByte)

theorem hexDigit_injective {left right : Nat} (leftSmall : left < 16) (rightSmall : right < 16)
    (equal : hexDigit left = hexDigit right) : left = right := by
  have distinct : ∀ first < 16, ∀ second < 16,
      hexDigit first = hexDigit second → first = second := by decide
  exact distinct left leftSmall right rightSmall equal

theorem hexByte_injective : Function.Injective hexByte := by
  intro left right equal
  simp only [hexByte, List.cons.injEq, and_true] at equal
  have leftBound := left.toNat_lt
  have rightBound := right.toNat_lt
  have high := hexDigit_injective (by omega) (by omega) equal.1
  have low := hexDigit_injective (by omega) (by omega) equal.2
  apply UInt8.toNat_inj.mp
  omega

theorem flatMap_hexByte_injective :
    Function.Injective (fun bytes : Bytes => bytes.flatMap hexByte) := by
  intro left
  induction left with
  | nil =>
    intro right equal
    cases right with
    | nil => rfl
    | cons byte rest => simp [hexByte] at equal
  | cons byte rest ih =>
    intro right equal
    cases right with
    | nil => simp [hexByte] at equal
    | cons other others =>
      simp only [List.flatMap_cons] at equal
      obtain ⟨sameByte, sameRest⟩ := List.append_inj equal (by simp [hexByte])
      rw [hexByte_injective sameByte, ih sameRest]

theorem hexEncode_injective : Function.Injective hexEncode := by
  intro left right equal
  apply flatMap_hexByte_injective
  simpa [hexEncode] using congrArg String.toList equal

end QuantaWatch.Lib.Encoding
