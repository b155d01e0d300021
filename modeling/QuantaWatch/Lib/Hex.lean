import QuantaWatch.Lib.Json.RoundTrip

/-!
Reading hexadecimal text.
-/

namespace QuantaWatch.Lib.Hex

open Lib.Encoding Lib.Json

def hexDecodeChars : List Char → Option Bytes
  | [] => some []
  | [_] => none
  | high :: low :: rest =>
    match hexValue high, hexValue low, hexDecodeChars rest with
    | some upper, some lower, some bytes => some (UInt8.ofNat (upper * 16 + lower) :: bytes)
    | _, _, _ => none

/-- `hex::decode`. -/
def hexDecode (text : String) : Option Bytes := hexDecodeChars text.toList

theorem hexDecodeChars_hexByte (byte : UInt8) (rest : List Char) :
    hexDecodeChars (hexByte byte ++ rest) = (hexDecodeChars rest).map (byte :: ·) := by
  have bound := byte.toNat_lt
  have number : byte.toNat / 16 * 16 + byte.toNat % 16 = byte.toNat := by omega
  have high := hexValue_hexDigit (show byte.toNat / 16 < 16 by omega)
  have low := hexValue_hexDigit (show byte.toNat % 16 < 16 by omega)
  rw [hexByte, List.cons_append, List.singleton_append, hexDecodeChars, high, low]
  cases hexDecodeChars rest with
  | none => rfl
  | some bytes => simp [number]

theorem hexDecode_hexEncode (bytes : Bytes) : hexDecode (hexEncode bytes) = some bytes := by
  rw [hexDecode, hexEncode, String.toList_ofList]
  induction bytes with
  | nil => rfl
  | cons byte bytes ih =>
    rw [List.flatMap_cons, hexDecodeChars_hexByte, ih]
    rfl

theorem hexValue_of_mem {text : List Char} {bytes : Bytes}
    (decoded : hexDecodeChars text = some bytes) :
    ∀ char ∈ text, (hexValue char).isSome = true := by
  fun_induction hexDecodeChars text generalizing bytes with
  | case1 => simp
  | case2 => contradiction
  | case3 high low rest upper lower more isMore isLower isUpper ih =>
    intro char member
    rcases List.mem_cons.mp member with rfl | other
    · rw [isUpper]
      rfl
    · rcases List.mem_cons.mp other with rfl | later
      · rw [isLower]
        rfl
      · exact ih isMore char later
  | case4 => contradiction

theorem notMem_of_hexDecode {text : String} {bytes : Bytes} (decoded : hexDecode text = some bytes)
    {char : Char} (other : hexValue char = none) : char ∉ text.toList := by
  intro member
  have digit := hexValue_of_mem decoded char member
  rw [other] at digit
  contradiction

end QuantaWatch.Lib.Hex
