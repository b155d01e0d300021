import QuantaWatch.Lib.Encoding

/-!
UTF-8 decoding, strict and lossy.
-/

namespace QuantaWatch.Lib.Utf8

open Lib.Encoding

structure Begun where
  value : Nat
  later : Nat
  low : Nat
  high : Nat

def lead (byte : Nat) : Option Begun :=
  if 0xC2 ≤ byte ∧ byte ≤ 0xDF then some ⟨byte - 0xC0, 0, 0x80, 0xBF⟩
  else if byte = 0xE0 then some ⟨0, 1, 0xA0, 0xBF⟩
  else if byte = 0xED then some ⟨0xD, 1, 0x80, 0x9F⟩
  else if 0xE1 ≤ byte ∧ byte ≤ 0xEF then some ⟨byte - 0xE0, 1, 0x80, 0xBF⟩
  else if byte = 0xF0 then some ⟨0, 2, 0x90, 0xBF⟩
  else if 0xF1 ≤ byte ∧ byte ≤ 0xF3 then some ⟨byte - 0xF0, 2, 0x80, 0xBF⟩
  else if byte = 0xF4 then some ⟨4, 2, 0x80, 0x8F⟩
  else none

/-- A byte between characters: what it completes, and what it begins. `none`
stands for a malformed sequence. -/
def start (byte : Nat) : List (Option Char) × Option Begun :=
  if byte < 0x80 then ([some (Char.ofNat byte)], none)
  else
    match lead byte with
    | some begun => ([], some begun)
    | none => ([none], none)

def step (state : Option Begun) (byte : Nat) : List (Option Char) × Option Begun :=
  match state with
  | none => start byte
  | some ⟨value, later, low, high⟩ =>
    if low ≤ byte ∧ byte ≤ high then
      match later with
      | 0 => ([some (Char.ofNat (value * 64 + (byte - 0x80)))], none)
      | later + 1 => ([], some ⟨value * 64 + (byte - 0x80), later, 0x80, 0xBF⟩)
    else (none :: (start byte).1, (start byte).2)

def decodeFrom (state : Option Begun) : Bytes → List (Option Char)
  | [] => if state.isSome then [none] else []
  | byte :: rest =>
    (step state byte.toNat).1 ++ decodeFrom (step state byte.toNat).2 rest

def decode (bytes : Bytes) : List (Option Char) := decodeFrom none bytes

/-- `str::from_utf8`. -/
def fromUtf8 (bytes : Bytes) : Option (List Char) := (decode bytes).mapM id

/-- `String::from_utf8_lossy`: a replacement character for each malformed
sequence. -/
def fromUtf8Lossy (bytes : Bytes) : String :=
  String.ofList ((decode bytes).map fun decoded => decoded.getD (Char.ofNat 0xFFFD))

theorem lead_two {value : Nat} (least : 0x80 ≤ value) (most : value < 0x800) :
    lead (value / 64 + 0xC0) = some ⟨value / 64, 0, 0x80, 0xBF⟩ := by
  rw [lead, if_pos (by omega), Nat.add_sub_cancel]

theorem lead_three {value : Nat} (least : 0x800 ≤ value) (most : value < 0x10000)
    (scalar : value < 0xD800 ∨ 0xDFFF < value) :
    ∃ low high, lead (value / 4096 + 0xE0) = some ⟨value / 4096, 1, low, high⟩ ∧
      low ≤ value / 64 % 64 + 0x80 ∧ value / 64 % 64 + 0x80 ≤ high := by
  rw [lead, if_neg (by omega)]
  by_cases first : value / 4096 + 0xE0 = 0xE0
  · refine ⟨0xA0, 0xBF, ?_, by omega, by omega⟩
    rw [if_pos first, show value / 4096 = 0 by omega]
  · by_cases surrogate : value / 4096 + 0xE0 = 0xED
    · refine ⟨0x80, 0x9F, ?_, by omega, by omega⟩
      rw [if_neg first, if_pos surrogate, show value / 4096 = 0xD by omega]
    · refine ⟨0x80, 0xBF, ?_, by omega, by omega⟩
      rw [if_neg first, if_neg surrogate, if_pos (by omega), Nat.add_sub_cancel]

theorem lead_four {value : Nat} (least : 0x10000 ≤ value) (most : value < 0x110000) :
    ∃ low high, lead (value / 262144 + 0xF0) = some ⟨value / 262144, 2, low, high⟩ ∧
      low ≤ value / 4096 % 64 + 0x80 ∧ value / 4096 % 64 + 0x80 ≤ high := by
  rw [lead, if_neg (by omega), if_neg (by omega), if_neg (by omega), if_neg (by omega)]
  by_cases first : value / 262144 + 0xF0 = 0xF0
  · refine ⟨0x90, 0xBF, ?_, by omega, by omega⟩
    rw [if_pos first, show value / 262144 = 0 by omega]
  · by_cases last : value / 262144 + 0xF0 = 0xF4
    · refine ⟨0x80, 0x8F, ?_, by omega, by omega⟩
      rw [if_neg first, if_neg (by omega), if_pos last, show value / 262144 = 4 by omega]
    · refine ⟨0x80, 0xBF, ?_, by omega, by omega⟩
      rw [if_neg first, if_pos (by omega), Nat.add_sub_cancel]

section Machine

variable {value later low high bits : Nat} {rest : Bytes}

theorem decodeFrom_lead {byte : Nat} {begun : Begun} (least : 0x80 ≤ byte) (most : byte < 256)
    (begins : lead byte = some begun) :
    decodeFrom none (UInt8.ofNat byte :: rest) = decodeFrom (some begun) rest := by
  simp only [decodeFrom, step, start, UInt8.toNat_ofNat_of_lt' most, if_neg (not_lt.mpr least),
    begins, List.nil_append]

theorem decodeFrom_next (small : bits < 64) (above : low ≤ bits + 0x80)
    (below : bits + 0x80 ≤ high) :
    decodeFrom (some ⟨value, later + 1, low, high⟩) (UInt8.ofNat (bits + 0x80) :: rest) =
      decodeFrom (some ⟨value * 64 + bits, later, 0x80, 0xBF⟩) rest := by
  have byte : (UInt8.ofNat (bits + 0x80)).toNat = bits + 0x80 :=
    UInt8.toNat_ofNat_of_lt' (show bits + 0x80 < 256 by omega)
  simp only [decodeFrom, step, byte, if_pos (And.intro above below),
    Nat.add_sub_cancel, List.nil_append]

theorem decodeFrom_last (small : bits < 64) (above : low ≤ bits + 0x80)
    (below : bits + 0x80 ≤ high) :
    decodeFrom (some ⟨value, 0, low, high⟩) (UInt8.ofNat (bits + 0x80) :: rest) =
      some (Char.ofNat (value * 64 + bits)) :: decodeFrom none rest := by
  have byte : (UInt8.ofNat (bits + 0x80)).toNat = bits + 0x80 :=
    UInt8.toNat_ofNat_of_lt' (show bits + 0x80 < 256 by omega)
  simp only [decodeFrom, step, byte, if_pos (And.intro above below),
    Nat.add_sub_cancel, List.cons_append, List.nil_append]

end Machine

theorem decodeFrom_utf8EncodeChar (char : Char) (rest : Bytes) :
    decodeFrom none (String.utf8EncodeChar char ++ rest) = some char :: decodeFrom none rest := by
  have scalar : char.val.toNat < 0xD800 ∨ 0xDFFF < char.val.toNat ∧ char.val.toNat < 0x110000 :=
    char.valid
  have read : ∀ {bits : Nat}, bits = char.val.toNat → Char.ofNat bits = char := by
    intro bits equal
    rw [equal]
    exact Char.ofNat_toNat char
  unfold String.utf8EncodeChar
  generalize char.val.toNat = value at scalar read ⊢
  dsimp only
  split_ifs with one two three
  · have byte : (UInt8.ofNat value).toNat = value :=
      UInt8.toNat_ofNat_of_lt' (show value < 256 by omega)
    simp only [decodeFrom, step, start, List.cons_append, List.nil_append, byte,
      if_pos (Nat.lt_succ_of_le one), read rfl]
  · rw [Nat.mod_eq_of_lt (show value / 64 < 0x20 by omega)]
    rw [List.cons_append, decodeFrom_lead (by omega) (by omega) (lead_two (by omega) (by omega)),
      List.cons_append, decodeFrom_last (by omega) (by omega) (by omega), read (by omega)]
    rfl
  · rw [Nat.mod_eq_of_lt (show value / 4096 < 0x10 by omega)]
    obtain ⟨low, high, begins, above, below⟩ :=
      @lead_three value (by omega) (by omega) (scalar.imp_right And.left)
    rw [List.cons_append, decodeFrom_lead (by omega) (by omega) begins, List.cons_append,
      decodeFrom_next (by omega) above below, List.cons_append,
      decodeFrom_last (by omega) (by omega) (by omega), read (by omega)]
    rfl
  · rw [Nat.mod_eq_of_lt (show value / 262144 < 0x08 by omega)]
    obtain ⟨low, high, begins, above, below⟩ := @lead_four value (by omega) (by omega)
    rw [List.cons_append, decodeFrom_lead (by omega) (by omega) begins, List.cons_append,
      decodeFrom_next (by omega) above below, List.cons_append,
      decodeFrom_next (by omega) (by omega) (by omega), List.cons_append,
      decodeFrom_last (by omega) (by omega) (by omega), read (by omega)]
    rfl

theorem decode_utf8Chars (text : List Char) : decode (utf8Chars text) = text.map some := by
  induction text with
  | nil => rfl
  | cons char text ih =>
    rw [decode, utf8Chars, List.flatMap_cons, decodeFrom_utf8EncodeChar]
    exact congrArg (some char :: ·) ih

theorem fromUtf8_utf8Chars (text : List Char) : fromUtf8 (utf8Chars text) = some text := by
  rw [fromUtf8, decode_utf8Chars]
  induction text with
  | nil => rfl
  | cons char text ih => simp [ih]

end QuantaWatch.Lib.Utf8
