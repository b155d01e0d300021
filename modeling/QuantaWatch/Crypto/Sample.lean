import QuantaWatch.Crypto.Primitives

/-!
A small platform on which the laws hold, for concrete runs.
-/

namespace QuantaWatch.Crypto

open Lib.Encoding Lib.Json

def checksum (data : Bytes) : Nat :=
  data.foldl (fun total byte => (total * 257 + byte.toNat + 1) % 2 ^ 64) 0

def eightBytes (value : Nat) : Bytes :=
  (List.range 8).map fun index => UInt8.ofNat (value / 256 ^ index)

def sampleHash (data : Bytes) : Digest where
  bytes := eightBytes (checksum data) ++ List.replicate 24 0
  length_eq := by simp [eightBytes]

def sampleSign (seed message : Bytes) : Bytes :=
  eightBytes (checksum (seed ++ message))

def latinEncode (bytes : Bytes) : String :=
  String.ofList (bytes.map fun byte => Char.ofNat byte.toNat)

def latinDecode (text : String) : Except String Bytes :=
  if text.toList.all fun char => char.toNat < 256 then
    .ok (text.toList.map fun char => UInt8.ofNat char.toNat)
  else .error "Invalid symbol"

def decimal (value : Nat) : String := String.ofList (Nat.toDigits 10 value)

def timeText (instant : DateTime) : String :=
  match instant.nanos with
  | .ofNat value => "+" ++ decimal value
  | .negSucc value => "-" ++ decimal value

def parseTimeText (text : String) : Option DateTime :=
  match text.toList with
  | [] => none
  | sign :: digits =>
    if sign = '+' then some ⟨.ofNat (Nat.ofDigitChars 10 digits 0)⟩
    else if sign = '-' then some ⟨.negSucc (Nat.ofDigitChars 10 digits 0)⟩
    else none

def sampleFloats : FloatText where
  format value := Nat.toDigits 10 value.bits.toNat ++ ['.', '0']
  parse text := some ⟨UInt64.ofNat (Nat.ofDigitChars 10 (text.takeWhile Char.isDigit) 0)⟩

def samplePlatform : Platform where
  sha3_256 := sampleHash
  verifyingKeyLength := 8
  signatureLength := 8
  verifyingKey seed := eightBytes (checksum seed)
  signDeterministic seed message := sampleSign (eightBytes (checksum seed)) message
  decodesSignature _ := true
  verifyWithContext key message signature := signature = sampleSign key message
  base64Encode := latinEncode
  base64Decode := latinDecode
  toRfc3339 := timeText
  serializeTime := timeText
  deserializeTime := parseTimeText
  floats := sampleFloats
  f64OfInt value := ⟨UInt64.ofNat value.natAbs⟩

def sampleIdentity : GatewayIdentity := ⟨[7]⟩

variable {left right : Nat}

theorem mod_pow_eq_of_digits (count : Nat)
    (digits : ∀ index < count, left / 256 ^ index % 256 = right / 256 ^ index % 256) :
    left % 256 ^ count = right % 256 ^ count := by
  induction count with
  | zero => simp [Nat.mod_one]
  | succ count ih =>
    have lower := ih fun index small => digits index (by omega)
    rw [Nat.mod_pow_succ, Nat.mod_pow_succ, lower, digits count (by omega)]

theorem eightBytes_inj (leftSmall : left < 2 ^ 64) (rightSmall : right < 2 ^ 64)
    (same : eightBytes left = eightBytes right) : left = right := by
  simp only [eightBytes, List.map_inj_left, List.mem_range] at same
  have digits (index : Nat) (small : index < 8) :
      left / 256 ^ index % 256 = right / 256 ^ index % 256 := by
    simpa using congrArg UInt8.toNat (same index small)
  have sameMod := mod_pow_eq_of_digits 8 digits
  omega

theorem checksum_lt (data : Bytes) : checksum data < 2 ^ 64 := by
  induction data using List.reverseRecOn with
  | nil => simp [checksum]
  | append_singleton data byte _ =>
    simp only [checksum, List.foldl_concat]
    exact Nat.mod_lt _ (by decide)

theorem checksum_step_inj {byte : Nat} (leftSmall : left < 2 ^ 64) (rightSmall : right < 2 ^ 64)
    (same : (left * 257 + byte + 1) % 2 ^ 64 = (right * 257 + byte + 1) % 2 ^ 64) :
    left = right := by
  have products : left * 257 ≡ right * 257 [MOD 2 ^ 64] :=
    Nat.ModEq.add_right_cancel' byte (Nat.ModEq.add_right_cancel' 1 same)
  have factors := Nat.ModEq.cancel_right_of_coprime (by decide) products
  exact Nat.ModEq.eq_of_lt_of_lt factors leftSmall rightSmall

theorem checksum_append_inj {left right : Bytes} (message : Bytes)
    (same : checksum (left ++ message) = checksum (right ++ message)) :
    checksum left = checksum right := by
  induction message using List.reverseRecOn with
  | nil => simpa using same
  | append_singleton message byte ih =>
    apply ih
    have leftSmall := checksum_lt (left ++ message)
    have rightSmall := checksum_lt (right ++ message)
    rw [← List.append_assoc, ← List.append_assoc] at same
    simp only [checksum, List.foldl_concat] at same leftSmall rightSmall ⊢
    exact checksum_step_inj leftSmall rightSmall same

theorem sampleSign_inj {left right : Bytes} (message : Bytes)
    (same : sampleSign left message = sampleSign right message) : checksum left = checksum right :=
  checksum_append_inj message (eightBytes_inj (checksum_lt _) (checksum_lt _) same)

theorem latinDecode_latinEncode (bytes : Bytes) : latinDecode (latinEncode bytes) = .ok bytes := by
  have number : ∀ byte : UInt8, (Char.ofNat byte.toNat).toNat = byte.toNat := by
    intro byte
    have bound := byte.toNat_lt
    exact Char.toNat_ofNat _ |>.trans (if_pos (Or.inl (by omega)))
  have small : ∀ byte : UInt8, byte.toNat < 256 := fun byte => byte.toNat_lt
  simp [latinDecode, latinEncode, number, small, Function.comp_def]

theorem parseTimeText_timeText (instant : DateTime) :
    parseTimeText (timeText instant) = some instant := by
  obtain ⟨value | value⟩ := instant <;>
    simp [timeText, parseTimeText, decimal, Nat.ofDigitChars_ten_toDigits]

theorem samplePlatform_lawful : samplePlatform.Lawful where
  base64 := latinDecode_latinEncode
  keyLength _ := by simp [samplePlatform, eightBytes]
  signatureLength _ _ := by simp [samplePlatform, sampleSign, eightBytes]
  signatureDecodes _ _ := rfl
  signatureVerifies _ _ := by simp [samplePlatform]

theorem sampleFloats_lawful : sampleFloats.Lawful where
  token value _ := by
    obtain ⟨first, others, digits, noZero⟩ := toDigits_no_leading_zero value.bits.toNat
    have all := toDigits_isDigit value.bits.toNat
    rw [digits] at all
    refine ⟨false, first, others, ['.', '0'], [], ?_, all, noZero, ?_, Or.inl rfl, by simp⟩
    · simp [sampleFloats, digits]
    · exact Or.inr ⟨['0'], by simp, by simp, rfl⟩
  parses _ _ := rfl

theorem samplePlatform_lawfulText : samplePlatform.LawfulText where
  floats := sampleFloats_lawful
  time := parseTimeText_timeText
  rfc3339 := by
    intro left right equal
    have read := parseTimeText_timeText left
    have equal : timeText left = timeText right := equal
    rw [equal, parseTimeText_timeText right] at read
    exact (Option.some.inj read).symm

end QuantaWatch.Crypto
