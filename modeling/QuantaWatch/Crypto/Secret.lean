import QuantaWatch.Crypto.Sample
import QuantaWatch.Lib.Text
import QuantaWatch.Lib.Utf8

/-!
Secrets at rest (`qw-crypto/src/secret.rs`).
-/

namespace QuantaWatch.Crypto

open Lib Lib.Encoding

structure Nonce where
  bytes : Bytes
  length_eq : bytes.length = 12

structure Aead where
  encrypt : Digest → Bytes → Bytes → Option Bytes
  decrypt : Digest → Bytes → Bytes → Option Bytes

structure Aead.Lawful (aead : Aead) : Prop where
  encrypts : ∀ key nonce text, ∃ sealed, aead.encrypt key nonce text = some sealed
  opens : ∀ {key nonce text sealed}, aead.encrypt key nonce text = some sealed →
    aead.decrypt key nonce sealed = some text
  authentic : ∀ {key other nonce text sealed}, aead.encrypt key nonce text = some sealed →
    other ≠ key → aead.decrypt other nonce sealed = none

def sealTag : String := "qwsec1:"

def isCiphertext (text : String) : Bool := sealTag.toList.isPrefixOf text.toList

variable (platform : Platform) (aead : Aead)

def encryptSecret (key : Digest) (drawn : Except String Nonce) (plaintext : String) :
    Except String String :=
  if plaintext = "" ∨ isCiphertext plaintext = true then .ok plaintext
  else
    match drawn with
    | .error reason => .error ("rng failed: " ++ reason)
    | .ok nonce =>
      match aead.encrypt key nonce.bytes (utf8 plaintext) with
      | none => .error "encrypt failed: aead::Error"
      | some sealed => .ok (sealTag ++ platform.base64Encode (nonce.bytes ++ sealed))

def decryptSecret (key : Digest) (stored : String) : Except String String :=
  if isCiphertext stored = true then
    match platform.base64Decode (String.ofList (stored.toList.drop sealTag.toList.length)) with
    | .error reason => .error ("bad ciphertext encoding: " ++ reason)
    | .ok blob =>
      if blob.length < 12 then .error "ciphertext too short"
      else
        match aead.decrypt key (blob.take 12) (blob.drop 12) with
        | none => .error "decrypt/authentication failed"
        | some text =>
          match Utf8.fromUtf8 text with
          | none => .error "invalid utf8"
          | some chars => .ok (String.ofList chars)
  else .ok stored

def SealedAs (key : Digest) (token stored : String) : Prop :=
  token = "" ∧ stored = "" ∨
    token ≠ "" ∧ ∃ (nonce : Nonce) (sealed : Bytes),
      aead.encrypt key nonce.bytes (utf8 token) = some sealed ∧
        stored = sealTag ++ platform.base64Encode (nonce.bytes ++ sealed)

variable {platform aead} {key other : Digest} {token stored : String}

theorem isCiphertext_tagged (text : String) : isCiphertext (sealTag ++ text) = true := by
  rw [isCiphertext, List.isPrefixOf_iff_prefix, String.toList_append]
  exact List.prefix_append _ _

theorem encryptSecret_sealed (isSealed : SealedAs platform aead key token stored) (other : Digest)
    (drawn : Except String Nonce) :
    encryptSecret platform aead other drawn stored = .ok stored := by
  apply if_pos
  rcases isSealed with ⟨_, isEmpty⟩ | ⟨_, nonce, sealed, _, isStored⟩
  · exact .inl isEmpty
  · rw [isStored]
    exact .inr (isCiphertext_tagged _)

theorem encryptSecret_plain (lawful : aead.Lawful) (plain : isCiphertext token = false)
    (nonce : Nonce) : ∃ stored, encryptSecret platform aead key (.ok nonce) token = .ok stored ∧
      SealedAs platform aead key token stored := by
  by_cases isEmpty : token = ""
  · exact ⟨token, if_pos (.inl isEmpty), .inl ⟨isEmpty, isEmpty⟩⟩
  · obtain ⟨sealed, isSealed⟩ := lawful.encrypts key nonce.bytes (utf8 token)
    refine ⟨_, ?_, .inr ⟨isEmpty, nonce, sealed, isSealed, rfl⟩⟩
    have needed : ¬(token = "" ∨ isCiphertext token = true) := by simp [isEmpty, plain]
    rw [encryptSecret, if_neg needed]
    simp only [isSealed]

theorem decryptSecret_tagged (platformLawful : platform.Lawful) (key : Digest) (nonce : Nonce)
    (sealed : Bytes) :
    decryptSecret platform aead key (sealTag ++ platform.base64Encode (nonce.bytes ++ sealed)) =
      match aead.decrypt key nonce.bytes sealed with
      | none => .error "decrypt/authentication failed"
      | some text =>
        match Utf8.fromUtf8 text with
        | none => .error "invalid utf8"
        | some chars => .ok (String.ofList chars) := by
  have rest (text : String) : String.ofList ((sealTag ++ text).toList.drop sealTag.toList.length) =
      text := by
    rw [String.toList_append, List.drop_left, String.ofList_toList]
  have long : ¬(nonce.bytes ++ sealed).length < 12 := by
    rw [List.length_append, nonce.length_eq]
    omega
  rw [decryptSecret, if_pos (isCiphertext_tagged _), rest, platformLawful.base64]
  simp only [if_neg long, List.take_left' nonce.length_eq, List.drop_left' nonce.length_eq]

theorem decryptSecret_own (lawful : aead.Lawful) (platformLawful : platform.Lawful)
    (isSealed : SealedAs platform aead key token stored) :
    decryptSecret platform aead key stored = .ok token := by
  rcases isSealed with ⟨isEmpty, storedEmpty⟩ | ⟨_, nonce, sealed, isSealed, isStored⟩
  · rw [isEmpty, storedEmpty]
    exact if_neg (by decide)
  · rw [isStored, decryptSecret_tagged platformLawful, lawful.opens isSealed]
    simp only [utf8, Utf8.fromUtf8_utf8Chars, String.ofList_toList]

theorem decryptSecret_other (lawful : aead.Lawful) (platformLawful : platform.Lawful)
    (isSealed : SealedAs platform aead key token stored) (differ : other ≠ key) :
    (decryptSecret platform aead other stored).toOption.getD stored = stored := by
  rcases isSealed with ⟨_, storedEmpty⟩ | ⟨_, nonce, sealed, isSealed, isStored⟩
  · rw [storedEmpty, decryptSecret, if_neg (by decide)]
    rfl
  · rw [isStored, decryptSecret_tagged platformLawful, lawful.authentic isSealed differ]
    rfl

def sampleAead : Aead where
  encrypt key _ text := some (key.bytes ++ text)
  decrypt key _ sealed := if key.bytes.isPrefixOf sealed then some (sealed.drop 32) else none

theorem sampleAead_lawful : sampleAead.Lawful where
  encrypts key _ text := ⟨key.bytes ++ text, rfl⟩
  opens {key _ text sealed} isSealed := by
    obtain rfl := Option.some.inj isSealed
    have starts : key.bytes.isPrefixOf (key.bytes ++ text) = true :=
      List.isPrefixOf_iff_prefix.mpr (List.prefix_append _ _)
    simp only [sampleAead, if_pos starts, List.drop_left' key.length_eq]
  authentic {key other _ text sealed} isSealed differ := by
    obtain rfl := Option.some.inj isSealed
    refine if_neg fun starts => differ ?_
    have isStart := List.isPrefixOf_iff_prefix.mp starts
    have same := List.prefix_of_prefix_length_le isStart (List.prefix_append key.bytes text)
      (other.length_eq.trans key.length_eq.symm).le
    exact Digest.bytes_injective
      (same.eq_of_length (other.length_eq.trans key.length_eq.symm))

end QuantaWatch.Crypto
