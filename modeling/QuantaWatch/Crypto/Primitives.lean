import QuantaWatch.Lib.Json.RoundTrip

/-!
The primitives of `qw-crypto` that the audit log uses.
-/

namespace QuantaWatch.Crypto

open Lib.Encoding Lib.Json

structure DateTime where
  nanos : Int
deriving DecidableEq

structure Platform where
  sha3_256 : Bytes → Digest
  verifyingKeyLength : Nat
  signatureLength : Nat
  verifyingKey : Bytes → Bytes
  signDeterministic : Bytes → Bytes → Bytes
  decodesSignature : Bytes → Bool
  verifyWithContext : Bytes → Bytes → Bytes → Bool
  base64Encode : Bytes → String
  base64Decode : String → Except String Bytes
  /-- `DateTime::to_rfc3339`, and the text serde gives a timestamp. -/
  toRfc3339 : DateTime → String
  serializeTime : DateTime → String
  deserializeTime : String → Option DateTime
  floats : FloatText
  f64OfInt : Int → F64

structure Platform.Lawful (platform : Platform) : Prop where
  base64 : ∀ bytes, platform.base64Decode (platform.base64Encode bytes) = .ok bytes
  keyLength : ∀ seed, (platform.verifyingKey seed).length = platform.verifyingKeyLength
  signatureLength : ∀ seed message,
    (platform.signDeterministic seed message).length = platform.signatureLength
  signatureDecodes : ∀ seed message,
    platform.decodesSignature (platform.signDeterministic seed message) = true
  signatureVerifies : ∀ seed message,
    platform.verifyWithContext (platform.verifyingKey seed) message
      (platform.signDeterministic seed message) = true

structure Platform.LawfulText (platform : Platform) : Prop where
  floats : platform.floats.Lawful
  time : ∀ instant, platform.deserializeTime (platform.serializeTime instant) = some instant
  rfc3339 : Function.Injective platform.toRfc3339

variable (platform : Platform)

def sha3_256Hex (data : Bytes) : String :=
  hexEncode (platform.sha3_256 data).bytes

theorem sha3_256_of_hex_eq {left right : Bytes}
    (equal : sha3_256Hex platform left = sha3_256Hex platform right) :
    platform.sha3_256 left = platform.sha3_256 right :=
  Digest.bytes_injective (hexEncode_injective equal)

/-- `qw_crypto::verify`: lengths and encoding are errors, a wrong signature is
`false`. -/
def verify (publicKeyBytes message signatureBytes : Bytes) : Except String Bool :=
  if publicKeyBytes.length ≠ platform.verifyingKeyLength then
    .error "verification failed: invalid public key length"
  else if signatureBytes.length ≠ platform.signatureLength then
    .error "verification failed: invalid signature length"
  else if platform.decodesSignature signatureBytes = false then
    .error "verification failed: invalid signature encoding"
  else .ok (platform.verifyWithContext publicKeyBytes message signatureBytes)

structure GatewayIdentity where
  seed : Bytes

def GatewayIdentity.publicKeyBytes (identity : GatewayIdentity) : Bytes :=
  platform.verifyingKey identity.seed

def GatewayIdentity.sign (identity : GatewayIdentity) (message : Bytes) : Bytes :=
  platform.signDeterministic identity.seed message

theorem verify_sign {platform : Platform} (lawful : platform.Lawful) (identity : GatewayIdentity)
    (message : Bytes) :
    verify platform (identity.publicKeyBytes platform) message (identity.sign platform message) =
      .ok true := by
  simp [verify, GatewayIdentity.publicKeyBytes, GatewayIdentity.sign, lawful.keyLength,
    lawful.signatureLength, lawful.signatureDecodes, lawful.signatureVerifies]

namespace MerkleTree

def emptyRoot : Digest where
  bytes := List.replicate 32 0
  length_eq := by simp

def combine (left right : Digest) : Digest :=
  platform.sha3_256 (left.bytes ++ right.bytes)

def nextLevel : List Digest → List Digest
  | [] => []
  | [last] => [combine platform last last]
  | left :: right :: rest => combine platform left right :: nextLevel rest

/-- Levels up to the root; `fuel` bounds their number. -/
def climb : Nat → List Digest → Digest
  | _, [] => emptyRoot
  | _, [root] => root
  | 0, first :: _ => first
  | fuel + 1, level => climb fuel (nextLevel platform level)

def computeRoot (leaves : List Digest) : Digest :=
  climb platform leaves.length leaves

end MerkleTree

end QuantaWatch.Crypto
