import QuantaWatch.Cbom.Attestation
import QuantaWatch.Lib.Json.Record

/-!
Attestation quotes and who signs them (`Attestation` in
`qw-cbom/src/model.rs`, `qw-gateway/src/attest.rs`, `attest` in
`qw-gateway/src/admin/cbom.rs`).
-/

namespace QuantaWatch.Cbom

open Crypto Lib.Encoding Lib.Hex Lib.Json Lib.Text

structure Quote where
  bomDigest : String
  nonce : String
  measurements : List Measurement
  attestationType : String

def Measurement.text (measurement : Measurement) : String :=
  measurement.name ++ "=" ++ measurement.value

def measureStr (measurements : List Measurement) : String :=
  ";".intercalate (measurements.map Measurement.text)

def Quote.payload (quote : Quote) : String :=
  quote.bomDigest ++ "|" ++ quote.nonce ++ "|" ++ measureStr quote.measurements

def Quote.layout (quote : Quote) : Nat × Nat × List (Nat × Nat) :=
  (quote.bomDigest.length, quote.nonce.length,
    quote.measurements.map fun measurement =>
      (measurement.name.length, measurement.value.length))

structure Quote.Free (quote : Quote) : Prop where
  digest : '|' ∉ quote.bomDigest.toList
  nonce : '|' ∉ quote.nonce.toList
  names : ∀ measurement ∈ quote.measurements, '=' ∉ measurement.name.toList
  texts : ∀ measurement ∈ quote.measurements, ';' ∉ measurement.text.toList

theorem toList_text (measurement : Measurement) :
    measurement.text.toList = measurement.name.toList ++ '=' :: measurement.value.toList := by
  simp [Measurement.text, String.toList_append]

theorem toList_payload (quote : Quote) : quote.payload.toList = quote.bomDigest.toList ++
      '|' :: (quote.nonce.toList ++ '|' :: (measureStr quote.measurements).toList) := by
  simp [Quote.payload, String.toList_append]

theorem toList_measureStr_cons_cons (first second : Measurement) (rest : List Measurement) :
    (measureStr (first :: second :: rest)).toList =
      first.text.toList ++ ';' :: (measureStr (second :: rest)).toList := by
  simp [measureStr, String.intercalate_cons_cons, String.toList_append]

theorem parts_eq_of_length {left right : String} {separator : Char}
    {leftRest rightRest : List Char} (length : left.length = right.length)
    (same : left.toList ++ separator :: leftRest = right.toList ++ separator :: rightRest) :
    left = right ∧ leftRest = rightRest := by
  have parts := List.append_inj same (by rwa [String.length_toList, String.length_toList])
  exact ⟨String.toList_inj.mp parts.1, (List.cons.inj parts.2).2⟩

theorem measurement_eq_of_length {left right : Measurement}
    (length : left.name.length = right.name.length)
    (same : left.text.toList = right.text.toList) : left = right := by
  rw [toList_text, toList_text] at same
  have parts := parts_eq_of_length length same
  cases left
  cases right
  simpa using ⟨parts.1, String.toList_inj.mp parts.2⟩

variable {left right measurements : List Measurement}

theorem measurements_eq_of_layout (same : (measureStr left).toList = (measureStr right).toList)
    (layout : left.map (fun m => (m.name.length, m.value.length)) =
      right.map (fun m => (m.name.length, m.value.length))) : left = right := by
  induction left generalizing right with
  | nil => simpa using layout
  | cons first left ih =>
    cases right with
    | nil => simp at layout
    | cons other right =>
      simp only [List.map_cons, List.cons.injEq, Prod.mk.injEq] at layout
      cases left with
      | nil =>
        obtain rfl : right = [] := by simpa using layout.2
        have texts : first.text.toList = other.text.toList := by
          simpa [measureStr] using same
        rw [measurement_eq_of_length layout.1.1 texts]
      | cons second left =>
        cases right with
        | nil => simp at layout
        | cons next right =>
          rw [toList_measureStr_cons_cons, toList_measureStr_cons_cons] at same
          have length : first.text.length = other.text.length := by
            simp only [Measurement.text, String.length_append]
            omega
          have parts := parts_eq_of_length length same
          rw [measurement_eq_of_length layout.1.1 (congrArg String.toList parts.1),
            ih parts.2 layout.2]

theorem Quote.eq_iff_layout {left right : Quote} (same : left.payload = right.payload) :
    left = right ↔ left.attestationType = right.attestationType ∧ left.layout = right.layout := by
  constructor
  · rintro rfl
    exact ⟨rfl, rfl⟩
  · rintro ⟨types, layout⟩
    simp only [Quote.layout, Prod.mk.injEq] at layout
    have texts := congrArg String.toList same
    rw [toList_payload, toList_payload] at texts
    have digests := parts_eq_of_length layout.1 texts
    have nonces := parts_eq_of_length layout.2.1 digests.2
    have measurements := measurements_eq_of_layout nonces.2 layout.2.2
    cases left
    cases right
    simp_all

/-- The text before the first separator, and the rest after it. -/
def splitFirst (separator : Char) (text : List Char) : String × List Char :=
  (String.ofList (text.takeWhile (· ≠ separator)), (text.dropWhile (· ≠ separator)).tail)

theorem splitFirst_append {front : String} {separator : Char} (free : separator ∉ front.toList)
    (rest : List Char) : splitFirst separator (front.toList ++ separator :: rest) =
      (front, rest) := by
  have other : ∀ char ∈ front.toList, decide (char ≠ separator) = true := by
    intro char member
    simpa using fun same : char = separator => free (same ▸ member)
  rw [splitFirst, List.takeWhile_append_of_pos other, List.dropWhile_append_of_pos other]
  simp

def readMeasurement (text : List Char) : Measurement :=
  let (name, value) := splitFirst '=' text
  ⟨name, String.ofList value⟩

/-- The parts of a quote that are signed, read from its payload. -/
def readPayload (payload : List Char) : String × String × List Measurement :=
  let (bomDigest, rest) := splitFirst '|' payload
  let (nonce, rest) := splitFirst '|' rest
  (bomDigest, nonce, (rest.splitOn ';').map readMeasurement)

theorem readPayload_payload {quote : Quote} (free : quote.Free) (some : quote.measurements ≠ []) :
    readPayload quote.payload.toList = (quote.bomDigest, quote.nonce, quote.measurements) := by
  have texts : (measureStr quote.measurements).toList.splitOn ';' =
      (quote.measurements.map Measurement.text).map String.toList := by
    rw [measureStr, String.toList_intercalate]
    exact List.splitOn_intercalate ';' (by simpa using free.texts) (by simpa using some)
  have read : ∀ measurement ∈ quote.measurements,
      readMeasurement measurement.text.toList = measurement := by
    intro measurement member
    simp [readMeasurement, toList_text, splitFirst_append (free.names measurement member)]
  simp only [toList_payload, readPayload, splitFirst_append free.digest,
    splitFirst_append free.nonce, texts, List.map_map, Function.comp_def]
  rw [List.map_congr_left read, List.map_id']

structure Attestor where
  kind : String
  algorithm : String := "ML-DSA-65"
  signerPublicKey : Bytes
  signerFingerprint : String
  sign : Bytes → Bytes
  platformMeasurements : List Measurement
  certChain : List AttestationCert
  note : String

section

variable (platform : Platform)

def softwareAttestor (identity : GatewayIdentity) : Attestor where
  kind := "software-ml-dsa-65"
  signerPublicKey := identity.publicKeyBytes platform
  signerFingerprint := sha3_256Hex platform (identity.publicKeyBytes platform)
  sign := identity.sign platform
  platformMeasurements := []
  certChain := []
  note := "Software-emulated attestation over the live CBOM; no hardware root of trust."

/-- `HardwareAttestor::synthetic`, with the two keys that it generates. -/
def hardwareAttestor (ak root : GatewayIdentity) : Attestor where
  kind := "synthetic-tpm-ml-dsa-65"
  signerPublicKey := ak.publicKeyBytes platform
  signerFingerprint := sha3_256Hex platform (ak.publicKeyBytes platform)
  sign := ak.sign platform
  platformMeasurements :=
    [⟨"pcr0-firmware", sha3_256Hex platform (utf8 "synthetic-firmware-measurement")⟩,
      ⟨"pcr7-secureboot", sha3_256Hex platform (utf8 "synthetic-secureboot-policy")⟩,
      ⟨"ak-fingerprint", sha3_256Hex platform (ak.publicKeyBytes platform)⟩]
  certChain := syntheticChain platform ak root
  note := "Synthetic hardware-rooted attestation: AK certified by an in-process platform CA " ++
    "(PQC model of a TPM 2.0 / AWS Nitro quote). Replace the synthetic root with a real " ++
    "hardware quote to close the trust chain to silicon."

def buildAttestor (provider : String) (identity ak root : GatewayIdentity) : Attestor :=
  if provider = "synthetic-tpm" then hardwareAttestor platform ak root
  else softwareAttestor platform identity

structure Attestation where
  attestationType : String
  algorithm : String
  signerFingerprint : String
  bomDigest : String
  nonce : String
  measurements : List Measurement
  signature : String
  publicKey : String
  signedAt : DateTime
  note : String
  certChain : List AttestationCert

def Attestation.quote (attestation : Attestation) : Quote :=
  ⟨attestation.bomDigest, attestation.nonce, attestation.measurements,
    attestation.attestationType⟩

def canonicalBytes (value : Value) : Bytes := utf8Chars (value.print platform.floats)

def baseMeasurements (attestor : Attestor) (gatewayFingerprint version : String) :
    List Measurement :=
  [⟨"gateway-identity", gatewayFingerprint⟩,
    ⟨"signing-key", sha3_256Hex platform attestor.signerPublicKey⟩,
    ⟨"tool", "quantawatch-" ++ version⟩]

/-- `attest`: a quote on an inventory, with a fresh nonce. -/
def attest (attestor : Attestor) (gatewayFingerprint version nonce : String) (now : DateTime)
    (bom : Value) : Attestation :=
  let bomDigest := sha3_256Hex platform (canonicalBytes platform bom)
  let measurements := baseMeasurements platform attestor gatewayFingerprint version ++
    attestor.platformMeasurements
  let quotePayload := bomDigest ++ "|" ++ nonce ++ "|" ++ measureStr measurements
  { attestationType := attestor.kind
    algorithm := attestor.algorithm
    signerFingerprint := attestor.signerFingerprint
    bomDigest
    nonce
    measurements
    signature := hexEncode (attestor.sign (utf8 quotePayload))
    publicKey := hexEncode attestor.signerPublicKey
    signedAt := now
    note := attestor.note
    certChain := attestor.certChain }

theorem signature_attest (attestor : Attestor) (gatewayFingerprint version nonce : String)
    (now : DateTime) (bom : Value) :
    (attest platform attestor gatewayFingerprint version nonce now bom).signature =
      hexEncode (attestor.sign (utf8
        (attest platform attestor gatewayFingerprint version nonce now bom).quote.payload)) := rfl

def Measurement.toValue (measurement : Measurement) : Value :=
  .object [("name", .string measurement.name), ("value", .string measurement.value)]

def certNames : List String :=
  ["role", "subjectFingerprint", "subjectPublicKey", "issuerFingerprint", "signature"]

def AttestationCert.toValue (cert : AttestationCert) : Value :=
  .object [("role", .string cert.role), ("subjectFingerprint", .string cert.subjectFingerprint),
    ("subjectPublicKey", .string cert.subjectPublicKey),
    ("issuerFingerprint", .string cert.issuerFingerprint),
    ("signature", .string cert.signature)]

def AttestationCert.fromValue (value : Value) : Option AttestationCert := do
  let fields ← recordFields certNames value
  let role ← fields.read "role" Value.asStr
  let subjectFingerprint ← fields.read "subjectFingerprint" Value.asStr
  let subjectPublicKey ← fields.read "subjectPublicKey" Value.asStr
  let issuerFingerprint ← fields.read "issuerFingerprint" Value.asStr
  let signature ← fields.read "signature" Value.asStr
  some ⟨role, subjectFingerprint, subjectPublicKey, issuerFingerprint, signature⟩

def Attestation.toValue (attestation : Attestation) : Value :=
  .object ([("attestationType", .string attestation.attestationType),
    ("algorithm", .string attestation.algorithm),
    ("signerFingerprint", .string attestation.signerFingerprint),
    ("bomDigest", .string attestation.bomDigest),
    ("nonce", .string attestation.nonce),
    ("measurements", .array (attestation.measurements.map Measurement.toValue)),
    ("signature", .string attestation.signature),
    ("publicKey", .string attestation.publicKey),
    ("signedAt", .string (platform.serializeTime attestation.signedAt)),
    ("note", .string attestation.note)] ++
    (if attestation.certChain = [] then []
      else [("certChain", .array (attestation.certChain.map AttestationCert.toValue))]))

theorem fromValue_toValue_cert (cert : AttestationCert) :
    AttestationCert.fromValue cert.toValue = some cert := by
  rfl

theorem mapM_fromValue_certs (chain : List AttestationCert) :
    (chain.map AttestationCert.toValue).mapM AttestationCert.fromValue = some chain := by
  induction chain with
  | nil => rfl
  | cons cert chain ih =>
    simp [fromValue_toValue_cert, ih]

variable {platform}

theorem free_sha3_256Hex {char : Char} (data : Bytes) (other : hexValue char = none) :
    char ∉ (sha3_256Hex platform data).toList :=
  notMem_of_hexDecode (hexDecode_hexEncode _) other

/-- What `build_cbom` attaches: the version is that of the crate, the nonce a UUID. -/
inductive Attestation.Made (platform : Platform) : Attestation → Prop
  | attested {version nonce : String} (provider : String) (identity ak root : GatewayIdentity)
    (now : DateTime) (bom : Value) (versionFree : ';' ∉ version.toList)
    (nonceFree : '|' ∉ nonce.toList) :
    Made platform (attest platform (buildAttestor platform provider identity ak root)
      (sha3_256Hex platform (identity.publicKeyBytes platform)) version nonce now bom)

namespace Attestation.Made

variable {attestation left right : Attestation}

/-- Neither is signed, but the measurements tell the attestors apart and name the key. -/
theorem unsigned_eq (made : attestation.Made platform) :
    attestation.attestationType = (if attestation.measurements.length = 3 then
      "software-ml-dsa-65" else "synthetic-tpm-ml-dsa-65") ∧
    attestation.measurements[1]? = some ⟨"signing-key", attestation.signerFingerprint⟩ := by
  cases made with
  | attested provider identity ak root now bom versionFree nonceFree =>
    unfold buildAttestor
    by_cases synthetic : provider = "synthetic-tpm"
    · rw [if_pos synthetic]
      exact ⟨rfl, rfl⟩
    · rw [if_neg synthetic]
      exact ⟨rfl, rfl⟩

theorem readPayload_eq (made : attestation.Made platform) :
    readPayload attestation.quote.payload.toList =
      (attestation.bomDigest, attestation.nonce, attestation.measurements) := by
  have hexFree (data : Bytes) : ';' ∉ (sha3_256Hex platform data).toList :=
    free_sha3_256Hex data (by decide)
  have nonempty : attestation.measurements ≠ [] := by
    intro empty
    have key := made.unsigned_eq.2
    rw [empty] at key
    cases key
  cases made with
  | attested provider identity ak root now bom versionFree nonceFree =>
    refine readPayload_payload ⟨free_sha3_256Hex _ (by decide), nonceFree, ?_, ?_⟩ nonempty
    all_goals
      unfold attest buildAttestor
      split_ifs <;> simp [quote, baseMeasurements, hardwareAttestor, softwareAttestor,
        Measurement.text, hexFree, versionFree]

/-- Of two attestations that the gateway makes, one signed payload is one quote by one key. -/
theorem eq_of_payload (leftMade : left.Made platform) (rightMade : right.Made platform)
    (same : left.quote.payload = right.quote.payload) :
    left.quote = right.quote ∧ left.signerFingerprint = right.signerFingerprint := by
  have read := leftMade.readPayload_eq
  rw [same, rightMade.readPayload_eq] at read
  simp only [Prod.mk.injEq] at read
  obtain ⟨digests, nonces, measurements⟩ := read
  obtain ⟨leftType, leftKey⟩ := leftMade.unsigned_eq
  obtain ⟨rightType, rightKey⟩ := rightMade.unsigned_eq
  rw [measurements] at rightType rightKey
  refine ⟨?_, ?_⟩
  · rw [quote, quote, digests, nonces, measurements, leftType, rightType]
  · rw [leftKey] at rightKey
    simpa using rightKey

def sample (now : DateTime) : Attestation :=
  attest samplePlatform (buildAttestor samplePlatform "tpm2" sampleIdentity ⟨[1]⟩ ⟨[2]⟩)
    (sha3_256Hex samplePlatform (sampleIdentity.publicKeyBytes samplePlatform)) "1" "n" now .null

theorem sample_made (now : DateTime) : (sample now).Made samplePlatform :=
  .attested _ _ _ _ _ _ (by decide) (by decide)

theorem eq_of_payload_sample : (sample ⟨0⟩).quote = (sample ⟨1⟩).quote ∧
    (sample ⟨0⟩).signerFingerprint = (sample ⟨1⟩).signerFingerprint :=
  eq_of_payload (sample_made ⟨0⟩) (sample_made ⟨1⟩) rfl

end Attestation.Made

structure Attestor.Sound (platform : Platform) (attestor : Attestor) : Prop where
  verifies : ∀ message, verify platform attestor.signerPublicKey message
    (attestor.sign message) = .ok true
  chain : attestor.certChain ≠ [] →
    ∃ root, verifyCertChain platform attestor.certChain
      (hexEncode attestor.signerPublicKey) = .ok root

theorem sound_buildAttestor (lawful : platform.Lawful) (provider : String)
    (identity ak root : GatewayIdentity) :
    (buildAttestor platform provider identity ak root).Sound platform := by
  unfold buildAttestor
  split_ifs
  · exact ⟨verify_sign lawful ak, fun _ => ⟨_, verifyCertChain_syntheticChain lawful ak root⟩⟩
  · exact ⟨verify_sign lawful identity, fun nonempty => absurd rfl nonempty⟩

end

end QuantaWatch.Cbom
