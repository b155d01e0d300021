import QuantaWatch.Cbom.Quote
import QuantaWatch.Cli.LoadExport

/-!
`qw verify-evidence` and `qw verify-attestation`
(`Commands::VerifyEvidence` and `Commands::VerifyAttestation` in
`qw-cli/src/main.rs`).
-/

namespace QuantaWatch.Cli

open Cbom Crypto Lib.Encoding Lib.Hex Lib.Json

inductive CommandError where
  | json
  | message (text : String)
deriving DecidableEq

/-- `value[key].as_str().unwrap_or(fallback)`. -/
def textOr (fallback key : String) (value : Value) : String :=
  ((value.get key).bind Value.asStr).getD fallback

/-- `value[outer][inner].as_u64().unwrap_or(0)`. -/
def countAt (outer inner : String) (value : Value) : UInt64 :=
  (((value.get outer).bind (Value.get inner)).bind Value.asU64).getD 0

def flagAt (outer inner : String) (value : Value) : Bool :=
  (((value.get outer).bind (Value.get inner)).bind Value.asBool).getD false

def decodeOr (reason text : String) : Except CommandError Bytes :=
  match hexDecode text with
  | none => .error (.message reason)
  | some bytes => .ok bytes

structure EvidencePack where
  body : Value
  signatureBlock : Value
  publicKey : Bytes
  signature : Bytes

def readEvidence (pack : Value) : Except CommandError EvidencePack := do
  let body ← (pack.get "evidencePack").elim
    (.error (.message "missing 'evidencePack'")) .ok
  let signatureBlock ← (pack.get "signature").elim
    (.error (.message "missing 'signature'")) .ok
  let publicKey ← decodeOr "bad publicKey hex" (textOr "" "publicKey" signatureBlock)
  let signature ← decodeOr "bad signature hex" (textOr "" "value" signatureBlock)
  .ok ⟨body, signatureBlock, publicKey, signature⟩

/-- The lines of `qw verify-evidence`. -/
structure EvidenceReport where
  tenant : String
  generatedAt : String
  signer : String
  algorithm : String
  attackPaths : UInt64
  criticalPaths : UInt64
  auditChainValid : Bool
  digestMatches : Bool
  signatureValid : Bool

def EvidenceReport.verified (report : EvidenceReport) : Bool :=
  report.digestMatches && report.signatureValid

section

variable (platform : Platform)

def EvidencePack.digest (pack : EvidencePack) : String :=
  sha3_256Hex platform (canonicalBytes platform pack.body)

def EvidencePack.report (pack : EvidencePack) : EvidenceReport where
  tenant := textOr "?" "tenant" pack.body
  generatedAt := textOr "?" "generatedAt" pack.body
  signer := textOr "?" "gatewayFingerprint" pack.body
  algorithm := textOr "?" "algorithm" pack.signatureBlock
  attackPaths := countAt "attackPaths" "total" pack.body
  criticalPaths := countAt "attackPaths" "critical" pack.body
  auditChainValid := flagAt "auditChain" "valid" pack.body
  digestMatches := pack.digest platform = textOr "" "digest" pack.signatureBlock
  signatureValid :=
    verify platform pack.publicKey (utf8 (pack.digest platform)) pack.signature = .ok true

def loadEvidence (content : List Char) : Except CommandError EvidencePack :=
  match readDocument platform content with
  | none => .error .json
  | some pack => readEvidence pack

def verifyEvidence (content : List Char) : Except CommandError EvidenceReport :=
  (loadEvidence platform content).map (EvidencePack.report platform)

/-- `Map::remove`: the last field moves to the place of the removed one. -/
def removeField (key : String) (fields : Fields) : Fields :=
  match fields.getLast? with
  | none => []
  | some last =>
    if last.1 = key then fields.dropLast
    else fields.dropLast.map fun field => if field.1 = key then last else field

def attestationKey : String := "x-quantawatch-attestation"

structure AttestedBom where
  bom : Value
  attestation : Value
  publicKey : Bytes
  signature : Bytes

def readAttested : Value → Except CommandError AttestedBom
  | .object fields => do
    let attestation ← (fields.lookup attestationKey).elim
      (.error (.message "CBOM has no attestation")) .ok
    let publicKey ← decodeOr "bad publicKey hex" (textOr "" "publicKey" attestation)
    let signature ← decodeOr "bad signature hex" (textOr "" "signature" attestation)
    .ok ⟨.object (removeField attestationKey fields), attestation, publicKey, signature⟩
  | _ => .error (.message "CBOM has no attestation")

def readMeasurements (attestation : Value) : List Measurement :=
  (((attestation.get "measurements").bind Value.asArray).getD []).map fun measurement =>
    ⟨textOr "" "name" measurement, textOr "" "value" measurement⟩

def AttestedBom.quote (document : AttestedBom) : Quote where
  bomDigest := textOr "" "bomDigest" document.attestation
  nonce := textOr "" "nonce" document.attestation
  measurements := readMeasurements document.attestation
  attestationType := textOr "?" "attestationType" document.attestation

def AttestedBom.chainResult (document : AttestedBom) : Option (Except String String) :=
  match (document.attestation.get "certChain").bind Value.asArray with
  | none => none
  | some [] => none
  | some certs =>
    some (verifyCertChain platform ((certs.mapM AttestationCert.fromValue).getD [])
      (textOr "" "publicKey" document.attestation))

/-- The lines of `qw verify-attestation`. -/
structure AttestationReport where
  attestationType : String
  algorithm : String
  signer : String
  measurements : String
  digestMatches : Bool
  signatureValid : Bool
  chain : Option (Except String String)

def AttestationReport.verified (report : AttestationReport) : Bool :=
  report.digestMatches && report.signatureValid &&
    match report.chain with
    | some (.error _) => false
    | _ => true

def AttestedBom.report (document : AttestedBom) : AttestationReport where
  attestationType := document.quote.attestationType
  algorithm := textOr "?" "algorithm" document.attestation
  signer := textOr "?" "signerFingerprint" document.attestation
  measurements := measureStr document.quote.measurements
  digestMatches :=
    sha3_256Hex platform (canonicalBytes platform document.bom) = document.quote.bomDigest
  signatureValid :=
    verify platform document.publicKey (utf8 document.quote.payload) document.signature = .ok true
  chain := document.chainResult platform

def loadAttested (content : List Char) : Except CommandError AttestedBom :=
  match readDocument platform content with
  | none => .error .json
  | some cbom => readAttested cbom

def verifyAttestation (content : List Char) : Except CommandError AttestationReport :=
  (loadAttested platform content).map (AttestedBom.report platform)

variable {platform}

structure Readable (platform : Platform) (value : Value) : Prop where
  finite : value.FiniteNumbers
  unique : value.UniqueKeys
  nested : value.height ≤ nestingLimit
  readsBack : value.readBack platform.floats = value

theorem readDocument_of_readable (lawful : platform.floats.Lawful) {value : Value}
    (readable : Readable platform value) :
    readDocument platform (value.print platform.floats) = some value := by
  have read := readDocument_print lawful readable.finite readable.unique readable.nested
    numberEnd_nil rfl
  rwa [List.append_nil, readable.readsBack] at read

theorem readable_measurement (measurement : Measurement) :
    measurement.toValue.FiniteNumbers ∧ measurement.toValue.UniqueKeys ∧
      measurement.toValue.height ≤ 1 := by
  simp [Measurement.toValue, Value.FiniteNumbers, Value.FiniteFields, Value.UniqueKeys,
    Value.UniqueKeysFields, Value.height, Value.heightFields]

theorem readable_cert (cert : AttestationCert) :
    cert.toValue.FiniteNumbers ∧ cert.toValue.UniqueKeys ∧ cert.toValue.height ≤ 1 := by
  simp [AttestationCert.toValue, Value.FiniteNumbers, Value.FiniteFields, Value.UniqueKeys,
    Value.UniqueKeysFields, Value.height, Value.heightFields]

theorem height_measurements (measurements : List Measurement) :
    Value.heightElements (measurements.map Measurement.toValue) ≤ 1 := by
  apply Value.heightElements_le_iff.mpr
  simp [readable_measurement]

theorem height_certs (chain : List AttestationCert) :
    Value.heightElements (chain.map AttestationCert.toValue) ≤ 1 := by
  apply Value.heightElements_le_iff.mpr
  simp [readable_cert]

theorem height_attestation (attestation : Attestation) :
    (attestation.toValue platform).height ≤ 3 := by
  have measurements := height_measurements attestation.measurements
  have certs := height_certs attestation.certChain
  unfold Attestation.toValue
  split_ifs <;> simp [Value.height, Value.heightFields] <;> omega

theorem readable_attestation (attestation : Attestation) :
    Readable platform (attestation.toValue platform) where
  finite := by
    unfold Attestation.toValue
    split_ifs <;> simp [Value.FiniteNumbers, Value.FiniteFields, Value.finiteElements_iff,
      readable_measurement, readable_cert]
  unique := by
    unfold Attestation.toValue
    split_ifs <;> simp [Value.UniqueKeys, Value.UniqueKeysFields, Value.uniqueKeysElements_iff,
      readable_measurement, readable_cert]
  nested := (height_attestation attestation).trans (by decide)
  readsBack := by
    have measurement (one : Measurement) :
        one.toValue.readBack platform.floats = one.toValue := rfl
    have cert (one : AttestationCert) :
        one.toValue.readBack platform.floats = one.toValue := rfl
    unfold Attestation.toValue
    split_ifs <;> simp [Value.readBack, Value.readBackFields, Value.readBackElements_eq_map,
      measurement, cert, Function.comp_def]

def attestedBom (platform : Platform) (fields : Fields) (attestation : Attestation) : Value :=
  .object (fields ++ [(attestationKey, attestation.toValue platform)])

variable {fields : Fields} {body : Value}

theorem readable_attestedBom (readable : Readable platform (.object fields))
    (fresh : attestationKey ∉ fields.map Prod.fst) (attestation : Attestation) :
    Readable platform (attestedBom platform fields attestation) where
  finite := by
    have finite := readable.finite
    simp only [attestedBom, Value.FiniteNumbers, Value.finiteFields_iff, List.forall_mem_append,
      List.forall_mem_singleton] at finite ⊢
    exact ⟨finite, (readable_attestation attestation).finite⟩
  unique := by
    have unique := readable.unique
    simp only [attestedBom, Value.UniqueKeys, Value.uniqueKeysFields_iff, List.forall_mem_append,
      List.forall_mem_singleton, List.map_append, List.map_cons, List.map_nil] at unique ⊢
    exact ⟨List.Nodup.append unique.1 (List.nodup_singleton _) (by simpa using fresh),
      unique.2, (readable_attestation attestation).unique⟩
  nested := by
    have nested : Value.heightFields fields ≤ 126 := by
      have nested := readable.nested
      simp only [Value.height, nestingLimit] at nested
      omega
    have height : (attestation.toValue platform).height ≤ 3 := height_attestation attestation
    have appended : Value.heightFields
        (fields ++ [(attestationKey, attestation.toValue platform)]) ≤ 126 := by
      simp only [Value.heightFields_le_iff, List.forall_mem_append,
        List.forall_mem_singleton] at nested ⊢
      exact ⟨nested, by omega⟩
    simp only [attestedBom, Value.height, nestingLimit]
    omega
  readsBack := by
    have readsBack := readable.readsBack
    simp only [attestedBom, Value.readBack, Value.readBackFields_eq_map, Value.object.injEq,
      List.map_append, List.map_cons, List.map_nil, Prod.map_apply, id] at readsBack ⊢
    rw [readsBack, (readable_attestation attestation).readsBack]

theorem removeField_last (key : String) (value : Value) :
    removeField key (fields ++ [(key, value)]) = fields := by
  simp [removeField]

theorem lookup_last {key : String} (value : Value) (fresh : key ∉ fields.map Prod.fst) :
    (fields ++ [(key, value)]).lookup key = some value := by
  induction fields with
  | nil => simp
  | cons field fields ih =>
    simp only [List.map_cons, List.mem_cons, not_or] at fresh
    have other : (key == field.1) = false := by simpa using fresh.1
    simp [List.lookup, other, ih fresh.2]

def documentOf (platform : Platform) (fields : Fields) (attestation : Attestation)
    (publicKey signature : Bytes) : AttestedBom :=
  ⟨.object fields, attestation.toValue platform, publicKey, signature⟩

section

variable {fields : Fields} {attestation : Attestation} {publicKey signature : Bytes}

theorem loadAttested_attestedBom (lawful : platform.floats.Lawful)
    (readable : Readable platform (.object fields)) (fresh : attestationKey ∉ fields.map Prod.fst)
    (isKey : hexDecode attestation.publicKey = some publicKey)
    (isSignature : hexDecode attestation.signature = some signature) :
    loadAttested platform ((attestedBom platform fields attestation).print platform.floats) =
      .ok (documentOf platform fields attestation publicKey signature) := by
  have keyText : textOr "" "publicKey" (attestation.toValue platform) = attestation.publicKey :=
    rfl
  have signatureText :
      textOr "" "signature" (attestation.toValue platform) = attestation.signature := rfl
  have document := readDocument_of_readable lawful
    (readable_attestedBom readable fresh attestation)
  simp only [loadAttested, document]
  simp only [attestedBom, readAttested, lookup_last _ fresh, removeField_last, Option.elim_some,
    bind, Except.bind, keyText, signatureText, decodeOr, isKey, isSignature]
  rfl

theorem quote_documentOf :
    (documentOf platform fields attestation publicKey signature).quote = attestation.quote := by
  have measurements : readMeasurements (attestation.toValue platform) =
      attestation.measurements := by
    have list : (attestation.toValue platform).get "measurements" =
        some (.array (attestation.measurements.map Measurement.toValue)) := rfl
    have one (measurement : Measurement) : (⟨textOr "" "name" measurement.toValue,
        textOr "" "value" measurement.toValue⟩ : Measurement) = measurement := rfl
    simp [readMeasurements, list, one, Function.comp_def]
  unfold AttestedBom.quote documentOf
  rw [measurements]
  rfl

theorem chainResult_documentOf :
    (documentOf platform fields attestation publicKey signature).chainResult platform =
      if attestation.certChain = [] then none
      else some (verifyCertChain platform attestation.certChain attestation.publicKey) := by
  have keyText : textOr "" "publicKey" (attestation.toValue platform) = attestation.publicKey :=
    rfl
  unfold AttestedBom.chainResult documentOf
  simp only [keyText]
  split_ifs with empty
  · have absent : (attestation.toValue platform).get "certChain" = none := by
      simp only [Attestation.toValue, empty, if_true]
      rfl
    simp [absent]
  · have present : (attestation.toValue platform).get "certChain" =
        some (.array (attestation.certChain.map AttestationCert.toValue)) := by
      simp only [Attestation.toValue, empty, if_false]
      rfl
    have certs := mapM_fromValue_certs attestation.certChain
    obtain ⟨cert, chain, isCons⟩ := List.exists_cons_of_ne_nil empty
    rw [isCons, List.map_cons] at present certs
    simp only [present, Option.bind_some, Value.asArray_array, certs, Option.getD_some, isCons]

theorem verified_report_iff {document : AttestedBom} : (document.report platform).verified = true ↔
      sha3_256Hex platform (canonicalBytes platform document.bom) = document.quote.bomDigest ∧
      verify platform document.publicKey (utf8 document.quote.payload) document.signature =
        .ok true ∧
      ∀ reason, document.chainResult platform ≠ some (.error reason) := by
  cases chain : document.chainResult platform with
  | none => simp [AttestationReport.verified, AttestedBom.report, chain]
  | some result =>
    cases result <;> simp [AttestationReport.verified, AttestedBom.report, chain]

end

/-- The answer to `GET /api/cbom`: the inventory with a quote of the configured attestor. -/
def getCbom (platform : Platform) (fields : Fields) (provider : String)
    (identity ak root : GatewayIdentity) (version nonce : String) (now : DateTime) : List Char :=
  (attestedBom platform fields (attest platform (buildAttestor platform provider identity ak root)
    (sha3_256Hex platform (identity.publicKeyBytes platform)) version nonce now
    (.object fields))).print platform.floats

/-- The signature block of `build_pack`. -/
def signatureBlock (platform : Platform) (identity : GatewayIdentity) (body : Value) : Value :=
  let digest := sha3_256Hex platform (canonicalBytes platform body)
  .object [("algorithm", .string "ML-DSA-65"), ("digestAlgorithm", .string "SHA3-256"),
    ("digest", .string digest),
    ("value", .string (hexEncode (identity.sign platform (utf8 digest)))),
    ("publicKey", .string (hexEncode (identity.publicKeyBytes platform))),
    ("note", .string
      "Verify: ML-DSA-65 verify(publicKey, signature, SHA3-256(canonical evidencePack)).")]

def signPack (platform : Platform) (identity : GatewayIdentity) (body : Value) : Value :=
  .object [("evidencePack", body), ("signature", signatureBlock platform identity body)]

def packOf (platform : Platform) (identity : GatewayIdentity) (body : Value) : EvidencePack :=
  ⟨body, signatureBlock platform identity body, identity.publicKeyBytes platform,
    identity.sign platform (utf8 (sha3_256Hex platform (canonicalBytes platform body)))⟩

theorem readable_signPack (identity : GatewayIdentity) (readable : Readable platform body)
    (nested : body.height < nestingLimit) :
    Readable platform (signPack platform identity body) where
  finite := by
    simpa [signPack, signatureBlock, Value.FiniteNumbers, Value.FiniteFields]
      using readable.finite
  unique := by
    simpa [signPack, signatureBlock, Value.UniqueKeys, Value.UniqueKeysFields]
      using readable.unique
  nested := by
    simp only [nestingLimit] at nested
    simp only [signPack, signatureBlock, Value.height, Value.heightFields, nestingLimit]
    omega
  readsBack := by
    simp [signPack, signatureBlock, Value.readBack, Value.readBackFields, readable.readsBack]

theorem loadEvidence_signPack (lawful : platform.floats.Lawful) (identity : GatewayIdentity)
    (readable : Readable platform body) (nested : body.height < nestingLimit) :
    loadEvidence platform ((signPack platform identity body).print platform.floats) =
      .ok (packOf platform identity body) := by
  have document := readDocument_of_readable lawful (readable_signPack identity readable nested)
  have bodyField : (signPack platform identity body).get "evidencePack" = some body := rfl
  have blockField : (signPack platform identity body).get "signature" =
      some (signatureBlock platform identity body) := rfl
  have keyText : textOr "" "publicKey" (signatureBlock platform identity body) =
      hexEncode (identity.publicKeyBytes platform) := rfl
  have valueText : textOr "" "value" (signatureBlock platform identity body) =
      hexEncode (identity.sign platform
        (utf8 (sha3_256Hex platform (canonicalBytes platform body)))) := rfl
  simp only [loadEvidence, document]
  simp only [readEvidence, bodyField, blockField, keyText, valueText, decodeOr,
    hexDecode_hexEncode, Option.elim_some, bind, Except.bind]
  rfl

theorem verified_packOf (lawful : platform.Lawful) (identity : GatewayIdentity) (body : Value) :
    ((packOf platform identity body).report platform).verified = true := by
  have digestText : textOr "" "digest" (signatureBlock platform identity body) =
      sha3_256Hex platform (canonicalBytes platform body) := rfl
  simp [EvidenceReport.verified, EvidencePack.report, EvidencePack.digest, packOf, digestText,
    verify_sign lawful]

def Shows (platform : Platform) (quote : Quote) (signature : Bytes) : Prop :=
  ∃ content document, loadAttested platform content = .ok document ∧
    (document.report platform).verified = true ∧ document.quote = quote ∧
    document.signature = signature

def OneMessage (platform : Platform) (signature left right : Bytes) : Prop :=
  ∀ leftKey rightKey, verify platform leftKey left signature = .ok true →
    verify platform rightKey right signature = .ok true → left = right

theorem Shows.verifies {quote : Quote} {signature : Bytes}
    (accepted : Shows platform quote signature) :
    ∃ key, verify platform key (utf8 quote.payload) signature = .ok true := by
  rcases accepted with ⟨content, document, _, verified, rfl, rfl⟩
  exact ⟨document.publicKey, (verified_report_iff.mp verified).2.1⟩

/-- Two attestations with one payload, or accepted with one signature, are the same exactly
when they have the same type and their parts have the same lengths. Neither is signed. -/
theorem quote_eq_iff_layout {left right : Quote}
    (together : left.payload = right.payload ∨
      ∃ signature, Shows platform left signature ∧ Shows platform right signature ∧
        OneMessage platform signature (utf8 left.payload) (utf8 right.payload)) :
    left = right ↔ left.attestationType = right.attestationType ∧ left.layout = right.layout := by
  rcases together with same | ⟨signature, leftShown, rightShown, oneMessage⟩
  · exact Quote.eq_iff_layout same
  · rcases leftShown.verifies with ⟨leftKey, leftVerifies⟩
    rcases rightShown.verifies with ⟨rightKey, rightVerifies⟩
    have same := utf8_injective (oneMessage leftKey rightKey leftVerifies rightVerifies)
    exact Quote.eq_iff_layout same

end

namespace SampleQuote

def bomFields : Fields := [("bomFormat", .string "CycloneDX")]

def fingerprint : String :=
  sha3_256Hex samplePlatform (sampleIdentity.publicKeyBytes samplePlatform)

def attestation : Attestation :=
  attest samplePlatform (softwareAttestor samplePlatform sampleIdentity) fingerprint "0.1.0"
    "nonce" ⟨0⟩ (.object bomFields)

theorem bomDigest_attestation : attestation.bomDigest =
    sha3_256Hex samplePlatform (canonicalBytes samplePlatform (.object bomFields)) := rfl

def signature : Bytes :=
  (softwareAttestor samplePlatform sampleIdentity).sign (utf8 attestation.quote.payload)

theorem signature_attestation : attestation.signature = hexEncode signature := by
  unfold signature attestation
  rw [signature_attest]

def merged : List Measurement → List Measurement
  | first :: second :: rest =>
    [⟨first.name, first.value ++ ";" ++ measureStr (second :: rest)⟩]
  | short => short

theorem measureStr_merged (measurements : List Measurement) :
    measureStr (merged measurements) = measureStr measurements := by
  cases measurements with
  | nil => rfl
  | cons first rest =>
    cases rest with
    | nil => rfl
    | cons second rest =>
      simp [merged, measureStr, Measurement.text, String.intercalate_cons_cons,
        String.append_assoc]

def relabelled : Attestation :=
  { attestation with
    attestationType := "quantatpm-hardware"
    measurements := merged attestation.measurements }

theorem payload_relabelled : relabelled.quote.payload = attestation.quote.payload := by
  simp [Quote.payload, Attestation.quote, relabelled, measureStr_merged]

theorem readable_bom : Readable samplePlatform (.object bomFields) where
  finite := by simp [bomFields, Value.FiniteNumbers, Value.FiniteFields]
  unique := by simp [bomFields, Value.UniqueKeys, Value.UniqueKeysFields]
  nested := by decide
  readsBack := rfl

theorem shows_of_payload {other : Attestation}
    (payload : other.quote.payload = attestation.quote.payload)
    (digest : other.bomDigest = attestation.bomDigest)
    (key : other.publicKey = attestation.publicKey)
    (signed : other.signature = attestation.signature) (chain : other.certChain = []) :
    Shows samplePlatform other.quote signature := by
  have isKey : hexDecode other.publicKey =
      some (sampleIdentity.publicKeyBytes samplePlatform) := by
    rw [key]
    exact hexDecode_hexEncode _
  have isSignature : hexDecode other.signature = some signature := by
    rw [signed, signature_attestation, hexDecode_hexEncode]
  have loaded := loadAttested_attestedBom sampleFloats_lawful readable_bom (by decide) isKey
    isSignature
  refine ⟨_, _, loaded, verified_report_iff.mpr ⟨?_, ?_, ?_⟩, quote_documentOf, rfl⟩
  · rw [quote_documentOf]
    simp only [documentOf, Attestation.quote, digest, bomDigest_attestation]
  · rw [quote_documentOf, payload]
    exact verify_sign samplePlatform_lawful sampleIdentity _
  · simp [chainResult_documentOf, chain]

theorem shows_attestation : Shows samplePlatform attestation.quote signature :=
  shows_of_payload rfl rfl rfl rfl rfl

theorem shows_relabelled : Shows samplePlatform relabelled.quote signature :=
  shows_of_payload payload_relabelled rfl rfl rfl rfl

theorem oneMessage_relabelled : OneMessage samplePlatform signature
    (utf8 attestation.quote.payload) (utf8 relabelled.quote.payload) := by
  intro _ _ _ _
  rw [payload_relabelled]

theorem relabelled_eq_iff :
    (Shows samplePlatform attestation.quote signature ∧
      Shows samplePlatform relabelled.quote signature) ∧
    (attestation.quote = relabelled.quote ↔
      attestation.quote.attestationType = relabelled.quote.attestationType ∧
        attestation.quote.layout = relabelled.quote.layout) :=
  ⟨⟨shows_attestation, shows_relabelled⟩, quote_eq_iff_layout
    (Or.inr ⟨signature, shows_attestation, shows_relabelled, oneMessage_relabelled⟩)⟩

theorem software_quote_shown_as_hardware :
    Shows samplePlatform attestation.quote signature ∧
      Shows samplePlatform relabelled.quote signature ∧
      attestation.quote.payload = relabelled.quote.payload ∧
      attestation.attestationType = "software-ml-dsa-65" ∧
      relabelled.attestationType = "quantatpm-hardware" ∧
      attestation.measurements.length = 3 ∧ relabelled.measurements.length = 1 :=
  ⟨shows_attestation, shows_relabelled, payload_relabelled.symm, rfl, rfl, rfl, rfl⟩

end SampleQuote

end QuantaWatch.Cli
