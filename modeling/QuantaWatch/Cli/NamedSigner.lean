import QuantaWatch.Cli.VerifyDocuments
import QuantaWatch.Pki.Issue

/-!
Who signed a document that a verifier reports as good.

`qw verify-evidence`, `qw verify-attestation` and `POST /api/pki/verify` check a
signature under the key that comes with the document. Each shows a signer, or stands
for one: the fingerprint in the pack, the fingerprint in the attestation, and the CA.
-/

namespace QuantaWatch.Cli

open Cbom Crypto Lib.Encoding Lib.Hex Lib.Json Pki

inductive Document where
  | evidence (content : List Char)
  | attestation (content : List Char)
  | certificate (request : VerifyRequest)

structure Taken where
  key : Bytes
  message : Bytes
  signature : Bytes
  Names : Bytes → Prop

variable (platform : Platform)

def EvidencePack.taken (pack : EvidencePack) : Taken where
  key := pack.publicKey
  message := utf8 (pack.digest platform)
  signature := pack.signature
  Names key := sha3_256Hex platform key = (pack.report platform).signer

def AttestedBom.taken (document : AttestedBom) : Taken where
  key := document.publicKey
  message := utf8 document.quote.payload
  signature := document.signature
  Names key := sha3_256Hex platform key = (document.report platform).signer

def Document.succeeds : Document → Bool
  | .evidence content =>
    match verifyEvidence platform content with
    | .ok report => report.verified
    | .error _ => false
  | .attestation content =>
    match verifyAttestation platform content with
    | .ok report => report.verified
    | .error _ => false
  | .certificate request => verifyBinding platform request

def Document.taken (ca : GatewayIdentity) : Document → Option Taken
  | .evidence content => (loadEvidence platform content).toOption.map (EvidencePack.taken platform)
  | .attestation content =>
    (loadAttested platform content).toOption.map (AttestedBom.taken platform)
  | .certificate request =>
    (request.decoded platform).map fun parts =>
      ⟨parts.2.1, parts.1, parts.2.2, fun key => key = ca.publicKeyBytes platform⟩

def Unforged (Signed : Bytes → Bytes → Prop) (taken : Taken) : Prop :=
  verify platform taken.key taken.message taken.signature = .ok true →
    Signed taken.key taken.message

def SignedByNamed (Signed : Bytes → Bytes → Prop) (taken : Taken) : Prop :=
  ∃ key, taken.Names key ∧ Signed key taken.message

variable {platform}

section Loaded

variable {ca : GatewayIdentity} {content : List Char} {pack : EvidencePack}
  {document : AttestedBom}

theorem Document.succeeds_evidence (loaded : loadEvidence platform content = .ok pack) :
    (Document.evidence content).succeeds platform = (pack.report platform).verified := by
  simp only [Document.succeeds, verifyEvidence, loaded, Except.map]

theorem Document.taken_evidence (loaded : loadEvidence platform content = .ok pack) :
    (Document.evidence content).taken platform ca = some (pack.taken platform) := by
  simp only [Document.taken, loaded, Except.toOption, Option.map_some]

variable (loaded : loadAttested platform content = .ok document)

include loaded

theorem Document.succeeds_attestation :
    (Document.attestation content).succeeds platform = (document.report platform).verified := by
  simp only [Document.succeeds, verifyAttestation, loaded, Except.map]

theorem Document.taken_attestation :
    (Document.attestation content).taken platform ca = some (document.taken platform) := by
  simp only [Document.taken, loaded, Except.toOption, Option.map_some]

end Loaded

theorem verifies_of_succeeds {ca : GatewayIdentity} {document : Document}
    (success : document.succeeds platform = true) :
    ∃ taken, document.taken platform ca = some taken ∧
      verify platform taken.key taken.message taken.signature = .ok true := by
  cases document with
  | evidence content =>
    cases loaded : loadEvidence platform content with
    | error reason => simp [Document.succeeds, verifyEvidence, loaded, Except.map] at success
    | ok pack =>
      rw [Document.succeeds_evidence loaded] at success
      simp only [EvidenceReport.verified, EvidencePack.report, Bool.and_eq_true,
        decide_eq_true_eq] at success
      exact ⟨pack.taken platform, Document.taken_evidence loaded, success.2⟩
  | attestation content =>
    cases loaded : loadAttested platform content with
    | error reason => simp [Document.succeeds, verifyAttestation, loaded, Except.map] at success
    | ok document =>
      rw [Document.succeeds_attestation loaded] at success
      exact ⟨document.taken platform, Document.taken_attestation loaded,
        (verified_report_iff.mp success).2.1⟩
  | certificate request =>
    simp only [Document.succeeds, verifyBinding] at success
    cases decoded : request.decoded platform with
    | none => simp [decoded] at success
    | some parts =>
      simp only [decoded, decide_eq_true_eq] at success
      exact ⟨_, by rw [Document.taken, decoded, Option.map_some], success⟩

theorem exists_signed_of_not_names {taken : Taken} (other : ¬ taken.Names taken.key) :
    ∃ Signed, Unforged platform Signed taken ∧ ¬ SignedByNamed Signed taken := by
  refine ⟨fun key message => key = taken.key ∧ message = taken.message,
    fun _ => ⟨rfl, rfl⟩, ?_⟩
  rintro ⟨key, names, rfl, _⟩
  exact other names

/-- A document that its verifier reports as good was signed by the signer that it names,
whatever else was signed, exactly when the key that comes with it is one that it names.
Nothing checks that. -/
theorem signedByNamed_iff {ca : GatewayIdentity} {document : Document}
    (success : document.succeeds platform = true) :
    ∃ taken, document.taken platform ca = some taken ∧
      ((∀ Signed, Unforged platform Signed taken → SignedByNamed Signed taken) ↔
        taken.Names taken.key) := by
  rcases verifies_of_succeeds success with ⟨taken, isTaken, verifies⟩
  refine ⟨taken, isTaken, ?_, ?_⟩
  · intro authentic
    by_contra other
    rcases exists_signed_of_not_names other with ⟨Signed, unforged, notNamed⟩
    exact notNamed (authentic Signed unforged)
  · intro names Signed unforged
    exact ⟨taken.key, names, unforged verifies⟩

namespace SampleSigner

def gatewayFingerprint : String :=
  sha3_256Hex samplePlatform (sampleIdentity.publicKeyBytes samplePlatform)

def packBody : Value := .object [("gatewayFingerprint", .string gatewayFingerprint)]

def evidenceBy (signer : GatewayIdentity) : Document :=
  .evidence ((signPack samplePlatform signer packBody).print samplePlatform.floats)

def attestationOf (signer : GatewayIdentity) : Attestation :=
  { attest samplePlatform (softwareAttestor samplePlatform signer) gatewayFingerprint "0.1.0"
      "nonce" ⟨0⟩ (.object SampleQuote.bomFields) with
    signerFingerprint := gatewayFingerprint }

def attestationBy (signer : GatewayIdentity) : Document :=
  .attestation ((attestedBom samplePlatform SampleQuote.bomFields
    (attestationOf signer)).print samplePlatform.floats)

def leafPem : String := "-----BEGIN CERTIFICATE-----\nleaf\n-----END CERTIFICATE-----\n"

def certificateBy (signer : GatewayIdentity) : Document :=
  .certificate (bindLeaf samplePlatform signer leafPem (utf8 "leaf"))

theorem readable_packBody : Readable samplePlatform packBody where
  finite := by simp [packBody, Value.FiniteNumbers, Value.FiniteFields]
  unique := by simp [packBody, Value.UniqueKeys, Value.UniqueKeysFields]
  nested := by simp [packBody, Value.height, Value.heightFields, nestingLimit]
  readsBack := rfl

theorem nested_packBody : packBody.height < nestingLimit := by
  simp [packBody, Value.height, Value.heightFields, nestingLimit]

variable (signer : GatewayIdentity)

theorem loaded_evidence :
    loadEvidence samplePlatform ((signPack samplePlatform signer packBody).print
      samplePlatform.floats) = .ok (packOf samplePlatform signer packBody) :=
  loadEvidence_signPack sampleFloats_lawful signer readable_packBody nested_packBody

theorem succeeds_evidenceBy : (evidenceBy signer).succeeds samplePlatform = true := by
  rw [evidenceBy, Document.succeeds_evidence (loaded_evidence signer),
    verified_packOf samplePlatform_lawful]

theorem taken_evidenceBy (ca : GatewayIdentity) : (evidenceBy signer).taken samplePlatform ca =
      some ((packOf samplePlatform signer packBody).taken samplePlatform) :=
  Document.taken_evidence (loaded_evidence signer)

def bomBy (signer : GatewayIdentity) : AttestedBom :=
  documentOf samplePlatform SampleQuote.bomFields (attestationOf signer)
    (signer.publicKeyBytes samplePlatform)
    (signer.sign samplePlatform (utf8 (attestationOf signer).quote.payload))

theorem loaded_attestation :
    loadAttested samplePlatform ((attestedBom samplePlatform SampleQuote.bomFields
      (attestationOf signer)).print samplePlatform.floats) = .ok (bomBy signer) := by
  have isKey : hexDecode (attestationOf signer).publicKey =
      some (signer.publicKeyBytes samplePlatform) := hexDecode_hexEncode _
  have isSignature : hexDecode (attestationOf signer).signature =
      some (signer.sign samplePlatform (utf8 (attestationOf signer).quote.payload)) :=
    hexDecode_hexEncode _
  exact loadAttested_attestedBom sampleFloats_lawful SampleQuote.readable_bom (by decide) isKey
    isSignature

theorem verified_bomBy : ((bomBy signer).report samplePlatform).verified = true := by
  refine verified_report_iff.mpr ⟨?_, ?_, ?_⟩
  · rw [bomBy, quote_documentOf]
    rfl
  · rw [bomBy, quote_documentOf]
    exact verify_sign samplePlatform_lawful signer _
  · have noChain : (attestationOf signer).certChain = [] := rfl
    simp [bomBy, chainResult_documentOf, noChain]

theorem succeeds_attestationBy : (attestationBy signer).succeeds samplePlatform = true := by
  rw [attestationBy, Document.succeeds_attestation (loaded_attestation signer), verified_bomBy]

theorem taken_attestationBy (ca : GatewayIdentity) :
    (attestationBy signer).taken samplePlatform ca =
      some ((bomBy signer).taken samplePlatform) :=
  Document.taken_attestation (loaded_attestation signer)

theorem pemToDer_leafPem : pemToDer samplePlatform leafPem = .ok (utf8 "leaf") := by
  decide +kernel

theorem succeeds_certificateBy : (certificateBy signer).succeeds samplePlatform = true := by
  rw [certificateBy, Document.succeeds, verifyBinding_bindLeaf samplePlatform_lawful
    pemToDer_leafPem]

theorem taken_certificateBy (ca : GatewayIdentity) :
    (certificateBy signer).taken samplePlatform ca =
      some ⟨signer.publicKeyBytes samplePlatform, utf8 "leaf",
        signer.sign samplePlatform (utf8 "leaf"),
        fun key => key = ca.publicKeyBytes samplePlatform⟩ := by
  rw [certificateBy, Document.taken, decoded_bindLeaf samplePlatform_lawful pemToDer_leafPem,
    Option.map_some]

def Authentic (document : Document) : Prop :=
  document.succeeds samplePlatform = true ∧
    ∃ taken, document.taken samplePlatform sampleIdentity = some taken ∧
      ∀ Signed, Unforged samplePlatform Signed taken → SignedByNamed Signed taken

def Unfounded (document : Document) : Prop :=
  document.succeeds samplePlatform = true ∧
    ∃ taken, document.taken samplePlatform sampleIdentity = some taken ∧
      ∃ Signed, Unforged samplePlatform Signed taken ∧ ¬ SignedByNamed Signed taken

theorem signedByNamed_of_gateway :
    Authentic (evidenceBy sampleIdentity) ∧ Authentic (attestationBy sampleIdentity) ∧
      Authentic (certificateBy sampleIdentity) := by
  have authentic {document : Document} {taken : Taken}
      (success : document.succeeds samplePlatform = true)
      (isTaken : document.taken samplePlatform sampleIdentity = some taken)
      (names : taken.Names taken.key) : Authentic document := by
    rcases @signedByNamed_iff samplePlatform sampleIdentity document success with
      ⟨same, isSame, iff⟩
    rw [isTaken, Option.some.injEq] at isSame
    subst isSame
    exact ⟨success, taken, isTaken, iff.mpr names⟩
  exact ⟨authentic (succeeds_evidenceBy _) (taken_evidenceBy _ _) rfl,
    authentic (succeeds_attestationBy _) (taken_attestationBy _ _) rfl,
    authentic (succeeds_certificateBy _) (taken_certificateBy _ _) rfl⟩

def rogueIdentity : GatewayIdentity := ⟨[9]⟩

theorem rogueKey_ne : rogueIdentity.publicKeyBytes samplePlatform ≠
    sampleIdentity.publicKeyBytes samplePlatform := by decide

theorem rogueFingerprint_ne :
    sha3_256Hex samplePlatform (rogueIdentity.publicKeyBytes samplePlatform) ≠
      gatewayFingerprint := by
  decide +kernel

theorem rogue_documents_succeed :
    Unfounded (evidenceBy rogueIdentity) ∧ Unfounded (attestationBy rogueIdentity) ∧
      Unfounded (certificateBy rogueIdentity) :=
  ⟨⟨succeeds_evidenceBy _, _, taken_evidenceBy _ _,
      exists_signed_of_not_names rogueFingerprint_ne⟩,
    ⟨succeeds_attestationBy _, _, taken_attestationBy _ _,
      exists_signed_of_not_names rogueFingerprint_ne⟩,
    ⟨succeeds_certificateBy _, _, taken_certificateBy _ _,
      exists_signed_of_not_names rogueKey_ne⟩⟩

end SampleSigner

end QuantaWatch.Cli
