import QuantaWatch.Crypto.Sample
import QuantaWatch.Lib.Hex
import QuantaWatch.Lib.Text

/-!
Attestation quotes and the certificate chains of their keys
(`qw-cbom/src/model.rs`, `attest.rs`).
-/

namespace QuantaWatch.Cbom

open Crypto Lib.Encoding Lib.Hex

structure Measurement where
  name : String
  value : String

structure AttestationCert where
  role : String
  subjectFingerprint : String
  subjectPublicKey : String
  issuerFingerprint : String
  signature : String

namespace AttestationCert

def signedContent (cert : AttestationCert) : Bytes :=
  utf8 (cert.role ++ "|" ++ cert.subjectFingerprint ++ "|" ++ cert.subjectPublicKey)

end AttestationCert

variable (platform : Platform)

def certContent (role : String) (key : Bytes) : Bytes :=
  utf8 (role ++ "|" ++ sha3_256Hex platform key ++ "|" ++ hexEncode key)

/-- `issue_cert`: an issuer certifies a key in a role. Key pairs are given by their seeds. -/
def issueCert (role : String) (subject issuer : GatewayIdentity) : AttestationCert where
  role
  subjectFingerprint := sha3_256Hex platform (subject.publicKeyBytes platform)
  subjectPublicKey := hexEncode (subject.publicKeyBytes platform)
  issuerFingerprint := sha3_256Hex platform (issuer.publicKeyBytes platform)
  signature := hexEncode
    (issuer.sign platform (certContent platform role (subject.publicKeyBytes platform)))

theorem signedContent_issueCert (role : String) (subject issuer : GatewayIdentity) :
    (issueCert platform role subject issuer).signedContent =
      certContent platform role (subject.publicKeyBytes platform) := rfl

def checkSignature (index : Nat) (cert : AttestationCert) (issuerPublicKey : String) :
    Except String Unit :=
  match hexDecode issuerPublicKey with
  | none => .error ("cert " ++ toString index ++ ": bad issuer public key hex")
  | some issuer =>
    match hexDecode cert.signature with
    | none => .error ("cert " ++ toString index ++ ": bad signature hex")
    | some signature =>
      if verify platform issuer cert.signedContent signature = .ok true then .ok ()
      else .error
        ("cert " ++ toString index ++ ": signature does not verify under the issuer key")

def checkCert (index : Nat) (cert : AttestationCert) (above : Option AttestationCert) :
    Except String Unit :=
  match hexDecode cert.subjectPublicKey with
  | none => .error ("cert " ++ toString index ++ ": bad subject public key hex")
  | some subject =>
    if sha3_256Hex platform subject ≠ cert.subjectFingerprint then
      .error ("cert " ++ toString index ++ ": subject fingerprint does not match subject key")
    else
      match above with
      | some parent =>
        if parent.subjectFingerprint ≠ cert.issuerFingerprint then
          .error ("cert " ++ toString index ++
            ": issuer fingerprint does not match the parent's subject")
        else checkSignature platform index cert parent.subjectPublicKey
      | none =>
        if cert.issuerFingerprint ≠ cert.subjectFingerprint then
          .error "root certificate is not self-signed"
        else checkSignature platform index cert cert.subjectPublicKey

def checkCerts : Nat → List AttestationCert → Except String Unit
  | _, [] => .ok ()
  | index, [top] => checkCert platform index top none
  | index, cert :: parent :: rest =>
    match checkCert platform index cert (some parent) with
    | .error reason => .error reason
    | .ok () => checkCerts (index + 1) (parent :: rest)

/-- `verify_cert_chain`: the fingerprint of the root, or the first broken link. -/
def verifyCertChain (chain : List AttestationCert) (akPublicKey : String) : Except String String :=
  match chain with
  | [] => .error "empty certificate chain"
  | leaf :: rest =>
    if leaf.subjectPublicKey ≠ akPublicKey then
      .error "leaf certificate does not certify the quote-signing key"
    else
      match checkCerts platform 0 (leaf :: rest) with
      | .error reason => .error reason
      | .ok () => .ok ((leaf :: rest).getLast (List.cons_ne_nil _ _)).subjectFingerprint

structure CertifiedBy (cert : AttestationCert) (subject issuer : Bytes) : Prop where
  subjectDecodes : hexDecode cert.subjectPublicKey = some subject
  fingerprint : sha3_256Hex platform subject = cert.subjectFingerprint
  verifies : ∃ signature, hexDecode cert.signature = some signature ∧
    verify platform issuer cert.signedContent signature = .ok true

variable {platform} {index : Nat} {cert parent : AttestationCert}

theorem verifies_of_checkSignature {issuerPublicKey : String}
    (checks : checkSignature platform index cert issuerPublicKey = .ok ()) :
    ∃ issuer, hexDecode issuerPublicKey = some issuer ∧
      ∃ signature, hexDecode cert.signature = some signature ∧
        verify platform issuer cert.signedContent signature = .ok true := by
  unfold checkSignature at checks
  cases isIssuer : hexDecode issuerPublicKey with
  | none => simp [isIssuer] at checks
  | some issuer =>
    cases isSignature : hexDecode cert.signature with
    | none => simp [isIssuer, isSignature] at checks
    | some signature =>
      simp only [isIssuer, isSignature] at checks
      split_ifs at checks with verifies
      exact ⟨issuer, rfl, signature, rfl, verifies⟩

theorem certified_of_checkCert (checks : checkCert platform index cert (some parent) = .ok ()) :
    ∃ subject issuer, hexDecode parent.subjectPublicKey = some issuer ∧
      CertifiedBy platform cert subject issuer := by
  unfold checkCert at checks
  cases isSubject : hexDecode cert.subjectPublicKey with
  | none => simp [isSubject] at checks
  | some subject =>
    simp only [isSubject] at checks
    split_ifs at checks with differs otherIssuer
    rcases verifies_of_checkSignature checks with ⟨issuer, isIssuer, verifies⟩
    exact ⟨subject, issuer, isIssuer, isSubject, not_not.mp differs, verifies⟩

theorem certified_of_checkCert_top (checks : checkCert platform index cert none = .ok ()) :
    ∃ subject, CertifiedBy platform cert subject subject := by
  unfold checkCert at checks
  cases isSubject : hexDecode cert.subjectPublicKey with
  | none => simp [isSubject] at checks
  | some subject =>
    simp only [isSubject] at checks
    split_ifs at checks with differs otherIssuer
    rcases verifies_of_checkSignature checks with ⟨issuer, isIssuer, verifies⟩
    rw [isSubject, Option.some.injEq] at isIssuer
    subst isIssuer
    exact ⟨subject, isSubject, not_not.mp differs, verifies⟩

variable {role : String} {subject issuer : GatewayIdentity}

theorem checkSignature_issueCert (lawful : platform.Lawful) :
    checkSignature platform index (issueCert platform role subject issuer)
      (hexEncode (issuer.publicKeyBytes platform)) = .ok () := by
  have verifies := verify_sign lawful issuer
    (certContent platform role (subject.publicKeyBytes platform))
  simp only [checkSignature, signedContent_issueCert]
  simp [issueCert, hexDecode_hexEncode, verifies]

theorem checkCert_issueCert (lawful : platform.Lawful)
    (isKey : parent.subjectPublicKey = hexEncode (issuer.publicKeyBytes platform)) (isFingerprint :
      parent.subjectFingerprint = sha3_256Hex platform (issuer.publicKeyBytes platform)) :
    checkCert platform index (issueCert platform role subject issuer) (some parent) = .ok () := by
  have signature : checkSignature platform index (issueCert platform role subject issuer)
      (hexEncode (issuer.publicKeyBytes platform)) = .ok () :=
    checkSignature_issueCert lawful
  unfold checkCert
  simp only [isKey, isFingerprint, signature]
  simp [issueCert, hexDecode_hexEncode]

theorem checkCert_issueCert_self (lawful : platform.Lawful) :
    checkCert platform index (issueCert platform role subject subject) none = .ok () := by
  have signature : checkSignature platform index (issueCert platform role subject subject)
      (issueCert platform role subject subject).subjectPublicKey = .ok () :=
    checkSignature_issueCert lawful
  unfold checkCert
  simp only [signature]
  simp [issueCert, hexDecode_hexEncode]

/-- The chain of `HardwareAttestor::synthetic`. -/
def syntheticChain (platform : Platform) (ak root : GatewayIdentity) : List AttestationCert :=
  [issueCert platform "ak" ak root, issueCert platform "root" root root]

theorem verifyCertChain_syntheticChain (lawful : platform.Lawful) (ak root : GatewayIdentity) :
    verifyCertChain platform (syntheticChain platform ak root)
        (hexEncode (ak.publicKeyBytes platform)) =
      .ok (sha3_256Hex platform (root.publicKeyBytes platform)) := by
  have leaf : checkCert platform 0 (issueCert platform "ak" ak root)
      (some (issueCert platform "root" root root)) = .ok () :=
    checkCert_issueCert lawful rfl rfl
  have top : checkCert platform 1 (issueCert platform "root" root root) none = .ok () :=
    checkCert_issueCert_self lawful
  simp only [verifyCertChain, syntheticChain, checkCerts, leaf, top]
  simp [issueCert]

end QuantaWatch.Cbom
