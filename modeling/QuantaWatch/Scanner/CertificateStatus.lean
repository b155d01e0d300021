import QuantaWatch.Lib.Text
import QuantaWatch.Scanner.Types

/-!
The status of a certificate by its signature (`certinfo.rs`,
`scanners/certificate.rs`, `scanners/tls.rs`).
-/

namespace QuantaWatch.Scanner

open Lib.Text

def namesOne (text : String) (parts : List String) : Bool := parts.any (containsText text)

def rsaStatus (rsaBits : Option UInt32) : PqcStatus :=
  match rsaBits with
  | some bits => if bits < 2048 then .classicalWeak else .classicalSecure
  | none => .classicalSecure

/-- `classify_signature` of `certinfo.rs`. -/
def classifySignature (sigAlgLower : String) (rsaBits : Option UInt32) : PqcStatus :=
  if namesOne sigAlgLower ["ml-dsa", "dilithium"] then .pqcReady
  else if containsText sigAlgLower "ecdsa" || namesOne sigAlgLower ["ed25519", "ed448"] then
    .classicalSecure
  else if containsText sigAlgLower "rsa" then rsaStatus rsaBits
  else if containsText sigAlgLower "dsa" || containsText sigAlgLower "sha1" then .classicalWeak
  else .unknown

/-- `CertificateScanner::classify_signature`. -/
def CertificateScanner.classifySignature (sigAlg : String) (rsaBits : Option UInt32) : PqcStatus :=
  if namesOne sigAlg ["ml-dsa", "dilithium"] then .pqcReady
  else if containsText sigAlg "ecdsa" || containsText sigAlg "1.2.840.10045" then .classicalSecure
  else if containsText sigAlg "rsa" || containsText sigAlg "1.2.840.113549" then rsaStatus rsaBits
  else .unknown

/-- The status of a peer certificate in `findings_from_conn`, which reads no key size. -/
def certPqc (sigAlgLc : String) : PqcStatus :=
  if namesOne sigAlgLc ["ml-dsa", "dilithium"] then .pqcReady
  else if containsText sigAlgLc "ecdsa" || containsText sigAlgLc "rsa" ||
      namesOne sigAlgLc ["ed25519", "ed448"] || containsText sigAlgLc "dsa" then .classicalSecure
  else .unknown

/-- The names for which `classify` of the planner replaces a hash. -/
def namesBrokenHash (upper : String) : Bool := namesOne upper ["MD5", "SHA1", "SHA-1"]

def isShort (rsaBits : Option UInt32) : Bool := rsaBits.any (· < 2048)

theorem rsaStatus_eq (rsaBits : Option UInt32) :
    rsaStatus rsaBits = if isShort rsaBits then .classicalWeak else .classicalSecure := by
  cases rsaBits with
  | none => rfl
  | some bits => simp [rsaStatus, isShort]

def OneVerdict (casing : CaseMapping) (name : String) (rsaBits : Option UInt32) : Prop :=
  let lower := casing.toLowercase name
  CertificateScanner.classifySignature lower rsaBits = classifySignature lower rsaBits ∧
    certPqc lower = classifySignature lower rsaBits ∧
    (namesBrokenHash (casing.toUppercase name) = true →
      classifySignature lower rsaBits = .classicalWeak)

/-- The TLS path rates nothing as weak, so a broken hash never has one verdict. Without one, the
paths agree on post-quantum names, on ECDSA, on RSA that is not short, on Edwards curves whose
name also holds an object identifier, and on names that none of them knows. -/
theorem one_verdict_iff (casing : CaseMapping) (name : String) (rsaBits : Option UInt32) :
    OneVerdict casing name rsaBits ↔
      namesBrokenHash (casing.toUppercase name) = false ∧
        let has (part : String) : Bool := containsText (casing.toLowercase name) part
        let edwards := namesOne (casing.toLowercase name) ["ed25519", "ed448"]
        namesOne (casing.toLowercase name) ["ml-dsa", "dilithium"] = true ∨
          has "ecdsa" = true ∨
          edwards = true ∧
            (has "1.2.840.10045" = true ∨ has "1.2.840.113549" = true ∧ isShort rsaBits = false) ∨
          has "rsa" = true ∧ isShort rsaBits = false ∨
          edwards = false ∧ has "rsa" = false ∧ has "dsa" = false ∧ has "sha1" = false ∧
            has "1.2.840.10045" = false ∧ has "1.2.840.113549" = false := by
  simp only [OneVerdict, CertificateScanner.classifySignature, classifySignature, certPqc,
    rsaStatus_eq]
  -- Only the outcomes of the ten tests matter.
  generalize casing.toLowercase name = lower
  generalize namesBrokenHash (casing.toUppercase name) = broken
  generalize isShort rsaBits = short
  generalize namesOne lower ["ml-dsa", "dilithium"] = postQuantum
  generalize namesOne lower ["ed25519", "ed448"] = edwards
  generalize containsText lower "ecdsa" = ecdsa
  generalize containsText lower "rsa" = rsa
  generalize containsText lower "dsa" = dsa
  generalize containsText lower "sha1" = sha1
  generalize containsText lower "1.2.840.10045" = ecOid
  generalize containsText lower "1.2.840.113549" = rsaOid
  cases postQuantum with
  | true => cases broken <;> simp
  | false =>
    cases ecdsa with
    | true => cases broken <;> simp
    | false =>
      -- The paths still differ by the Edwards curves, by RSA and its size, and by bare DSA.
      cases edwards <;> cases rsa <;> cases short <;> cases broken <;>
        revert dsa sha1 ecOid rsaOid <;> decide

/-- The names that `resolve` gives for RSA with SHA-1, for Ed25519 and for a short RSA key. -/
theorem verdicts_differ :
    ¬ OneVerdict asciiCase "RSA-SHA1" (some 2048) ∧ ¬ OneVerdict asciiCase "Ed25519" none ∧
      ¬ OneVerdict asciiCase "RSA-SHA256" (some 1024) := by
  unfold OneVerdict
  decide +kernel

end QuantaWatch.Scanner
