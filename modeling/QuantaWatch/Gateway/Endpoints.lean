import QuantaWatch.Gateway.Posture
import QuantaWatch.Lib.Text

/-!
The crypto inventory of hosts (`admin/endpoints_api.rs`).
-/

namespace QuantaWatch.Gateway

open Crypto Lib Lib.Encoding Lib.Text Scanner

structure Tpm where
  present : Bool
  version : Option String
  algorithms : List String

structure SecureBoot where
  enabled : Bool
  signatureAlgorithm : Option String

structure MeasuredBoot where
  present : Bool
  pcrBank : Option String

structure DiskEncryption where
  enabled : Bool
  kind : Option String
  cipher : Option String
  keyBits : Option UInt32

structure CryptoLib where
  name : String
  version : Option String

structure SshHostKey where
  keyType : String

structure CertInfo where
  subject : Option String
  signatureAlgorithm : Option String

structure EndpointReport where
  hostname : String
  tpm : Option Tpm
  secureBoot : Option SecureBoot
  measuredBoot : Option MeasuredBoot
  diskEncryption : Option DiskEncryption
  cryptoLibraries : List CryptoLib
  sshHostKeys : List SshHostKey
  certificates : List CertInfo

inductive ComponentCategory where
  | secureBoot
  | tpm
  | measuredBoot
  | diskEncryption
  | sshHostKey
  | certificate
  | cryptoLibrary
deriving DecidableEq

def ComponentCategory.label : ComponentCategory → String
  | secureBoot => "secure_boot"
  | tpm => "tpm"
  | measuredBoot => "measured_boot"
  | diskEncryption => "disk_encryption"
  | sshHostKey => "ssh_host_key"
  | certificate => "certificate"
  | cryptoLibrary => "crypto_library"

structure EndpointComponent where
  category : ComponentCategory
  name : String
  detail : String
  algorithm : Option String
  pqcStatus : PqcStatus
  severity : FindingSeverity

namespace EndpointReport

variable (casing : CaseMapping)

def bootComponent (boot : SecureBoot) : EndpointComponent :=
  if !boot.enabled then
    ⟨.secureBoot, "Secure Boot",
      "Secure Boot is disabled — the boot chain is unsigned and can be tampered with.",
      none, .classicalWeak, .high⟩
  else
    let algorithm := boot.signatureAlgorithm.getD "RSA-2048/SHA-256"
    ⟨.secureBoot, "Secure Boot",
      "Boot chain signed with " ++ algorithm ++ ". Classical signatures are forgeable by a " ++
        "quantum computer, and boot-signing keys can only be rotated by a firmware update — a " ++
        "slow, hardware-pinned migration.",
      algorithm, .classicalSecure, .high⟩

def tpmComponent (tpm : Tpm) : EndpointComponent :=
  if !tpm.present then
    ⟨.tpm, "TPM", "No TPM — no hardware root of trust for keys or attestation.", none, .unknown,
      .medium⟩
  else
    let algorithms :=
      if tpm.algorithms.isEmpty then "RSA-2048, ECC P-256" else ", ".intercalate tpm.algorithms
    ⟨.tpm, "TPM " ++ tpm.version.getD "2.0",
      "Hardware root of trust offers " ++ algorithms ++ ". TPMs implement only classical " ++
        "algorithms today; keys sealed to the TPM are quantum-vulnerable and cannot be re-keyed " ++
        "to PQC without new silicon.",
      algorithms, .classicalSecure, .medium⟩

def measuredBootComponent (boot : MeasuredBoot) : Option EndpointComponent :=
  if boot.present then
    let bank := boot.pcrBank.getD "SHA-256"
    if containsText (casing.toUppercase bank) "SHA-1" ||
        containsText (casing.toUppercase bank) "SHA1" then
      some
        ⟨.measuredBoot, "Measured Boot",
          "Measured boot uses the SHA-1 PCR bank — SHA-1 is broken; switch to the SHA-256 bank.",
          bank, .classicalWeak, .high⟩
    else
      some
        ⟨.measuredBoot, "Measured Boot", "Measured boot uses the " ++ bank ++ " PCR bank.", bank,
          .classicalSecure, .info⟩
  else none

def diskComponent (disk : DiskEncryption) : EndpointComponent :=
  if !disk.enabled then
    ⟨.diskEncryption, "Disk encryption",
      "Disk is not encrypted — data at rest is exposed if the device is lost or seized.",
      none, .classicalWeak, .high⟩
  else
    let cipher := disk.cipher.getD "AES-256-XTS"
    let bits := disk.keyBits.getD 256
    let kind := disk.kind.getD ""
    if bits ≥ 256 then
      ⟨.diskEncryption, "Disk encryption",
        kind ++ " with " ++ cipher ++ ". AES-256 is symmetric — Grover only halves its " ++
          "strength, so it stays quantum-safe (~128-bit).",
        cipher, .classicalSecure, .info⟩
    else
      ⟨.diskEncryption, "Disk encryption",
        kind ++ " with " ++ cipher ++ " (" ++ toString bits ++ "-bit). Under Grover, an " ++
          toString bits ++ "-bit key drops to ~" ++ toString (bits / 2) ++
          "-bit — move to a 256-bit key.",
        cipher, .classicalSecure, .medium⟩

def hostKeyComponent (key : SshHostKey) : EndpointComponent :=
  let type := casing.toLowercase key.keyType
  let name := "SSH host key " ++ key.keyType
  if containsText type "ssh-rsa" || containsText type "ssh-dss" then
    ⟨.sshHostKey, name, "SHA-1 RSA / DSA host key — deprecated.", key.keyType, .classicalWeak,
      .medium⟩
  else if containsText type "ed25519" || containsText type "ecdsa" ||
      containsText type "rsa-sha2" then
    ⟨.sshHostKey, name, "Classical host key — no PQC host-key format ships yet.", key.keyType,
      .classicalSecure, .info⟩
  else
    ⟨.sshHostKey, name, "Unrecognized host key type.", key.keyType, .unknown, .low⟩

def certificateComponent (certificate : CertInfo) : EndpointComponent :=
  let signature := certificate.signatureAlgorithm.getD ""
  let lower := casing.toLowercase signature
  let rating : PqcStatus × FindingSeverity :=
    if containsText lower "ml-dsa" || containsText lower "dilithium" then (.pqcReady, .info)
    else if containsText lower "sha1" then (.classicalWeak, .medium)
    else if lower.isEmpty then (.unknown, .low)
    else (.classicalSecure, .info)
  ⟨.certificate, certificate.subject.getD "(certificate)",
    "Signature: " ++ (if signature.isEmpty then "unknown" else signature), signature, rating.1,
    rating.2⟩

def libraryComponent (library : CryptoLib) : EndpointComponent :=
  let version := library.version.getD ""
  ⟨.cryptoLibrary, library.name,
    "version " ++ (if version.isEmpty then "unknown" else version), none, .unknown, .info⟩

def classify (report : EndpointReport) : List EndpointComponent :=
  (report.secureBoot.map bootComponent).toList ++
    (report.tpm.map tpmComponent).toList ++
    (report.measuredBoot.bind (measuredBootComponent casing)).toList ++
    (report.diskEncryption.map diskComponent).toList ++
    report.sshHostKeys.map (hostKeyComponent casing) ++
    report.certificates.map (certificateComponent casing) ++
    report.cryptoLibraries.map libraryComponent

end EndpointReport

/-- `endpoint/<hostname>` -/
def endpointPath (hostname : String) : String := "endpoint/" ++ hostname

def EndpointComponent.title (hostname : String) (component : EndpointComponent) : String :=
  component.category.label.map (fun char => if char = '_' then ' ' else char) ++ " on " ++
    hostname ++ ": " ++ component.name

def EndpointComponent.toFinding (hostname : String) (component : EndpointComponent)
    (discoveredAt : DateTime) : Finding where
  category := if component.pqcStatus = .classicalWeak then .weakAlgorithm else .missingPqc
  severity := component.severity
  title := component.title hostname
  description := component.detail
  asset :=
    { assetType := .protocolEndpoint
      algorithm := component.algorithm
      keyLength := none
      protocolVersion := none
      path := endpointPath hostname
      discoveredBy := "host-agent"
      discoveredAt }
  remediation :=
    some ("Track as a firmware/boot-chain migration item — plan a PQC-capable firmware/TPM " ++
      "refresh; symmetric (disk) crypto only needs a 256-bit key.")
  pqcStatus := component.pqcStatus
  metadata := [("category", component.category.label)]

def componentsToFindings (hostname : String) (seen : Nat → DateTime)
    (components : List EndpointComponent) : List Finding :=
  (components.filter fun component => component.severity ≠ .info).zipIdx.map fun entry =>
    entry.1.toFinding hostname (seen entry.2)

def pqcRank : PqcStatus → Nat
  | .classicalWeak => 0
  | .classicalSecure => 1
  | .unknown => 2
  | .hybrid => 3
  | .pqcReady => 4

def worstStatus (components : List EndpointComponent) : PqcStatus :=
  ((components.map EndpointComponent.pqcStatus).argmin pqcRank).getD .unknown

structure ReportDraw where
  endpointId : String
  fields : String
  targetId : String
  scanId : String
  seen : Nat → DateTime
  clock : Nat → DateTime
  content : Bytes
  now : DateTime

structure ReportReceipt where
  endpointId : String
  hostname : String
  pqcStatus : PqcStatus
  components : Nat
  findings : UInt32

inductive ReportReply where
  | unauthorized (error : String)
  | badRequest (error : String)
  | ok (receipt : ReportReceipt)

structure AgentRequest where
  /-- The header `x-qw-agent-token`. -/
  token : Option String
  body : Except String EndpointReport
  draw : ReportDraw

structure EndpointGateway where
  posture : PostureGateway
  casing : CaseMapping
  enrollToken : Option String

namespace EndpointGateway

variable (gateway : EndpointGateway)

def findingsOf (report : EndpointReport) (draw : ReportDraw) : List Finding :=
  componentsToFindings report.hostname draw.seen (report.classify gateway.casing)

def agentReport (report : EndpointReport) (draw : ReportDraw) : PostureGateway.AgentReport where
  hostname := report.hostname
  endpointId := draw.endpointId
  fields := draw.fields
  findings := gateway.findingsOf report draw
  targetId := draw.targetId
  scanId := draw.scanId
  clock := draw.clock
  content := draw.content
  now := draw.now

def admits (token : Option String) : Bool :=
  match gateway.enrollToken with
  | none => true
  | some expected =>
    let presented := token.getD ""
    !(presented.isEmpty || presented ≠ expected)

def accepted (request : AgentRequest) : Except ReportReply EndpointReport :=
  if !gateway.admits request.token then
    .error (.unauthorized "invalid or missing agent token")
  else
    match request.body with
    | .error error => .error (.badRequest ("invalid report: " ++ error))
    | .ok report =>
      if (trim report.hostname).isEmpty then .error (.badRequest "hostname is required")
      else .ok report

/-- `POST /api/endpoints/report` -/
def report (state : PostureState) (request : AgentRequest) : ReportReply × PostureState :=
  match gateway.accepted request with
  | .error reply => (reply, state)
  | .ok report =>
    let given := gateway.agentReport report request.draw
    let components := report.classify gateway.casing
    (.ok
      { endpointId := (gateway.posture.reportingEndpoint state given).id
        hostname := report.hostname
        pqcStatus := worstStatus components
        components := components.length
        findings := UInt32.ofNat given.findings.length },
      gateway.posture.report state given)

end EndpointGateway

end QuantaWatch.Gateway
