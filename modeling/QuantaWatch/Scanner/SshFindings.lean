import QuantaWatch.Scanner.CertificateStatus
import QuantaWatch.Scanner.SshKexInit

/-!
What the SSH scanner reports of a server: `evaluate`, `make_finding` and the classifiers of
`scanners/ssh.rs`.

The key exchange gets one finding, which says whether the server is ready for post-quantum
clients; each of the other families gets one with its weak algorithms, joined by commas. Of the
two directions only the lists from the client to the server are kept by `read_kexinit`.
-/

namespace QuantaWatch.Scanner

open Crypto Lib.Encoding Lib.Text

section Classifiers

variable (casing : CaseMapping)

def classifyKex (name : String) : PqcStatus :=
  let n := casing.toLowercase name
  if namesOne n ["sntrup761x25519", "mlkem768x25519", "mlkem768nistp256", "mlkem1024nistp384",
      "curve25519-frodokem", "ecdh-nistp256-kyber", "x25519-kyber", "kyber-512-x25519"] then .hybrid
  else if namesOne n ["mlkem", "sntrup", "kyber"] then .pqcReady
  else if namesOne n ["sha1", "group1-", "group-exchange-sha1"] then .classicalWeak
  else if namesOne n ["curve25519", "ecdh-sha2", "group14-sha256", "group16", "group18",
      "group-exchange-sha256"] then .classicalSecure
  else if containsText n "group14-sha1" then .classicalWeak
  else .unknown

def classifyHostKey (name : String) : PqcStatus :=
  let n := casing.toLowercase name
  if namesOne n ["ml-dsa", "dilithium", "sphincs"] then .pqcReady
  else if namesOne n ["ssh-rsa", "ssh-dss"] then .classicalWeak
  else if namesOne n ["ed25519", "ed448", "ecdsa-sha2", "rsa-sha2-256", "rsa-sha2-512"] then
    .classicalSecure
  else .unknown

def classifyCipher (name : String) : PqcStatus :=
  let n := casing.toLowercase name
  if namesOne n ["chacha20-poly1305", "aes256-gcm", "aes128-gcm", "aes256-ctr", "aes192-ctr",
      "aes128-ctr"] then .classicalSecure
  else if namesOne n ["3des", "arcfour", "blowfish", "cast128"] || n.endsWith "-cbc" ||
      namesOne n ["des-", "none"] then .classicalWeak
  else .unknown

def classifyMac (name : String) : PqcStatus :=
  let n := casing.toLowercase name
  if namesOne n ["md5", "sha1", "ripemd160", "-96"] then .classicalWeak
  else if namesOne n ["hmac-sha2-256", "hmac-sha2-512", "umac-128", "umac-64"] then
    .classicalSecure
  else .unknown

end Classifiers

section Evaluate

variable (casing : CaseMapping) (target : ScanTarget) (host serverIdent : String) (now : DateTime)

def makeFinding (category : FindingCategory) (severity : FindingSeverity)
    (title description family algorithm offered : String) (pqcStatus : PqcStatus)
    (remediation : Option String) : Finding where
  category
  severity
  title
  description
  asset :=
    { assetType := .protocolEndpoint
      algorithm := some algorithm
      keyLength := none
      protocolVersion := some "SSH-2.0"
      path := target.address
      discoveredBy := "ssh"
      discoveredAt := now }
  remediation
  pqcStatus
  metadata := [("family", family), ("offered", offered), ("server_ident", serverIdent)]

def isPostQuantum (status : PqcStatus) : Bool := status = .hybrid || status = .pqcReady

def kexFinding (k : KexInit) : Finding :=
  let offersPqc := k.kex.any fun name => isPostQuantum (classifyKex casing name)
  let preferred := k.kex.head?.getD ""
  let (status, severity, category, description) :=
    if offersPqc then
      if isPostQuantum (classifyKex casing preferred) then
        (PqcStatus.hybrid, FindingSeverity.info, FindingCategory.pqcReady,
          "SSH server prefers a post-quantum key exchange (" ++ preferred ++ ")")
      else
        (.hybrid, .low, .missingPqc,
          "SSH server supports a post-quantum key exchange but prefers classical " ++ preferred ++
            "; a legacy client will still negotiate a harvestable session")
    else
      (.classicalSecure, .high, .missingPqc,
        "SSH server offers no post-quantum key exchange (preferred: " ++ preferred ++
          "). Every session is exposed to harvest-now-decrypt-later.")
  makeFinding target serverIdent now category severity ("SSH key exchange on " ++ host)
    description "key_exchange" preferred (",".intercalate k.kex) status
    (if offersPqc then none
     else some ("Enable a hybrid PQC key exchange (e.g. sntrup761x25519-sha512 on OpenSSH 9+ " ++
       "or mlkem768x25519-sha256) and make it the preferred algorithm."))

def weakOf (classify : String → PqcStatus) (list : List String) : List String :=
  list.filter fun name => classify name = .classicalWeak

/-- One round of the loop over the other families. -/
def weakFinding (family : String) (classify : String → PqcStatus) (list : List String) :
    List Finding :=
  let weak := weakOf classify list
  if weak = [] then []
  else
    [makeFinding target serverIdent now .weakAlgorithm .medium
      ("Weak SSH " ++ family ++ " algorithms on " ++ host)
      ("SSH server still offers deprecated " ++ family ++ " algorithm(s): " ++
        ", ".intercalate weak)
      family (",".intercalate weak) (",".intercalate list) .classicalWeak
      (some ("Remove the legacy " ++ family ++
        " algorithm(s) from the server configuration."))]

def evaluate (k : KexInit) : List Finding :=
  kexFinding casing target host serverIdent now k ::
    (weakFinding target host serverIdent now "host_key" (classifyHostKey casing) k.hostKey ++
      weakFinding target host serverIdent now "cipher" (classifyCipher casing) k.ciphers ++
      weakFinding target host serverIdent now "mac" (classifyMac casing) k.macs)

end Evaluate

/-- The algorithm field of the finding is a list of names, and this is one of them. -/
def NamesAlgorithm (finding : Finding) (name : String) : Prop :=
  ∃ field, finding.asset.algorithm = some field ∧ name.toList ∈ field.toList.splitOn ','

def ReportedWeak (findings : List Finding) (name : String) : Prop :=
  ∃ finding ∈ findings, finding.pqcStatus = .classicalWeak ∧ NamesAlgorithm finding name

section Reports

variable {casing : CaseMapping} {target : ScanTarget} {host serverIdent : String} {now : DateTime}

/-- Names without commas can be told apart in the field they are joined to. -/
private theorem mem_splitOn_intercalate {names : List String} (plain : PlainNames names)
    (filled : names ≠ []) (name : String) :
    name.toList ∈ ([','].intercalate (names.map String.toList)).splitOn ',' ↔ name ∈ names := by
  have commas : ∀ part ∈ names.map String.toList, ',' ∉ part := by
    intro part member
    obtain ⟨one, isOne, rfl⟩ := List.mem_map.mp member
    exact (plain one isOne).2
  rw [List.splitOn_intercalate ',' commas (by simpa using filled),
    List.mem_map_of_injective fun _ _ => String.toList_inj.mp]

private theorem reportedWeak_weakFinding {family : String} {classify : String → PqcStatus}
    {list : List String} (plain : PlainNames list) (name : String) :
    ReportedWeak (weakFinding target host serverIdent now family classify list) name ↔
      name ∈ weakOf classify list := by
  have plainWeak : PlainNames (weakOf classify list) := fun one member =>
    plain one (List.mem_of_mem_filter member)
  by_cases empty : weakOf classify list = []
  · simp [ReportedWeak, weakFinding, empty]
  · simp [ReportedWeak, weakFinding, empty, NamesAlgorithm, makeFinding,
      mem_splitOn_intercalate plainWeak empty]

private theorem kexFinding_ne_weak (k : KexInit) :
    (kexFinding casing target host serverIdent now k).pqcStatus ≠ .classicalWeak := by
  unfold kexFinding makeFinding
  dsimp only
  split_ifs <;> simp

private theorem reportedWeak_evaluate {k : KexInit} (hostKeys : PlainNames k.hostKey)
    (ciphers : PlainNames k.ciphers) (macs : PlainNames k.macs) (name : String) :
    ReportedWeak (evaluate casing target host serverIdent now k) name ↔
      name ∈ weakOf (classifyHostKey casing) k.hostKey ∨
        name ∈ weakOf (classifyCipher casing) k.ciphers ∨
        name ∈ weakOf (classifyMac casing) k.macs := by
  have inHostKeys := @reportedWeak_weakFinding target host serverIdent now "host_key"
    (classifyHostKey casing) _ hostKeys name
  have inCiphers := @reportedWeak_weakFinding target host serverIdent now "cipher"
    (classifyCipher casing) _ ciphers name
  have inMacs := @reportedWeak_weakFinding target host serverIdent now "mac"
    (classifyMac casing) _ macs name
  rw [← inHostKeys, ← inCiphers, ← inMacs]
  simp only [ReportedWeak, evaluate, List.mem_cons, List.mem_append, or_and_right, exists_or,
    exists_eq_left, kexFinding_ne_weak, false_and, false_or, or_assoc]

end Reports

/-- Weak algorithms in every family and in both directions. -/
def legacyPacket : KexPacket :=
  { sampleKexPacket with
    lists := [["curve25519-sha256", "diffie-hellman-group1-sha1"], ["ssh-ed25519", "ssh-rsa"],
      ["aes256-ctr", "3des-cbc"], ["aes256-ctr", "arcfour"], ["hmac-sha2-256"],
      ["hmac-sha2-256", "hmac-md5"], ["none"], ["none"], [], []]
    tenLists := rfl }

private theorem legacy_small : legacyPacket.body.length ≤ maxPacket := by decide +kernel

private theorem legacy_plain : ∀ names ∈ legacyPacket.lists, PlainNames names := by
  unfold PlainNames
  decide

/-- The classifier of each of the six lists with the list, in the order of the packet. -/
def advertised (casing : CaseMapping) (packet : KexPacket) :
    List ((String → PqcStatus) × List String) :=
  [classifyKex casing, classifyHostKey casing, classifyCipher casing, classifyCipher casing,
    classifyMac casing, classifyMac casing].zip packet.lists

end QuantaWatch.Scanner
