import QuantaWatch.Lib.Collections
import QuantaWatch.Lib.Text
import QuantaWatch.Scanner.Types

/-!
Migration plans (`qw-cbom/src/remediation.rs`).
-/

namespace QuantaWatch.Cbom

open Lib Lib.Text Scanner

inductive MigrationStrategy where
  | replaceSignature
  | hybridKeyExchange
  | replaceSymmetric
  | strengthenSymmetric
  | replaceHash
  | encryptAtRest
  | rotateKey
  | upgradeLibrary
deriving DecidableEq

inductive MigrationPriority where
  | p0
  | p1
  | p2
deriving DecidableEq

def MigrationPriority.rank : MigrationPriority → Nat
  | p0 => 0
  | p1 => 1
  | p2 => 2

structure MigrationPatch where
  path : String
  kind : String
  before : String
  after : String
  note : String

structure MigrationPlan where
  findingId : String
  title : String
  currentAlgorithm : String
  targetAlgorithm : String
  strategy : MigrationStrategy
  priority : MigrationPriority
  rationale : String
  steps : List String
  effort : String
  patch : Option MigrationPatch
  confidence : Confidence
  evidence : List String
  status : FindingStatus

section Plans

variable (case : CaseMapping) (finding : FindingRecord)

def algorithmText : String := finding.algorithm.getD ""

def needsMigration : Bool :=
  if finding.status = .suppressed then false
  else if finding.pqcStatus = .pqcReady ∨ finding.pqcStatus = .hybrid then false
  else if finding.assetType = .dataStore ∨ finding.assetType = .encryptionKey then
    let lower := case.toLowercase (algorithmText finding)
    !(containsText lower "aes-256" || containsText lower "aes256")
  else true

def classifyMigration : MigrationStrategy × String :=
  let upper := case.toUppercase (algorithmText finding)
  let has (parts : List String) : Bool := parts.any (containsText upper)
  if has ["3DES", "DES", "RC4"] then (.replaceSymmetric, "AES-256-GCM")
  else if has ["MD5", "SHA1", "SHA-1"] then (.replaceHash, "SHA-384")
  else if has ["AES-128", "AES_128"] then (.strengthenSymmetric, "AES-256-GCM")
  else if finding.category = .hardcodedKey then (.rotateKey, "rotated key in KMS/HSM")
  else
    match finding.assetType with
    | .certificate => (.replaceSignature, "ML-DSA-65")
    | .signingKey => (.replaceSignature, "ML-DSA-65")
    | .tlsConnection => (.hybridKeyExchange, "X25519 + ML-KEM-768 (hybrid)")
    | .protocolEndpoint => (.hybridKeyExchange, "X25519 + ML-KEM-768 (hybrid)")
    | .cryptoLibrary => (.upgradeLibrary, "PQC-capable library")
    | .hashFunction => (.replaceHash, "SHA-384")
    | .encryptionKey => (.encryptAtRest, "AES-256-GCM")
    | .dataStore => (.encryptAtRest, "AES-256-GCM")

def isUnencrypted : Bool :=
  case.toLowercase (algorithmText finding) ∈ ["", "none", "off", "disabled", "plaintext", "false"]

def priorityOf (strategy : MigrationStrategy) : MigrationPriority :=
  if strategy = .encryptAtRest ∧ isUnencrypted case finding = true then .p0
  else if finding.pqcStatus = .classicalWeak ∨ finding.severity = .critical ∨
      strategy = .rotateKey ∨ strategy = .replaceSymmetric ∨ strategy = .replaceHash then .p0
  else if strategy = .encryptAtRest then .p2
  else if strategy = .strengthenSymmetric then .p2
  else if strategy = .replaceSignature ∨ strategy = .hybridKeyExchange ∨
      strategy = .upgradeLibrary then .p1
  else .p2

end Plans

def effortOf : MigrationStrategy → String
  | .replaceHash => "low"
  | .replaceSymmetric => "low"
  | .strengthenSymmetric => "low"
  | .rotateKey => "medium"
  | .upgradeLibrary => "medium"
  | .encryptAtRest => "medium"
  | .replaceSignature => "high"
  | .hybridKeyExchange => "high"

def isManifest (location : String) : Bool :=
  ["Cargo.toml", "package.json", "requirements.txt", "go.mod", "pom.xml"].any fun name =>
    name.toList <:+ location.toList

def cipherPatch (location algorithm target : String) : MigrationPatch where
  path := location
  kind := "cipher-suite"
  before := "# negotiated cipher: " ++ algorithm
  after := "# prefer " ++ target ++ " in the cipher-suite order, e.g.:\n" ++
    "#   ssl_ciphers TLS_AES_256_GCM_SHA384:TLS_CHACHA20_POLY1305_SHA256;"
  note := "Move the negotiated cipher from " ++ algorithm ++ " to " ++ target ++ "."

def buildPatch (finding : FindingRecord) (strategy : MigrationStrategy) (target : String) :
    Option MigrationPatch :=
  let location := finding.location
  let algorithm := finding.algorithm.getD "classical"
  match strategy with
  | .replaceSymmetric => some (cipherPatch location algorithm target)
  | .strengthenSymmetric => some (cipherPatch location algorithm target)
  | .replaceHash => some {
      path := location
      kind := "hash"
      before := "# digest: " ++ algorithm
      after := "# use " ++ target ++ " (or SHA3-256) and re-sign affected artifacts"
      note := algorithm ++ " is no longer collision-resistant; move to " ++ target ++ "." }
  | .encryptAtRest => some {
      path := location
      kind := "encryption-at-rest"
      before := "# encryption at rest: " ++ (if algorithm = "classical" then "none" else algorithm)
      after := "# enable AES-256 at rest, e.g.:\n" ++
        "#   storage: \x7b encryption: \x7b algorithm: AES-256-GCM, kms_key: <arn> \x7d \x7d\n" ++
        "# BitLocker: -EncryptionMethod XtsAes256 · LUKS: aes-xts-plain64 (512-bit)\n" ++
        "# AWS: SSE-KMS on S3/EBS/RDS · GCP/Azure: CMEK at rest"
      note := "Encrypt " ++ location ++ " at rest with " ++ target ++ "." }
  | .rotateKey => none
  | .upgradeLibrary =>
    if isManifest location then some {
      path := location
      kind := "dependency"
      before := "# quantum-vulnerable crypto dependency (" ++ algorithm ++ ")"
      after := "# add a PQC-capable provider, e.g. ml-dsa / ml-kem (RustCrypto),\n" ++
        "# liboqs bindings, or your platform's hybrid TLS stack"
      note := "Move signing/KEM usage from " ++ algorithm ++ " to " ++ target ++ "." }
    else none
  | .hybridKeyExchange => some {
      path := location
      kind := "tls-config"
      before := "# TLS key-exchange groups: classical only (e.g. x25519, secp256r1)"
      after := "# enable a hybrid PQC group first, e.g.:\n" ++
        "#   ssl_ecdh_curve X25519MLKEM768:X25519;   # nginx / OpenSSL 3.5+\n" ++
        "# or the equivalent for your terminator (Envoy, HAProxy, cloud LB)"
      note := "Negotiate " ++ target ++ " so captured traffic is not HNDL-exposed." }
  | .replaceSignature => some {
      path := location
      kind := "certificate"
      before := "# leaf/intermediate signed with " ++ algorithm
      after := "# reissue with " ++ target ++ "; run a hybrid chain during transition"
      note := "Coordinate with your CA / PKI for ML-DSA (or composite) issuance." }

def quantumRationale (current : String) : String :=
  current ++ " is quantum-vulnerable: an adversary can harvest traffic/artifacts now and " ++
    "decrypt or forge them once a cryptographically-relevant quantum computer exists. " ++
    "CNSA 2.0 requires PQC by 2030-2033."

def weakRationale (current : String) : String :=
  current ++ " is cryptographically weak by today's standards, independent of quantum risk."

def rationaleOf (strategy : MigrationStrategy) (unencrypted : Bool) (current : String) : String :=
  match strategy with
  | .replaceSignature => quantumRationale current
  | .hybridKeyExchange => quantumRationale current
  | .replaceSymmetric => weakRationale current
  | .replaceHash => weakRationale current
  | .encryptAtRest =>
    if unencrypted then
      "This data store holds data with no encryption at rest — it is readable by anyone with " ++
        "access to the disk, volume, snapshot or backup. Encrypt it at rest with AES-256-GCM " ++
        "(CNSA 2.0), which also keeps the data safe against Grover-accelerated brute force."
    else
      current ++ " at rest is below the CNSA 2.0 bar. Grover's algorithm halves symmetric " ++
        "strength, so re-encrypt this store with AES-256-GCM for data that must stay " ++
        "confidential into the quantum era."
  | .strengthenSymmetric =>
    current ++ " is not broken — this is CNSA 2.0 alignment. Grover's algorithm halves the " ++
      "effective strength of a symmetric key, so CNSA 2.0 mandates AES-256 for data that " ++
      "must stay confidential into the quantum era."
  | .rotateKey =>
    "Secret material is exposed in source; it must be rotated and moved to managed storage."
  | .upgradeLibrary =>
    "The crypto library exposes only quantum-vulnerable primitives (" ++ current ++
      "); adopt a PQC-capable provider."

def stepsOf : MigrationStrategy → List String
  | .hybridKeyExchange =>
    ["Enable a hybrid PQC key-exchange group (X25519 + ML-KEM-768) on the terminator.",
      "Roll out to a canary, confirm client compatibility, then make it the default.",
      "Re-scan to confirm the endpoint negotiates the hybrid group."]
  | .replaceSignature =>
    ["Provision an ML-DSA-65 (or composite) signing key via your PKI/KMS.",
      "Issue a hybrid/composite certificate chain and deploy alongside the classical one.",
      "Cut over verification to the PQC chain; retire the classical key."]
  | .upgradeLibrary =>
    ["Add a PQC-capable crypto dependency (ml-dsa / ml-kem, liboqs).",
      "Replace signing/KEM call sites; keep classical as a hybrid fallback.",
      "Add tests and re-scan the dependency manifest."]
  | .replaceSymmetric =>
    ["Replace the weak cipher with AES-256-GCM (or ChaCha20-Poly1305).",
      "Re-encrypt data at rest where applicable."]
  | .strengthenSymmetric =>
    ["Prefer AES-256 cipher suites ahead of AES-128 in the negotiation order.",
      "Confirm clients still negotiate successfully, then drop AES-128."]
  | .encryptAtRest =>
    ["Enable encryption at rest with AES-256 (AES-256-GCM, or AES-256-XTS for volumes/disks).",
      "Re-encrypt existing data and rotate the data-encryption key so nothing stays under the " ++
        "old state.",
      "Hold the key in a KMS/HSM, then re-scan to confirm the store reports AES-256."]
  | .replaceHash =>
    ["Replace the weak hash with SHA-384 or SHA3-256.", "Re-sign / re-hash affected artifacts."]
  | .rotateKey =>
    ["Revoke and rotate the exposed key immediately.",
      "Move the secret to a KMS/HSM and load it at runtime.",
      "Purge it from history and add a secret scanner to CI."]

def currentAlgorithm (case : CaseMapping) (finding : FindingRecord)
    (strategy : MigrationStrategy) : String :=
  if strategy = .encryptAtRest ∧ isUnencrypted case finding = true then "unencrypted"
  else
    (finding.algorithm.filter fun text => text ≠ "" && text ≠ "none").getD "classical/unknown"

def planMigration (case : CaseMapping) (finding : FindingRecord) : Option MigrationPlan :=
  if needsMigration case finding then
    let (strategy, target) := classifyMigration case finding
    let current := currentAlgorithm case finding strategy
    some {
      findingId := finding.id
      title := "Migrate " ++ current ++ " → " ++ target
      currentAlgorithm := current
      targetAlgorithm := target
      strategy
      priority := priorityOf case finding strategy
      rationale := rationaleOf strategy (isUnencrypted case finding) current
      steps := stepsOf strategy
      effort := effortOf strategy
      patch := buildPatch finding strategy target
      confidence := finding.confidence
      evidence := finding.evidence
      status := finding.status }
  else none

def planAll (case : CaseMapping) (findings : List FindingRecord) : List MigrationPlan :=
  Collections.sortOn (fun plan => plan.priority.rank) (findings.filterMap (planMigration case))

theorem planMigration_suppressed {case : CaseMapping} {finding : FindingRecord}
    (suppressed : finding.status = .suppressed) : planMigration case finding = none := by
  simp [planMigration, needsMigration, suppressed]

def NamesReplaced (case : CaseMapping) (finding : FindingRecord) : Prop :=
  ∃ part ∈ ["3DES", "DES", "RC4", "MD5", "SHA1", "SHA-1", "AES-128", "AES_128"],
    containsText (case.toUppercase (algorithmText finding)) part = true

def KeptAtRest (case : CaseMapping) (finding : FindingRecord) : Prop :=
  (finding.assetType = .dataStore ∨ finding.assetType = .encryptionKey) ∧
    ∃ part ∈ ["aes-256", "aes256"],
      containsText (case.toLowercase (algorithmText finding)) part = true

structure IsOpenSecret (finding : FindingRecord) : Prop where
  category : finding.category = .hardcodedKey
  status : finding.status ≠ .suppressed
  notReady : finding.pqcStatus ≠ .pqcReady
  notHybrid : finding.pqcStatus ≠ .hybrid

def RotatedFirst (case : CaseMapping) (findings : List FindingRecord) (finding : FindingRecord) :
    Prop :=
  ∃ plan, planMigration case finding = some plan ∧ plan.strategy = .rotateKey ∧
    plan.priority = .p0 ∧ plan ∈ planAll case findings ∧
      ∀ front back, planAll case findings = front ++ plan :: back →
        ∀ other ∈ front, other.priority = .p0

section Secrets

variable {case : CaseMapping} {finding : FindingRecord}

theorem needsMigration_iff (secret : IsOpenSecret finding) :
    needsMigration case finding = true ↔ ¬ KeptAtRest case finding := by
  rw [needsMigration, if_neg secret.status,
    if_neg (not_or.mpr ⟨secret.notReady, secret.notHybrid⟩), KeptAtRest]
  split_ifs with atRest
  · simp [atRest]
  · simp [atRest]

theorem strategy_eq_rotateKey_iff (secret : IsOpenSecret finding) :
    (classifyMigration case finding).1 = .rotateKey ↔ ¬ NamesReplaced case finding := by
  unfold classifyMigration NamesReplaced
  dsimp only
  split_ifs with symmetric hash short
  · simp only [List.any_eq_true] at symmetric
    obtain ⟨part, member, contained⟩ := symmetric
    refine iff_of_false (fun same => nomatch same) (not_not.mpr ⟨part, ?_, contained⟩)
    exact List.mem_append_left ["MD5", "SHA1", "SHA-1", "AES-128", "AES_128"] member
  · simp only [List.any_eq_true] at hash
    obtain ⟨part, member, contained⟩ := hash
    refine iff_of_false (fun same => nomatch same) (not_not.mpr ⟨part, ?_, contained⟩)
    exact List.mem_append_right ["3DES", "DES", "RC4"]
      (List.mem_append_left ["AES-128", "AES_128"] member)
  · simp only [List.any_eq_true] at short
    obtain ⟨part, member, contained⟩ := short
    refine iff_of_false (fun same => nomatch same) (not_not.mpr ⟨part, ?_, contained⟩)
    exact List.mem_append_right ["3DES", "DES", "RC4", "MD5", "SHA1", "SHA-1"] member
  · refine iff_of_true rfl ?_
    rintro ⟨part, member, contained⟩
    simp only [List.any_eq_true, not_exists, not_and] at symmetric hash short
    rcases List.mem_append.mp (show part ∈ ["3DES", "DES", "RC4"] ++
        (["MD5", "SHA1", "SHA-1"] ++ ["AES-128", "AES_128"]) from member) with isPart | later
    · exact symmetric part isPart contained
    · rcases List.mem_append.mp later with isPart | isPart
      · exact hash part isPart contained
      · exact short part isPart contained
  · exact absurd secret.category ‹_›

theorem exists_planMigration (needed : needsMigration case finding = true) :
    ∃ plan, planMigration case finding = some plan ∧
      plan.strategy = (classifyMigration case finding).1 ∧
      plan.priority = priorityOf case finding (classifyMigration case finding).1 := by
  unfold planMigration
  rw [if_pos needed]
  exact ⟨_, rfl, rfl, rfl⟩

theorem priorityOf_rotateKey : priorityOf case finding .rotateKey = .p0 := by
  simp [priorityOf]

theorem priority_of_before {findings : List FindingRecord} {plan : MigrationPlan}
    {front back : List MigrationPlan} (urgent : plan.priority = .p0)
    (split : planAll case findings = front ++ plan :: back) :
    ∀ other ∈ front, other.priority = .p0 := by
  intro other isBefore
  have sorted := Collections.sortOn_sorted (fun plan : MigrationPlan => plan.priority.rank)
    (findings.filterMap (planMigration case))
  rw [planAll] at split
  rw [split, List.pairwise_append] at sorted
  have notAfter := sorted.2.2 other isBefore plan List.mem_cons_self
  rw [urgent] at notAfter
  cases isUrgent : other.priority with
  | p0 => rfl
  | p1 =>
    rw [isUrgent] at notAfter
    exact absurd notAfter (by decide)
  | p2 =>
    rw [isUrgent] at notAfter
    exact absurd notAfter (by decide)

/-- A hardcoded secret is an urgent rotation exactly if its algorithm is not named as one that
is replaced, and if it is no key or store under the name of AES-256. -/
theorem rotatedFirst_iff {findings : List FindingRecord} (member : finding ∈ findings)
    (secret : IsOpenSecret finding) :
    RotatedFirst case findings finding ↔
      ¬ NamesReplaced case finding ∧ ¬ KeptAtRest case finding := by
  rw [← needsMigration_iff secret, ← strategy_eq_rotateKey_iff secret]
  constructor
  · rintro ⟨plan, isPlan, rotates, -⟩
    unfold planMigration at isPlan
    split_ifs at isPlan with needed
    cases isPlan
    exact ⟨rotates, needed⟩
  · rintro ⟨rotates, needed⟩
    obtain ⟨plan, isPlan, strategy, priority⟩ := exists_planMigration needed
    rw [rotates] at strategy priority
    have urgent := priority.trans priorityOf_rotateKey
    refine ⟨plan, isPlan, strategy, urgent, ?_, fun front back => priority_of_before urgent⟩
    exact Collections.mem_sortOn.mpr (List.mem_filterMap.mpr ⟨finding, member, isPlan⟩)

end Secrets

def exposedKey (algorithm : Option String) : FindingRecord where
  id := "f1"
  scanId := "s1"
  category := .hardcodedKey
  severity := .high
  title := "Hardcoded key"
  description := ""
  assetType := .encryptionKey
  algorithm
  pqcStatus := .unknown
  location := "src/main.rs:7"
  remediation := none
  createdAt := ⟨0⟩
  confidence := .high
  evidence := []
  status := .opened
  note := none

theorem exposedKey_isOpenSecret (algorithm : Option String) : IsOpenSecret (exposedKey algorithm) :=
  ⟨rfl, (nomatch ·), (nomatch ·), (nomatch ·)⟩

/-- An exposed key comes before one that is only strengthened, which is listed first. -/
theorem rotatedFirst_unnamed : RotatedFirst asciiCase
    [{ exposedKey (some "AES-128-CBC") with id := "f2" }, exposedKey none] (exposedKey none) := by
  refine (rotatedFirst_iff (List.mem_cons_of_mem _ List.mem_cons_self)
    (exposedKey_isOpenSecret none)).mpr ⟨?_, ?_⟩
  · unfold NamesReplaced
    decide
  · unfold KeptAtRest
    decide

theorem not_rotatedFirst_aes128 :
    IsOpenSecret (exposedKey (some "AES-128-CBC")) ∧
      (planMigration asciiCase (exposedKey (some "AES-128-CBC"))).map (fun plan =>
        (plan.strategy, plan.priority)) = some (.strengthenSymmetric, .p2) ∧
      ¬ RotatedFirst asciiCase [exposedKey (some "AES-128-CBC")]
        (exposedKey (some "AES-128-CBC")) := by
  have planned : (planMigration asciiCase (exposedKey (some "AES-128-CBC"))).map (fun plan =>
      (plan.strategy, plan.priority)) = some (.strengthenSymmetric, .p2) := by decide
  refine ⟨exposedKey_isOpenSecret _, planned, ?_⟩
  rintro ⟨plan, isPlan, rotates, urgent, -⟩
  rw [isPlan, Option.map_some, rotates, urgent] at planned
  exact absurd planned (by decide)

end QuantaWatch.Cbom
