import QuantaWatch.Cbom.Governance

/-!
Compliance with post-quantum frameworks, and what the migration roadmap of a report
accounts for (`qw-cbom/src/compliance.rs`).
-/

namespace QuantaWatch.Cbom

open Lib Lib.Binary64 Scanner

inductive ComplianceStatus where
  | compliant
  | atRisk
  | nonCompliant
  | notApplicable
deriving DecidableEq

inductive CryptoClass where
  | pqc
  | quantumVulnerable
  | weak
  | expiringCert
  | safeSymmetric
  | unknown
deriving DecidableEq

def cryptoClass (finding : FindingRecord) : CryptoClass :=
  match finding.category with
  | .expiredCertificate => .weak
  | .expiringCertificate => .expiringCert
  | _ =>
    match finding.pqcStatus with
    | .pqcReady => .pqc
    | .hybrid => .pqc
    | .classicalWeak => .weak
    | .classicalSecure =>
      match finding.assetType with
      | .hashFunction => .safeSymmetric
      | .dataStore => .safeSymmetric
      | _ => .quantumVulnerable
    | .unknown => .unknown

structure FrameworkDef where
  id : String
  name : String
  authority : String
  description : String

def frameworks : List FrameworkDef :=
  [⟨"cnsa-2.0", "CNSA 2.0", "NSA",
      "Commercial National Security Algorithm Suite 2.0 — mandates post-quantum key " ++
        "establishment (ML-KEM) and signatures (ML-DSA)."⟩,
    ⟨"nist-ir-8547", "NIST IR 8547", "NIST",
      "Transition to post-quantum standards — classical asymmetric crypto deprecated after " ++
        "2030, disallowed after 2035."⟩,
    ⟨"fips-203-204", "FIPS 203 / 204", "NIST",
      "Standardized post-quantum algorithms (ML-KEM, ML-DSA). Adoption demonstrates " ++
        "conformance to approved PQC."⟩]

def statusFor (kind : CryptoClass) (framework : String) : ComplianceStatus × Option Nat :=
  match framework, kind with
  | "cnsa-2.0", .pqc => (.compliant, none)
  | "cnsa-2.0", .safeSymmetric => (.compliant, none)
  | "cnsa-2.0", .quantumVulnerable => (.nonCompliant, some 2030)
  | "cnsa-2.0", .weak => (.nonCompliant, some 2025)
  | "cnsa-2.0", .expiringCert => (.atRisk, some 2025)
  | "cnsa-2.0", .unknown => (.atRisk, some 2030)
  | "nist-ir-8547", .pqc => (.compliant, none)
  | "nist-ir-8547", .safeSymmetric => (.compliant, none)
  | "nist-ir-8547", .quantumVulnerable => (.atRisk, some 2030)
  | "nist-ir-8547", .weak => (.nonCompliant, some 2025)
  | "nist-ir-8547", .expiringCert => (.atRisk, some 2025)
  | "nist-ir-8547", .unknown => (.atRisk, some 2035)
  | "fips-203-204", .pqc => (.compliant, none)
  | "fips-203-204", .safeSymmetric => (.compliant, none)
  | "fips-203-204", .quantumVulnerable => (.nonCompliant, some 2030)
  | "fips-203-204", .weak => (.nonCompliant, some 2025)
  | "fips-203-204", .expiringCert => (.notApplicable, none)
  | "fips-203-204", .unknown => (.atRisk, some 2030)
  | _, _ => (.notApplicable, none)

structure FrameworkSummary where
  id : String
  name : String
  authority : String
  description : String
  compliant : UInt32
  atRisk : UInt32
  nonCompliant : UInt32
  compliancePct : Double
  nearestDeadline : Option Nat

structure FrameworkTally where
  compliant : UInt32
  atRisk : UInt32
  nonCompliant : UInt32
  nearest : Option Nat

def FrameworkTally.sooner (tally : FrameworkTally) : Option Nat → Option Nat
  | some year => some (match tally.nearest with
      | some known => min known year
      | none => year)
  | none => tally.nearest

def FrameworkTally.count (tally : FrameworkTally) (status : ComplianceStatus × Option Nat) :
    FrameworkTally :=
  match status.1 with
  | .compliant => { tally with compliant := tally.compliant + 1 }
  | .atRisk => { tally with atRisk := tally.atRisk + 1, nearest := tally.sooner status.2 }
  | .nonCompliant =>
    { tally with nonCompliant := tally.nonCompliant + 1, nearest := tally.sooner status.2 }
  | .notApplicable => tally

def frameworkSummary (findings : List FindingRecord) (framework : FrameworkDef) :
    FrameworkSummary :=
  let tally : FrameworkTally := findings.foldl
    (fun (tally : FrameworkTally) finding =>
      tally.count (statusFor (cryptoClass finding) framework.id))
    ⟨0, 0, 0, none⟩
  { id := framework.id
    name := framework.name
    authority := framework.authority
    description := framework.description
    compliant := tally.compliant
    atRisk := tally.atRisk
    nonCompliant := tally.nonCompliant
    compliancePct := percent tally.compliant
      (tally.compliant + tally.atRisk + tally.nonCompliant)
    nearestDeadline := tally.nearest }

structure MigrationItem where
  id : String
  title : String
  priority : String
  currentState : String
  targetState : String
  deadlineYear : Nat
  affectedCount : UInt32
  severity : String
  frameworks : List String
  recommendation : String
  findingRefs : List String

structure Bucket where
  id : String
  title : String
  priority : String
  current : String
  target : String
  deadline : Nat
  frameworks : List String
  recommendation : String
  refs : List String := []
  maxSeverity : FindingSeverity := .info

def Bucket.bump (bucket : Bucket) (finding : FindingRecord) : Bucket :=
  { bucket with
    refs := if bucket.refs.length < 50 then bucket.refs ++ [finding.id] else bucket.refs
    maxSeverity :=
      if bucket.maxSeverity.rank < finding.severity.rank then finding.severity
      else bucket.maxSeverity }

def Bucket.item (bucket : Bucket) : MigrationItem where
  id := bucket.id
  title := bucket.title
  priority := bucket.priority
  currentState := bucket.current
  targetState := bucket.target
  deadlineYear := bucket.deadline
  affectedCount := UInt32.ofNat bucket.refs.length
  severity := bucket.maxSeverity.label
  frameworks := bucket.frameworks
  recommendation := bucket.recommendation
  findingRefs := bucket.refs

inductive Work where
  | weak
  | certs
  | tls
  | sigs
  | deps
  | unknown
deriving DecidableEq

def workOf (finding : FindingRecord) : Option Work :=
  match cryptoClass finding with
  | .weak => some .weak
  | .expiringCert => some .certs
  | .quantumVulnerable =>
    match finding.assetType with
    | .tlsConnection => some .tls
    | .protocolEndpoint => some .tls
    | .certificate => some .sigs
    | .signingKey => some .sigs
    | .encryptionKey => some .sigs
    | .dataStore => some .sigs
    | .cryptoLibrary => some .deps
    | .hashFunction => none
  | .unknown => some .unknown
  | .pqc => none
  | .safeSymmetric => none

def newBucket : Work → Bucket
  | .weak => {
      id := "remediate-weak"
      title := "Remove weak or broken algorithms"
      priority := "P0"
      current := "MD5/SHA-1/DES/RC4, short RSA keys, or expired certificates in use"
      target :=
        "Eliminate deprecated primitives; rotate to AES-256 / SHA-384+ and valid certificates"
      deadline := 2025
      frameworks := ["CNSA 2.0", "NIST IR 8547", "FIPS 203 / 204"]
      recommendation := "Immediate: these are exploitable today, independent of quantum risk." }
  | .certs => {
      id := "renew-certs"
      title := "Renew expiring certificates"
      priority := "P1"
      current := "Certificates approaching expiry"
      target := "Renew and automate certificate lifecycle (consider ML-DSA-signed certs)"
      deadline := 2025
      frameworks := ["CNSA 2.0", "NIST IR 8547"]
      recommendation := "Renew before expiry to avoid outages; plan PQC-signed re-issuance." }
  | .tls => {
      id := "tls-pqc"
      title := "Enable post-quantum key exchange on TLS endpoints"
      priority := "P1"
      current := "TLS endpoints negotiate classical (RSA/ECDHE) key exchange"
      target := "Hybrid key establishment (X25519 + ML-KEM-768), TLS 1.3 only"
      deadline := 2030
      frameworks := ["CNSA 2.0", "NIST IR 8547"]
      recommendation :=
        "Deploy hybrid KEM at gateways and upstream connections ahead of the 2030 mandate." }
  | .sigs => {
      id := "signatures-pqc"
      title := "Migrate certificates & signatures to ML-DSA"
      priority := "P1"
      current := "Certificates and signing keys use classical (RSA/ECDSA) signatures"
      target := "ML-DSA (FIPS 204) signatures; hybrid certificates during transition"
      deadline := 2030
      frameworks := ["CNSA 2.0", "FIPS 203 / 204"]
      recommendation := "Inventory signing surfaces and pilot ML-DSA issuance." }
  | .deps => {
      id := "dependencies-pqc"
      title := "Adopt PQC-capable cryptography libraries"
      priority := "P2"
      current := "Application dependencies provide classical crypto only"
      target := "Upgrade to libraries exposing ML-KEM / ML-DSA (e.g. ml-kem, ml-dsa, liboqs)"
      deadline := 2030
      frameworks := ["CNSA 2.0"]
      recommendation := "Track upstream PQC support and stage dependency upgrades." }
  | .unknown => {
      id := "assess-unknown"
      title := "Assess uncharacterized cryptographic assets"
      priority := "P2"
      current := "Assets whose algorithms could not be determined"
      target := "Identify algorithms and classify quantum exposure"
      deadline := 2030
      frameworks := ["CNSA 2.0", "NIST IR 8547"]
      recommendation := "Manual review to remove blind spots from the inventory." }

def bucketOf (findings : List FindingRecord) (work : Work) : Bucket :=
  findings.foldl (fun bucket finding =>
    if workOf finding = some work then bucket.bump finding else bucket) (newBucket work)

def MigrationItem.before (left right : MigrationItem) : Prop :=
  left.priority < right.priority ∨
    left.priority = right.priority ∧ right.affectedCount ≤ left.affectedCount

instance (left right : MigrationItem) : Decidable (left.before right) :=
  inferInstanceAs (Decidable (_ ∨ _))

def buildRoadmap (findings : List FindingRecord) : List MigrationItem :=
  ((([Work.weak, .certs, .tls, .sigs, .deps, .unknown].map (bucketOf findings)).filter fun bucket =>
    !bucket.refs.isEmpty).map Bucket.item).insertionSort MigrationItem.before

structure ComplianceReport where
  overallCompliancePct : Double
  totalFindings : UInt32
  compliant : UInt32
  atRisk : UInt32
  nonCompliant : UInt32
  frameworks : List FrameworkSummary
  migrationItems : List MigrationItem

def headlineOf (summaries : List FrameworkSummary) : Option FrameworkSummary :=
  (summaries.find? fun summary => summary.id = "cnsa-2.0").or summaries.head?

/-- `ComplianceEngine::assess`; `none` is the panic of a table without frameworks. -/
def assess (findings : List FindingRecord) : Option ComplianceReport := do
  let summaries := frameworks.map (frameworkSummary findings)
  let headline ← headlineOf summaries
  return {
    overallCompliancePct := headline.compliancePct
    totalFindings := UInt32.ofNat findings.length
    compliant := headline.compliant
    atRisk := headline.atRisk
    nonCompliant := headline.nonCompliant
    frameworks := summaries
    migrationItems := buildRoadmap findings }

def works : List Work := [.weak, .certs, .tls, .sigs, .deps, .unknown]

def worksOn (findings : List FindingRecord) (work : Work) : List FindingRecord :=
  findings.filter fun finding => workOf finding = some work

variable (findings : List FindingRecord)

include findings

theorem refs_foldl (work : Work) (bucket : Bucket) (small : bucket.refs.length ≤ 50) :
    (findings.foldl (fun bucket finding =>
      if workOf finding = some work then bucket.bump finding else bucket) bucket).refs =
      (bucket.refs ++ (worksOn findings work).map FindingRecord.id).take 50 := by
  induction findings generalizing bucket with
  | nil =>
    rw [List.foldl_nil, worksOn, List.filter_nil, List.map_nil, List.append_nil,
      List.take_of_length_le small]
  | cons finding findings ih =>
    rw [List.foldl_cons, worksOn, List.filter_cons]
    by_cases isWork : workOf finding = some work
    · rw [if_pos isWork, if_pos (by simpa using isWork), List.map_cons]
      by_cases room : bucket.refs.length < 50
      · have pushed : (bucket.bump finding).refs = bucket.refs ++ [finding.id] := if_pos room
        rw [ih, pushed, List.append_assoc, List.singleton_append, worksOn]
        rw [pushed, List.length_append, List.length_singleton]
        omega
      · -- the bucket is full, and what follows is not named
        have kept : (bucket.bump finding).refs = bucket.refs := if_neg room
        have full : bucket.refs.length = 50 := by omega
        rw [ih _ (by rw [kept]; exact small), kept, ← full, List.take_left,
          List.take_left]
    · rw [if_neg isWork, if_neg (by simpa using isWork), ih bucket small, worksOn]

theorem refs_bucketOf (work : Work) :
    (bucketOf findings work).refs = ((worksOn findings work).take 50).map FindingRecord.id := by
  have empty : (newBucket work).refs = [] := by cases work <;> rfl
  rw [bucketOf, refs_foldl findings work (newBucket work) (by rw [empty]; simp), empty,
    List.nil_append, List.map_take]

theorem buildRoadmap_perm : (buildRoadmap findings).Perm
      (((works.map (bucketOf findings)).filter fun bucket => !bucket.refs.isEmpty).map
        Bucket.item) :=
  List.perm_insertionSort _ _

omit findings

def MigrationItem.affected (item : MigrationItem) : Nat := item.affectedCount.toNat

theorem sum_filter_refs (buckets : List Bucket)
    (small : ∀ bucket ∈ buckets, bucket.refs.length ≤ 50) :
    (((buckets.filter fun bucket => !bucket.refs.isEmpty).map Bucket.item).map
      MigrationItem.affected).sum = (buckets.map fun bucket => bucket.refs.length).sum := by
  induction buckets with
  | nil => rfl
  | cons bucket buckets ih =>
    rw [List.forall_mem_cons] at small
    rw [List.filter_cons]
    split_ifs with named
    · have count : bucket.item.affected = bucket.refs.length :=
        UInt32.toNat_ofNat_of_lt' (small.1.trans_lt (by decide))
      rw [List.map_cons, List.map_cons, List.sum_cons, ih small.2, List.map_cons, List.sum_cons,
        count]
    · have none : bucket.refs = [] := by simpa using named
      rw [ih small.2, List.map_cons, List.sum_cons, none, List.length_nil, Nat.zero_add]

theorem sum_affectedCount (findings : List FindingRecord) :
    ((buildRoadmap findings).map MigrationItem.affected).sum =
      (works.map fun work => min 50 (worksOn findings work).length).sum := by
  have refs (work : Work) : (bucketOf findings work).refs.length =
      min 50 (worksOn findings work).length := by
    rw [refs_bucketOf, List.length_map, List.length_take]
  rw [((buildRoadmap_perm findings).map _).sum_eq, sum_filter_refs, List.map_map]
  · exact congrArg List.sum (List.map_congr_left fun work _ => refs work)
  · intro bucket member
    obtain ⟨work, -, rfl⟩ := List.mem_map.mp member
    exact (refs work).trans_le (min_le_left _ _)

theorem countP_findingRefs (findings : List FindingRecord) (id : String) :
    (buildRoadmap findings).countP (fun item => id ∈ item.findingRefs) =
      works.countP fun work => id ∈ (bucketOf findings work).refs := by
  rw [(buildRoadmap_perm findings).countP_eq, List.countP_map, List.countP_filter,
    List.countP_map]
  refine List.countP_congr fun work _ => ?_
  simp only [Function.comp_apply, Bucket.item, Bool.and_eq_true, decide_eq_true_eq,
    Bool.not_eq_true', List.isEmpty_eq_false_iff]
  exact ⟨fun both => of_decide_eq_true both.1,
    fun named => ⟨decide_eq_true named, List.ne_nil_of_mem named⟩⟩

def headlineStatus (finding : FindingRecord) : ComplianceStatus :=
  (statusFor (cryptoClass finding) "cnsa-2.0").1

def NeedsWork (finding : FindingRecord) : Prop :=
  headlineStatus finding = .atRisk ∨ headlineStatus finding = .nonCompliant

theorem counts_count (tally : FrameworkTally) (status : ComplianceStatus × Option Nat) :
    (tally.count status).compliant = tally.compliant + (if status.1 = .compliant then 1 else 0) ∧
      (tally.count status).atRisk = tally.atRisk + (if status.1 = .atRisk then 1 else 0) ∧
      (tally.count status).nonCompliant =
        tally.nonCompliant + (if status.1 = .nonCompliant then 1 else 0) := by
  obtain ⟨status, year⟩ := status
  cases status <;> simp [FrameworkTally.count]

theorem foldl_tally (findings : List FindingRecord) (framework : String) (tally : FrameworkTally) :
    let counted := findings.foldl (fun (tally : FrameworkTally) finding =>
      tally.count (statusFor (cryptoClass finding) framework)) tally
    counted.compliant = tally.compliant + UInt32.ofNat (findings.countP fun finding =>
        (statusFor (cryptoClass finding) framework).1 = .compliant) ∧
      counted.atRisk = tally.atRisk + UInt32.ofNat (findings.countP fun finding =>
        (statusFor (cryptoClass finding) framework).1 = .atRisk) ∧
      counted.nonCompliant = tally.nonCompliant + UInt32.ofNat (findings.countP fun finding =>
        (statusFor (cryptoClass finding) framework).1 = .nonCompliant) := by
  induction findings generalizing tally with
  | nil => simp
  | cons finding findings ih =>
    obtain ⟨compliant, atRisk, nonCompliant⟩ :=
      ih (tally.count (statusFor (cryptoClass finding) framework))
    obtain ⟨oneCompliant, oneAtRisk, oneNonCompliant⟩ :=
      counts_count tally (statusFor (cryptoClass finding) framework)
    have one (status : ComplianceStatus) : UInt32.ofNat
        (if (statusFor (cryptoClass finding) framework).1 = status then 1 else 0) =
        if (statusFor (cryptoClass finding) framework).1 = status then 1 else 0 := by
      split_ifs <;> rfl
    simp only [List.foldl_cons, List.countP_cons, decide_eq_true_eq, UInt32.ofNat_add, one]
    rw [compliant, atRisk, nonCompliant, oneCompliant, oneAtRisk, oneNonCompliant]
    exact ⟨by ac_rfl, by ac_rfl, by ac_rfl⟩

theorem exists_assess (findings : List FindingRecord) :
    ∃ report, assess findings = some report ∧ report.migrationItems = buildRoadmap findings ∧
      report.totalFindings = UInt32.ofNat findings.length ∧
      report.compliant = UInt32.ofNat (findings.countP (headlineStatus · = .compliant)) ∧
      report.atRisk = UInt32.ofNat (findings.countP (headlineStatus · = .atRisk)) ∧
      report.nonCompliant = UInt32.ofNat (findings.countP (headlineStatus · = .nonCompliant)) := by
  obtain ⟨compliant, atRisk, nonCompliant⟩ := foldl_tally findings "cnsa-2.0" ⟨0, 0, 0, none⟩
  rw [UInt32.zero_add] at compliant atRisk nonCompliant
  exact ⟨_, rfl, rfl, rfl, compliant, atRisk, nonCompliant⟩

theorem headlineStatus_cases (finding : FindingRecord) :
    headlineStatus finding = .compliant ∨ NeedsWork finding := by
  unfold headlineStatus NeedsWork headlineStatus
  cases cryptoClass finding <;> simp [statusFor]

theorem isSome_workOf_iff (finding : FindingRecord) :
    (workOf finding).isSome = true ↔ NeedsWork finding := by
  unfold NeedsWork headlineStatus workOf
  -- a vulnerable finding is not about a hash function
  cases isClass : cryptoClass finding with
  | quantumVulnerable =>
    have notHash : finding.assetType ≠ .hashFunction := by
      intro isHash
      unfold cryptoClass at isClass
      rw [isHash] at isClass
      split at isClass
      · cases isClass
      · cases isClass
      · split at isClass <;> cases isClass
    cases isType : finding.assetType with
    | hashFunction => exact absurd isType notHash
    | tlsConnection => simp [statusFor]
    | certificate => simp [statusFor]
    | signingKey => simp [statusFor]
    | encryptionKey => simp [statusFor]
    | cryptoLibrary => simp [statusFor]
    | protocolEndpoint => simp [statusFor]
    | dataStore => simp [statusFor]
  | pqc => simp [statusFor]
  | weak => simp [statusFor]
  | expiringCert => simp [statusFor]
  | safeSymmetric => simp [statusFor]
  | unknown => simp [statusFor]

theorem countP_headlineStatus (findings : List FindingRecord) :
    findings.countP (headlineStatus · = .compliant) + findings.countP (headlineStatus · = .atRisk) +
      findings.countP (headlineStatus · = .nonCompliant) = findings.length := by
  induction findings with
  | nil => rfl
  | cons finding findings ih =>
    simp only [List.countP_cons, List.length_cons]
    rcases headlineStatus_cases finding with isStatus | isStatus | isStatus
    all_goals
      simp [isStatus]
      omega

theorem sum_worksOn (findings : List FindingRecord) :
    (works.map fun work => (worksOn findings work).length).sum =
      findings.countP (headlineStatus · = .atRisk) +
        findings.countP (headlineStatus · = .nonCompliant) := by
  induction findings with
  | nil => rfl
  | cons finding findings ih =>
    have shared : (works.map fun work => (worksOn (finding :: findings) work).length).sum =
        (works.map fun work => (worksOn findings work).length).sum +
          if (workOf finding).isSome then 1 else 0 := by
      simp only [works, worksOn, List.filter_cons, List.map_cons, List.map_nil, List.sum_cons,
        List.sum_nil]
      cases workOf finding with
      | none => simp
      | some work =>
        cases work <;> simp <;> omega
    rw [shared, ih]
    simp only [List.countP_cons]
    by_cases needs : (workOf finding).isSome = true
    · rcases (isSome_workOf_iff finding).mp needs with isStatus | isStatus
      · simp [needs, isStatus]
        omega
      · simp [needs, isStatus]
        omega
    · have notNeeded : ¬ NeedsWork finding :=
        fun needed => needs ((isSome_workOf_iff finding).mpr needed)
      rw [NeedsWork, not_or] at notNeeded
      simp [needs, notNeeded.1, notNeeded.2]

def IsNamed (findings : List FindingRecord) (finding : FindingRecord) : Prop :=
  finding ∈ (findings.filter fun other => workOf other = workOf finding).take 50

instance (findings : List FindingRecord) (finding : FindingRecord) :
    Decidable (IsNamed findings finding) :=
  inferInstanceAs (Decidable (_ ∈ _))

variable {findings : List FindingRecord} {finding : FindingRecord}

theorem mem_refs_iff (distinct : (findings.map FindingRecord.id).Nodup)
    (member : finding ∈ findings) (work : Work) : finding.id ∈ (bucketOf findings work).refs ↔
      workOf finding = some work ∧ IsNamed findings finding := by
  rw [refs_bucketOf, List.mem_map]
  constructor
  · rintro ⟨other, isOther, sameId⟩
    have inWork := List.mem_filter.mp (List.mem_of_mem_take isOther)
    have same : other = finding := List.inj_on_of_nodup_map distinct inWork.1 member sameId
    subst same
    have isWork : workOf other = some work := by simpa using inWork.2
    refine ⟨isWork, ?_⟩
    rw [IsNamed, isWork]
    exact isOther
  · rintro ⟨isWork, named⟩
    rw [IsNamed, isWork] at named
    exact ⟨finding, named, rfl⟩

theorem countP_named (distinct : (findings.map FindingRecord.id).Nodup)
    (member : finding ∈ findings) (needs : NeedsWork finding) :
    (buildRoadmap findings).countP (fun item => finding.id ∈ item.findingRefs) =
      if IsNamed findings finding then 1 else 0 := by
  obtain ⟨work, isWork⟩ := Option.isSome_iff_exists.mp ((isSome_workOf_iff finding).mpr needs)
  rw [countP_findingRefs]
  simp only [mem_refs_iff distinct member, isWork, Option.some.injEq]
  by_cases named : IsNamed findings finding
  · cases work <;> simp [named, works]
  · simp [named]

/-- The headline counts every finding once. The items name each finding that needs work once,
up to fifty for each kind of work, and as long as no kind has more, they count all of them. -/
theorem assess_accounts {findings : List FindingRecord}
    (distinct : (findings.map FindingRecord.id).Nodup) (few : findings.length < 2 ^ 32) :
    ∃ report, assess findings = some report ∧
      report.compliant.toNat + report.atRisk.toNat + report.nonCompliant.toNat = findings.length ∧
      (∀ finding ∈ findings, NeedsWork finding →
        report.migrationItems.countP (fun item => finding.id ∈ item.findingRefs) =
          if IsNamed findings finding then 1 else 0) ∧
      ((∀ work, (worksOn findings work).length ≤ 50) →
        (report.migrationItems.map MigrationItem.affected).sum =
          report.atRisk.toNat + report.nonCompliant.toNat) := by
  obtain ⟨report, isReport, items, -, compliant, atRisk, nonCompliant⟩ := exists_assess findings
  have counted := @toNat_countP findings few
  refine ⟨report, isReport, ?_, ?_, ?_⟩
  · rw [compliant, atRisk, nonCompliant, counted, counted, counted, countP_headlineStatus]
  · intro finding member needs
    rw [items, countP_named distinct member needs]
  · intro room
    rw [items, sum_affectedCount, atRisk, nonCompliant, counted, counted, ← sum_worksOn]
    congr 1
    exact List.map_congr_left fun work _ => min_eq_right (room work)

def classicalEndpoints (count : Nat) : List FindingRecord :=
  (List.range count).map classicalEndpoint

theorem classicalEndpoints_distinct (count : Nat) :
    ((classicalEndpoints count).map FindingRecord.id).Nodup := by
  rw [classicalEndpoints, List.map_map]
  refine List.nodup_range.map fun left right same => ?_
  have digits := congrArg String.toList same
  simp only [Function.comp_apply, classicalEndpoint, Nat.toString_eq_ofList_toDigits,
    String.toList_ofList] at digits
  exact Text.toDigits_inj.mp digits

theorem assess_two_endpoints :
    ((classicalEndpoints 2).map FindingRecord.id).Nodup ∧
      ∃ report, assess (classicalEndpoints 2) = some report ∧
        (report.migrationItems.map MigrationItem.affected).sum =
          report.atRisk.toNat + report.nonCompliant.toNat := by
  obtain ⟨report, isReport, -, -, counts⟩ :=
    assess_accounts (classicalEndpoints_distinct 2) (by decide)
  refine ⟨classicalEndpoints_distinct 2, report, isReport, counts fun work => ?_⟩
  refine (List.length_filter_le _ _).trans ?_
  rw [classicalEndpoints, List.length_map, List.length_range]
  omega

theorem assess_fifty_one_endpoints :
    ((classicalEndpoints 51).map FindingRecord.id).Nodup ∧
      ∃ report, assess (classicalEndpoints 51) = some report ∧
        report.atRisk.toNat + report.nonCompliant.toNat = 51 ∧
        (report.migrationItems.map MigrationItem.affected).sum = 50 ∧
        headlineStatus (classicalEndpoint 50) = .nonCompliant ∧
        report.migrationItems.countP (fun item =>
          (classicalEndpoint 50).id ∈ item.findingRefs) = 0 := by
  obtain ⟨report, isReport, items, -, compliant, atRisk, nonCompliant⟩ :=
    exists_assess (classicalEndpoints 51)
  refine ⟨classicalEndpoints_distinct 51, report, isReport, ?_, ?_, rfl, ?_⟩
  · rw [atRisk, nonCompliant]
    decide +kernel
  · rw [items, sum_affectedCount]
    decide +kernel
  · rw [items, countP_named (classicalEndpoints_distinct 51) ?_ (.inr rfl)]
    · decide +kernel
    · exact List.mem_map_of_mem (List.mem_range.mpr (by omega))

end QuantaWatch.Cbom
