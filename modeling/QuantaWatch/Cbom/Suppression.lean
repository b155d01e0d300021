import QuantaWatch.AttackGraph.Build
import QuantaWatch.Cbom.AgilityScope
import QuantaWatch.Cbom.Compliance
import QuantaWatch.Cbom.Remediation

/-!
What suppressing a finding takes out of the work.
-/

namespace QuantaWatch.Cbom

open AttackGraph Crypto Lib Lib.Text Scanner

def unsuppressed (findings : List FindingRecord) : List FindingRecord :=
  findings.filter fun finding => finding.status ≠ .suppressed

def GraphInputs.withoutSuppressed (inputs : GraphInputs) : GraphInputs :=
  { inputs with findings := unsuppressed inputs.findings }

variable {findings : List FindingRecord} {case : CaseMapping} {now : DateTime}

private theorem unsuppressed_eq_self_iff :
    unsuppressed findings = findings ↔ ∀ finding ∈ findings, finding.status ≠ .suppressed := by
  simp [unsuppressed, List.filter_eq_self]

private theorem liveFindings_withoutSuppressed (inputs : GraphInputs) :
    liveFindings (GraphInputs.withoutSuppressed inputs) = liveFindings inputs := by
  show (inputs.findings.filter _).filter _ = inputs.findings.filter _
  rw [List.filter_filter]
  simp

private theorem buildGraph_withoutSuppressed (case : CaseMapping) (inputs : GraphInputs)
    (overrides : Overrides) : buildGraph case (GraphInputs.withoutSuppressed inputs) overrides =
      buildGraph case inputs overrides := by
  have live := liveFindings_withoutSuppressed inputs
  have certs : certByHost (GraphInputs.withoutSuppressed inputs) = certByHost inputs := by
    rw [certByHost, live, certByHost]
  have added : addProvider (GraphInputs.withoutSuppressed inputs) overrides =
      addProvider inputs overrides := by
    funext builder provider
    simp only [addProvider, certs]
    rfl
  rw [buildGraph, build, live, added]
  rfl

private theorem planAll_unsuppressed (case : CaseMapping) (findings : List FindingRecord) :
    planAll case (unsuppressed findings) = planAll case findings := by
  have plans : (unsuppressed findings).filterMap (planMigration case) =
      findings.filterMap (planMigration case) := by
    rw [unsuppressed, List.filterMap_filter]
    refine List.filterMap_congr fun finding _ => ?_
    by_cases suppressed : finding.status = .suppressed
    · simp [suppressed, planMigration_suppressed suppressed]
    · simp [suppressed]
  rw [planAll, plans, planAll]

section Counted

variable (few : findings.length < 2 ^ 32)

include few

private theorem noneSuppressed_of_count (same : UInt32.ofNat (unsuppressed findings).length =
      UInt32.ofNat findings.length) : ∀ finding ∈ findings, finding.status ≠ .suppressed := by
  have shorter : (unsuppressed findings).length ≤ findings.length := List.length_filter_le _ _
  have lengths := congrArg UInt32.toNat same
  rw [UInt32.toNat_ofNat_of_lt' (shorter.trans_lt few), UInt32.toNat_ofNat_of_lt' few] at lengths
  exact unsuppressed_eq_self_iff.mp (List.filter_sublist.eq_of_length lengths)

private theorem evaluateGovernance_unsuppressed_iff {policy : CryptoPolicy} :
    evaluateGovernance case policy (unsuppressed findings) now =
        evaluateGovernance case policy findings now ↔
      ∀ finding ∈ findings, finding.status ≠ .suppressed := by
  constructor
  · intro same
    have totals := congrArg GovernanceReport.total same
    rw [total_evaluateGovernance, total_evaluateGovernance] at totals
    exact noneSuppressed_of_count few totals
  · intro noneSuppressed
    rw [unsuppressed_eq_self_iff.mpr noneSuppressed]

private theorem assess_unsuppressed_iff : assess (unsuppressed findings) = assess findings ↔
      ∀ finding ∈ findings, finding.status ≠ .suppressed := by
  constructor
  · intro same
    obtain ⟨report, isReport, -, total, -⟩ := exists_assess findings
    obtain ⟨left, isLeft, -, leftTotal, -⟩ := exists_assess (unsuppressed findings)
    rw [isReport, isLeft, Option.some_inj] at same
    exact noneSuppressed_of_count few (by rw [← leftTotal, same, total])
  · intro noneSuppressed
    rw [unsuppressed_eq_self_iff.mpr noneSuppressed]

end Counted

structure SuppressionRemoves (case : CaseMapping) (inputs : GraphInputs) (overrides : Overrides)
    (policy : CryptoAgilityPolicy) (assets : List AssetContext) (governance : CryptoPolicy)
    (now : DateTime) : Prop where
  graph : buildGraph case (GraphInputs.withoutSuppressed inputs) overrides =
    buildGraph case inputs overrides
  plans : planAll case (unsuppressed inputs.findings) = planAll case inputs.findings
  violations : evaluatePolicy case policy assets (unsuppressed inputs.findings) now =
    evaluatePolicy case policy assets inputs.findings now
  counts : evaluateGovernance case governance (unsuppressed inputs.findings) now =
    evaluateGovernance case governance inputs.findings now
  compliance : assess (unsuppressed inputs.findings) = assess inputs.findings

theorem suppressionRemoves_iff (case : CaseMapping) {inputs : GraphInputs}
    (few : inputs.findings.length < 2 ^ 32) (overrides : Overrides) (policy : CryptoAgilityPolicy)
    (assets : List AssetContext) (governance : CryptoPolicy) (now : DateTime) :
    SuppressionRemoves case inputs overrides policy assets governance now ↔
      ∀ finding ∈ inputs.findings, finding.status ≠ .suppressed := by
  constructor
  · intro removes
    exact (evaluateGovernance_unsuppressed_iff few).mp removes.counts
  · intro noneSuppressed
    have same := unsuppressed_eq_self_iff.mpr noneSuppressed
    exact {
      graph := buildGraph_withoutSuppressed case inputs overrides
      plans := planAll_unsuppressed case inputs.findings
      violations := by rw [same]
      counts := by rw [same]
      compliance := (assess_unsuppressed_iff few).mpr noneSuppressed }

def suppressedCertificate : FindingRecord where
  id := "f-1"
  scanId := "s-1"
  category := .classicalCrypto
  severity := .high
  title := "Weak certificate"
  description := ""
  assetType := .certificate
  algorithm := some "RSA-1024"
  pqcStatus := .classicalWeak
  location := "db.example:443"
  remediation := none
  createdAt := ⟨0⟩
  confidence := .high
  evidence := []
  status := .suppressed
  note := none

def bansRsa : CryptoPolicy := ⟨"baseline", ["RSA"], [], none⟩

def noWeakCrypto : CryptoAgilityPolicy where
  id := "p-1"
  name := "No weak crypto"
  description := ""
  selector := ⟨[], none, [], []⟩
  condition := ⟨[], ["classical_weak"], none, none⟩
  severity := "high"
  deadline := none
  action := "create_ticket"
  enforcement := "manual"

def onlyFindings (findings : List FindingRecord) : GraphInputs := ⟨[], [], [], [], findings, [], []⟩

theorem suppressionRemoves_endpoints :
    SuppressionRemoves asciiCase (onlyFindings (classicalEndpoints 2)) (fun _ => none) noWeakCrypto
        [] bansRsa ⟨0⟩ ∧
      ¬ SuppressionRemoves asciiCase (onlyFindings [classicalEndpoint 0, suppressedCertificate])
        (fun _ => none) noWeakCrypto [] bansRsa ⟨0⟩ := by
  rw [suppressionRemoves_iff asciiCase (by decide), suppressionRemoves_iff asciiCase (by decide)]
  decide +kernel

theorem suppressed_still_counted :
    planAll asciiCase [suppressedCertificate] = [] ∧
      (evaluatePolicy asciiCase noWeakCrypto [] [suppressedCertificate] ⟨0⟩).violations.map
        Violation.findingId = ["f-1"] ∧
      (evaluatePolicy asciiCase noWeakCrypto [] (unsuppressed [suppressedCertificate])
        ⟨0⟩).violations = [] ∧
      (evaluateGovernance asciiCase bansRsa [suppressedCertificate] ⟨0⟩).verdict = .fail ∧
      (evaluateGovernance asciiCase bansRsa (unsuppressed [suppressedCertificate]) ⟨0⟩).verdict =
        .pass ∧
      (buildRoadmap [suppressedCertificate]).map MigrationItem.findingRefs = [["f-1"]] ∧
      buildRoadmap (unsuppressed [suppressedCertificate]) = [] := by
  refine ⟨?_, ?_, ?_, ?_, ?_, ?_, ?_⟩ <;> decide +kernel

end QuantaWatch.Cbom
