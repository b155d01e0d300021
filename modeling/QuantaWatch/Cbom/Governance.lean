import QuantaWatch.Cbom.Agility
import QuantaWatch.Lib.Binary64

/-!
Crypto-agility governance (`qw-cbom/src/governance.rs`).
-/

namespace QuantaWatch.Cbom

open Crypto Lib.Binary64 Lib.Text Scanner

structure CryptoPolicy where
  name : String
  forbidden : List String
  deprecated : List String
  deadline : Option DateTime

inductive AssetVerdict where
  | compliant
  | deprecated
  | forbidden
  | unknown
deriving DecidableEq

inductive Verdict where
  | pass
  | atRisk
  | fail
deriving DecidableEq

structure GovernanceReport where
  policyName : String
  total : UInt32
  compliant : UInt32
  deprecated : UInt32
  forbidden : UInt32
  unknown : UInt32
  agilityScore : Double
  deadline : Option DateTime
  daysToDeadline : Option Int
  deadlinePassed : Bool
  verdict : Verdict

section Evaluation

variable (case : CaseMapping) (policy : CryptoPolicy)

def matchesAny (patterns : List String) (upper : String) : Bool :=
  patterns.any fun pattern => containsText upper (case.toUppercase pattern)

def classifyAsset (algorithm : String) (status : PqcStatus) : AssetVerdict :=
  let upper := case.toUppercase algorithm
  if matchesAny case policy.forbidden upper then .forbidden
  else if status = .pqcReady ∨ status = .hybrid then .compliant
  else if matchesAny case policy.deprecated upper then .deprecated
  else
    match status with
    | .classicalWeak => .deprecated
    | .classicalSecure => .compliant
    | .unknown => .unknown
    | _ => .compliant

def verdictOf (finding : FindingRecord) : AssetVerdict :=
  classifyAsset case policy (finding.algorithm.getD "") finding.pqcStatus

structure Tally where
  compliant : UInt32
  deprecated : UInt32
  forbidden : UInt32
  unknown : UInt32

def Tally.count (tally : Tally) : AssetVerdict → Tally
  | .compliant => { tally with compliant := tally.compliant + 1 }
  | .deprecated => { tally with deprecated := tally.deprecated + 1 }
  | .forbidden => { tally with forbidden := tally.forbidden + 1 }
  | .unknown => { tally with unknown := tally.unknown + 1 }

def Tally.total (tally : Tally) : UInt32 :=
  tally.compliant + tally.deprecated + tally.forbidden + tally.unknown

def tallyOf (findings : List FindingRecord) : Tally :=
  findings.foldl (fun tally finding => tally.count (verdictOf case policy finding)) ⟨0, 0, 0, 0⟩

def percent (part total : UInt32) : Double :=
  if total = 0 then 100.0
  else (Double.ofRat part.toNat / Double.ofRat total.toNat * 1000.0).round / 10.0

/-- `governance::evaluate` -/
def evaluateGovernance (findings : List FindingRecord) (now : DateTime) : GovernanceReport :=
  let tally := tallyOf case policy findings
  let deadlinePassed := match policy.deadline with
    | some deadline => decide (deadline.nanos < now.nanos)
    | none => false
  { policyName := policy.name
    total := tally.total
    compliant := tally.compliant
    deprecated := tally.deprecated
    forbidden := tally.forbidden
    unknown := tally.unknown
    agilityScore := percent tally.compliant tally.total
    deadline := policy.deadline
    daysToDeadline := policy.deadline.map (daysUntil now)
    deadlinePassed
    verdict :=
      if 0 < tally.forbidden ∨ deadlinePassed = true ∧ 0 < tally.deprecated then .fail
      else if 0 < tally.deprecated then .atRisk
      else .pass }

theorem Tally.total_count (tally : Tally) (verdict : AssetVerdict) :
    (tally.count verdict).total = tally.total + 1 := by
  cases verdict <;> simp only [Tally.count, Tally.total] <;> ac_rfl

theorem total_evaluateGovernance (findings : List FindingRecord) (now : DateTime) :
    (evaluateGovernance case policy findings now).total = UInt32.ofNat findings.length := by
  have counted (tally : Tally) : (findings.foldl (fun tally finding =>
      tally.count (verdictOf case policy finding)) tally).total =
        tally.total + UInt32.ofNat findings.length := by
    induction findings generalizing tally with
    | nil => exact (UInt32.add_zero _).symm
    | cons finding findings ih =>
      rw [List.foldl_cons, ih, Tally.total_count, List.length_cons, UInt32.ofNat_add]
      ac_rfl
  exact (counted ⟨0, 0, 0, 0⟩).trans (UInt32.zero_add _)

theorem foldl_count (findings : List FindingRecord) (tally : Tally) :
    findings.foldl (fun tally finding => tally.count (verdictOf case policy finding)) tally =
      ⟨tally.compliant + UInt32.ofNat (findings.countP (verdictOf case policy · = .compliant)),
        tally.deprecated + UInt32.ofNat (findings.countP (verdictOf case policy · = .deprecated)),
        tally.forbidden + UInt32.ofNat (findings.countP (verdictOf case policy · = .forbidden)),
        tally.unknown + UInt32.ofNat (findings.countP (verdictOf case policy · = .unknown))⟩ := by
  induction findings generalizing tally with
  | nil => simp
  | cons finding findings ih =>
    rw [List.foldl_cons, ih]
    simp only [List.countP_cons, UInt32.ofNat_add]
    cases verdictOf case policy finding with
    | compliant =>
      simp [Tally.count]
      ac_rfl
    | deprecated =>
      simp [Tally.count]
      ac_rfl
    | forbidden =>
      simp [Tally.count]
      ac_rfl
    | unknown =>
      simp [Tally.count]
      ac_rfl

def Present (findings : List FindingRecord) (verdict : AssetVerdict) : Prop :=
  ∃ finding ∈ findings, verdictOf case policy finding = verdict

/-- A counter of 32 bits does not wrap while it counts among fewer than `2 ^ 32` findings. -/
theorem toNat_countP {findings : List FindingRecord} (few : findings.length < 2 ^ 32)
    (counts : FindingRecord → Bool) :
    (UInt32.ofNat (findings.countP counts)).toNat = findings.countP counts :=
  UInt32.toNat_ofNat_of_lt' (List.countP_le_length.trans_lt few)

section Counted

variable {findings : List FindingRecord} (few : findings.length < 2 ^ 32)

include few

theorem present_iff (verdict : AssetVerdict) :
    0 < UInt32.ofNat (findings.countP (verdictOf case policy · = verdict)) ↔
      Present case policy findings verdict := by
  rw [UInt32.lt_iff_toNat_lt, toNat_countP few]
  simp [Present, List.countP_pos_iff]

theorem forbidden_pos_iff :
    0 < (tallyOf case policy findings).forbidden ↔ Present case policy findings .forbidden := by
  simp only [tallyOf, foldl_count, UInt32.zero_add]
  exact present_iff case policy few .forbidden

theorem deprecated_pos_iff :
    0 < (tallyOf case policy findings).deprecated ↔ Present case policy findings .deprecated := by
  simp only [tallyOf, foldl_count, UInt32.zero_add]
  exact present_iff case policy few .deprecated

theorem sum_evaluateGovernance (now : DateTime) :
    let report := evaluateGovernance case policy findings now
    report.compliant.toNat + report.deprecated.toNat + report.forbidden.toNat +
      report.unknown.toNat = findings.length := by
  have each : findings.countP (verdictOf case policy · = .compliant) +
      findings.countP (verdictOf case policy · = .deprecated) +
      findings.countP (verdictOf case policy · = .forbidden) +
      findings.countP (verdictOf case policy · = .unknown) = findings.length := by
    clear few
    induction findings with
    | nil => rfl
    | cons finding findings ih =>
      simp only [List.countP_cons, List.length_cons]
      cases verdictOf case policy finding <;> simp <;> omega
  simp only [evaluateGovernance, tallyOf, foldl_count, UInt32.zero_add, toNat_countP few]
  exact each

end Counted

def Overdue (now : DateTime) : Prop := ∃ deadline ∈ policy.deadline, deadline.nanos < now.nanos

variable {case} {policy} {findings : List FindingRecord} {now : DateTime}

theorem verdict_eq_fail_iff (few : findings.length < 2 ^ 32) :
    (evaluateGovernance case policy findings now).verdict = .fail ↔
      Present case policy findings .forbidden ∨
        Overdue policy now ∧ Present case policy findings .deprecated := by
  have passed : (match policy.deadline with
      | some deadline => decide (deadline.nanos < now.nanos)
      | none => false) = true ↔ Overdue policy now := by
    cases deadline : policy.deadline with
    | none => simp [Overdue, deadline]
    | some deadline => simp [Overdue, deadline]
  rw [← forbidden_pos_iff case policy few, ← deprecated_pos_iff case policy few, ← passed,
    evaluateGovernance]
  dsimp only
  split_ifs with fails remains
  · exact iff_of_true rfl fails
  · exact iff_of_false (fun same => nomatch same) fails
  · exact iff_of_false (fun same => nomatch same) fails

theorem verdict_eq_pass_iff (few : findings.length < 2 ^ 32) :
    (evaluateGovernance case policy findings now).verdict = .pass ↔
      ¬ Present case policy findings .forbidden ∧ ¬ Present case policy findings .deprecated := by
  rw [← forbidden_pos_iff case policy few, ← deprecated_pos_iff case policy few,
    evaluateGovernance]
  dsimp only
  split_ifs with fails remains
  · exact iff_of_false (fun same => nomatch same) fun none => fails.elim none.1 (none.2 ·.2)
  · exact iff_of_false (fun same => nomatch same) fun none => none.2 remains
  · exact iff_of_true rfl ⟨fun banned => fails (.inl banned), remains⟩

def Verdict.rank : Verdict → Nat
  | pass => 0
  | atRisk => 1
  | fail => 2

theorem Verdict.rank_le_of {verdict worse : Verdict} (fails : verdict = .fail → worse = .fail)
    (passes : worse = .pass → verdict = .pass) : verdict.rank ≤ worse.rank := by
  cases verdict with
  | pass => exact Nat.zero_le _
  | fail => rw [fails rfl]
  | atRisk =>
    cases worse with
    | pass => exact nomatch passes rfl
    | atRisk => exact le_refl _
    | fail => decide

structure Tightens (policy stricter : CryptoPolicy) (findings more : List FindingRecord)
    (now later : DateTime) : Prop where
  forbidden : policy.forbidden ⊆ stricter.forbidden
  deprecated : policy.deprecated ⊆ stricter.deprecated
  deadline : stricter.deadline = policy.deadline
  findings : findings ⊆ more
  time : now.nanos ≤ later.nanos

variable {stricter : CryptoPolicy} {more : List FindingRecord} {later : DateTime}

theorem matchesAny_mono {patterns wider : List String} (subset : patterns ⊆ wider)
    {upper : String} (matched : matchesAny case patterns upper = true) :
    matchesAny case wider upper = true := by
  rw [matchesAny, List.any_eq_true] at matched ⊢
  obtain ⟨pattern, member, contained⟩ := matched
  exact ⟨pattern, subset member, contained⟩

variable (tightens : Tightens policy stricter findings more now later)

include tightens

theorem forbidden_mono {finding : FindingRecord}
    (banned : verdictOf case policy finding = .forbidden) :
    verdictOf case stricter finding = .forbidden := by
  have isBan : ∀ policy : CryptoPolicy, verdictOf case policy finding = .forbidden ↔
      matchesAny case policy.forbidden (case.toUppercase (finding.algorithm.getD "")) = true := by
    intro policy
    unfold verdictOf classifyAsset
    dsimp only
    split_ifs with matched
    · exact iff_of_true rfl matched
    · exact iff_of_false (fun same => nomatch same) matched
    · exact iff_of_false (fun same => nomatch same) matched
    · cases finding.pqcStatus <;> exact iff_of_false (fun same => nomatch same) matched
  exact (isBan stricter).mpr (matchesAny_mono tightens.forbidden ((isBan policy).mp banned))

theorem deprecated_mono {finding : FindingRecord}
    (old : verdictOf case policy finding = .deprecated) :
    verdictOf case stricter finding = .forbidden ∨
      verdictOf case stricter finding = .deprecated := by
  unfold verdictOf classifyAsset at old ⊢
  dsimp only at old ⊢
  by_cases banned : matchesAny case stricter.forbidden
      (case.toUppercase (finding.algorithm.getD "")) = true
  · exact .inl (if_pos banned)
  · have notBanned : ¬ matchesAny case policy.forbidden
        (case.toUppercase (finding.algorithm.getD "")) = true :=
      fun matched => banned (matchesAny_mono tightens.forbidden matched)
    rw [if_neg notBanned] at old
    rw [if_neg banned]
    by_cases safe : finding.pqcStatus = .pqcReady ∨ finding.pqcStatus = .hybrid
    · rw [if_pos safe] at old
      exact nomatch old
    · rw [if_neg safe] at old ⊢
      by_cases listed : matchesAny case stricter.deprecated
          (case.toUppercase (finding.algorithm.getD "")) = true
      · exact .inr (if_pos listed)
      · rw [if_neg fun matched => listed (matchesAny_mono tightens.deprecated matched)] at old
        rw [if_neg listed]
        exact .inr old

theorem present_mono :
    (Present case policy findings .forbidden → Present case stricter more .forbidden) ∧
      (Present case policy findings .deprecated →
        Present case stricter more .forbidden ∨ Present case stricter more .deprecated) := by
  constructor
  · rintro ⟨finding, member, banned⟩
    exact ⟨finding, tightens.findings member, forbidden_mono tightens banned⟩
  · rintro ⟨finding, member, old⟩
    rcases deprecated_mono tightens old with banned | stillOld
    · exact .inl ⟨finding, tightens.findings member, banned⟩
    · exact .inr ⟨finding, tightens.findings member, stillOld⟩

theorem verdict_mono (few : findings.length < 2 ^ 32) (moreFew : more.length < 2 ^ 32) :
    (evaluateGovernance case policy findings now).verdict.rank ≤
      (evaluateGovernance case stricter more later).verdict.rank := by
  obtain ⟨forbiddenStays, deprecatedStays⟩ := @present_mono case _ _ _ _ _ _ tightens
  refine Verdict.rank_le_of ?_ ?_
  · rw [verdict_eq_fail_iff few, verdict_eq_fail_iff moreFew]
    rintro (banned | ⟨⟨deadline, isDeadline, past⟩, old⟩)
    · exact .inl (forbiddenStays banned)
    · rcases deprecatedStays old with banned | stillOld
      · exact .inl banned
      · refine .inr ⟨⟨deadline, ?_, past.trans_le tightens.time⟩, stillOld⟩
        rw [tightens.deadline]
        exact isDeadline
  · rw [verdict_eq_pass_iff few, verdict_eq_pass_iff moreFew]
    rintro ⟨noneBanned, noneOld⟩
    exact ⟨fun banned => noneBanned (forbiddenStays banned),
      fun old => (deprecatedStays old).elim noneBanned noneOld⟩

omit tightens

/-- Every finding is counted once, the verdict gets no better with more findings, more bans,
more deprecations or later, and it is a pass exactly if no finding is banned or deprecated. -/
theorem evaluateGovernance_monotone (case : CaseMapping) (policy : CryptoPolicy)
    {findings : List FindingRecord} (few : findings.length < 2 ^ 32) (now : DateTime) :
    let report := evaluateGovernance case policy findings now
    report.compliant.toNat + report.deprecated.toNat + report.forbidden.toNat +
        report.unknown.toNat = findings.length ∧
      (∀ more, findings ⊆ more → more.length < 2 ^ 32 →
        report.verdict.rank ≤ (evaluateGovernance case policy more now).verdict.rank) ∧
      (∀ forbidden, policy.forbidden ⊆ forbidden →
        report.verdict.rank ≤
          (evaluateGovernance case { policy with forbidden } findings now).verdict.rank) ∧
      (∀ deprecated, policy.deprecated ⊆ deprecated →
        report.verdict.rank ≤
          (evaluateGovernance case { policy with deprecated } findings now).verdict.rank) ∧
      (∀ later : DateTime, now.nanos ≤ later.nanos →
        report.verdict.rank ≤ (evaluateGovernance case policy findings later).verdict.rank) ∧
      (report.verdict = .pass ↔ ∀ finding ∈ findings,
        verdictOf case policy finding ≠ .forbidden ∧
          verdictOf case policy finding ≠ .deprecated) := by
  have all (patterns : List String) : patterns ⊆ patterns := List.Subset.refl patterns
  refine ⟨sum_evaluateGovernance case policy few now, ?_, ?_, ?_, ?_, ?_⟩
  · exact fun more subset moreFew =>
      verdict_mono ⟨all _, all _, rfl, subset, le_refl _⟩ few moreFew
  · exact fun forbidden subset =>
      verdict_mono ⟨subset, all _, rfl, List.Subset.refl _, le_refl _⟩ few few
  · exact fun deprecated subset =>
      verdict_mono ⟨all _, subset, rfl, List.Subset.refl _, le_refl _⟩ few few
  · exact fun later notBefore =>
      verdict_mono ⟨all _, all _, rfl, List.Subset.refl _, notBefore⟩ few few
  · rw [verdict_eq_pass_iff few, Present, Present]
    push Not
    exact ⟨fun none finding member => ⟨none.1 finding member, none.2 finding member⟩,
      fun none => ⟨fun finding member => (none finding member).1,
        fun finding member => (none finding member).2⟩⟩

end Evaluation

def classicalEndpoint (number : Nat) : FindingRecord where
  id := toString number
  scanId := "s1"
  category := .classicalCrypto
  severity := .medium
  title := "Classical key exchange"
  description := ""
  assetType := .tlsConnection
  algorithm := some "ECDHE"
  pqcStatus := .classicalSecure
  location := "10.0.0." ++ toString number ++ ":443"
  remediation := none
  createdAt := ⟨0⟩
  confidence := .high
  evidence := []
  status := .opened
  note := none

def bansKeyExchange : CryptoPolicy := ⟨"baseline", ["ECDHE"], [], none⟩

theorem evaluateGovernance_two_endpoints :
    (evaluateGovernance asciiCase bansKeyExchange [] ⟨0⟩).verdict.rank ≤
        (evaluateGovernance asciiCase bansKeyExchange [classicalEndpoint 0, classicalEndpoint 1]
          ⟨0⟩).verdict.rank ∧
      (evaluateGovernance asciiCase bansKeyExchange [classicalEndpoint 0, classicalEndpoint 1]
        ⟨0⟩).verdict ≠ .pass := by
  obtain ⟨-, more, -⟩ := @evaluateGovernance_monotone asciiCase bansKeyExchange [] (by decide) ⟨0⟩
  obtain ⟨-, -, -, -, -, passes⟩ := @evaluateGovernance_monotone asciiCase bansKeyExchange
    [classicalEndpoint 0, classicalEndpoint 1] (by decide) ⟨0⟩
  refine ⟨more _ (List.nil_subset _) (by decide), fun isPass => ?_⟩
  exact (passes.mp isPass _ List.mem_cons_self).1 (by decide +kernel)

end QuantaWatch.Cbom
