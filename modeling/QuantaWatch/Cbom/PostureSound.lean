import QuantaWatch.Cbom.Builder

/-!
What the numbers of a posture summary say (`qw-cbom/src/posture.rs`), with scores
as exact rationals.
-/

namespace QuantaWatch.Cbom.Exact

open Crypto Lib Scanner

theorem sum_ofNat (numbers : List Nat) :
    (numbers.map UInt32.ofNat).sum = UInt32.ofNat numbers.sum := by
  induction numbers with
  | nil => rfl
  | cons number numbers ih =>
    rw [List.map_cons, List.sum_cons, List.sum_cons, ih, UInt32.ofNat_add]

theorem sum_countByStatus (statuses : List PqcStatus) :
    ((PostureEngine.countByStatus statuses).map Prod.snd).sum = UInt32.ofNat statuses.length := by
  have counts : (PostureEngine.countByStatus statuses).map Prod.snd =
      ((Collections.groupOn PqcStatus.label statuses).map fun group =>
        group.2.length).map UInt32.ofNat := by
    rw [PostureEngine.countByStatus, List.map_map, List.map_map]
    rfl
  rw [counts, sum_ofNat, Collections.sum_lengths_groupOn]

theorem sum_scoresOf_lengths (assets : List Scored) :
    (scoresOf .tls assets).length + (scoresOf .certificates assets).length +
      (scoresOf .dependencies assets).length + (scoresOf .keys assets).length =
        assets.length := by
  induction assets with
  | nil => rfl
  | cons asset assets ih =>
    simp only [scoresOf, List.length_map, List.filter_cons, List.length_cons]
      at ih ⊢
    cases asset.group with
    | tls =>
      simp
      omega
    | certificates =>
      simp
      omega
    | dependencies =>
      simp
      omega
    | keys =>
      simp
      omega

theorem sum_byCategory (assets : List Scored) (providers : List ProviderScore) (now : DateTime) :
    ((summarizeAssets assets providers now).byCategory.map CategoryScore.assetCount).sum =
      UInt32.ofNat assets.length := by
  rw [← sum_scoresOf_lengths assets, UInt32.ofNat_add, UInt32.ofNat_add, UInt32.ofNat_add]
  simp [summarizeAssets, categoryScore, UInt32.add_assoc]

def InRange (score : ℚ) : Prop := 0 ≤ score ∧ score ≤ 100

theorem inRange_clamp (value : ℚ) : InRange (clamp value 0 100) := by
  unfold clamp InRange
  split_ifs with low high
  · norm_num
  · norm_num
  · exact ⟨not_lt.mp low, not_lt.mp high⟩

variable {scores : List ℚ} {assets better : List Scored} {results : List NamedScanResult}

theorem inRange_average (inRange : ∀ score ∈ scores, InRange score) : InRange (average scores) := by
  unfold average
  split_ifs with none
  · norm_num [InRange]
  · have positive : (0 : ℚ) < scores.length := by
      rw [Nat.cast_pos, List.length_pos_iff]
      exact fun empty => none (by rw [empty]; rfl)
    have least := List.card_nsmul_le_sum scores 0 fun score member => (inRange score member).1
    have most := List.sum_le_card_nsmul scores 100 fun score member => (inRange score member).2
    rw [nsmul_eq_mul, mul_zero] at least
    rw [nsmul_eq_mul] at most
    exact ⟨div_nonneg least positive.le, (div_le_iff₀ positive).mpr (by linarith)⟩

theorem tenth_mono {left right : ℚ} (le : left ≤ right) :
    ((round (left * 10) : ℤ) : ℚ) / 10 ≤ ((round (right * 10) : ℤ) : ℚ) / 10 := by
  have rounded : round (left * 10) ≤ round (right * 10) := by
    rw [round_eq, round_eq]
    exact Int.floor_mono (by linarith)
  have cast : ((round (left * 10) : ℤ) : ℚ) ≤ ((round (right * 10) : ℤ) : ℚ) :=
    Int.cast_le.mpr rounded
  linarith

theorem inRange_overallScore (inRange : ∀ asset ∈ assets, InRange asset.score) :
    InRange (overallScore assets) := by
  have averages : ∀ group, InRange (average (scoresOf group assets)) := by
    intro group
    refine inRange_average fun score member => ?_
    obtain ⟨asset, isAsset, rfl⟩ := List.mem_map.mp member
    exact inRange asset (List.mem_of_mem_filter isAsset)
  have tls := averages .tls
  have certificates := averages .certificates
  have dependencies := averages .dependencies
  have keys := averages .keys
  unfold InRange at *
  unfold overallScore
  constructor <;> linarith

theorem inRange_rounded {score : ℚ} (inRange : InRange score) :
    InRange ((round (score * 10) : ℤ) / 10) := by
  have low := tenth_mono inRange.1
  have high := tenth_mono inRange.2
  have top : round ((100 : ℚ) * 10) = 1000 := by norm_num
  rw [zero_mul, round_zero] at low
  rw [top] at high
  norm_num at low high
  exact ⟨low, by linarith⟩

def NoBetter (asset better : Scored) : Prop :=
  asset.group = better.group ∧ asset.score ≤ better.score

theorem scoresOf_forall₂ (worse : List.Forall₂ NoBetter assets better)
    (group : PostureEngine.ScoreGroup) :
    List.Forall₂ (· ≤ ·) (scoresOf group assets) (scoresOf group better) := by
  induction worse with
  | nil => exact .nil
  | cons noBetter _ ih =>
    unfold scoresOf at ih ⊢
    rw [List.filter_cons, List.filter_cons, noBetter.1]
    split_ifs
    · exact .cons noBetter.2 ih
    · exact ih

theorem average_mono {better : List ℚ} (worse : List.Forall₂ (· ≤ ·) scores better) :
    average scores ≤ average better := by
  have length := worse.length_eq
  have sums := worse.sum_le_sum
  cases worse with
  | nil => exact le_refl _
  | cons _ _ =>
    rw [average, average, if_neg (by simp), if_neg (by simp), length]
    exact div_le_div_of_nonneg_right sums (Nat.cast_nonneg _)

theorem overallScore_mono (worse : List.Forall₂ NoBetter assets better) :
    overallScore assets ≤ overallScore better := by
  have averages : ∀ group, average (scoresOf group assets) ≤ average (scoresOf group better) :=
    fun group => average_mono (scoresOf_forall₂ worse group)
  have tls := averages .tls
  have certificates := averages .certificates
  have dependencies := averages .dependencies
  have keys := averages .keys
  unfold overallScore
  linarith

def assetsOf (results : List NamedScanResult) (providers : List ProviderCryptoInfo) : List Scored :=
  (results.flatMap NamedScanResult.findings).map scoredFinding ++ providers.map scoredProvider

theorem length_assetsOf (results : List NamedScanResult) (providers : List ProviderCryptoInfo) :
    (assetsOf results providers).length =
      (results.flatMap NamedScanResult.findings).length + providers.length := by
  rw [assetsOf, List.length_append, List.length_map, List.length_map]

theorem inRange_assetsOf {providers : List ProviderCryptoInfo} :
    ∀ asset ∈ assetsOf results providers, InRange asset.score := by
  intro asset member
  rcases List.mem_append.mp member with isFinding | isProvider
  · obtain ⟨finding, _, rfl⟩ := List.mem_map.mp isFinding
    exact inRange_clamp _
  · obtain ⟨provider, _, rfl⟩ := List.mem_map.mp isProvider
    exact inRange_clamp _

def Worsened (results worse : List NamedScanResult) : Prop :=
  ∃ front back scannerId before after, ∃ finding other : NamedFinding,
    results = front ++ ⟨scannerId, before ++ finding :: after⟩ :: back ∧
      worse = front ++ ⟨scannerId, before ++ other :: after⟩ :: back ∧
        other.asset.assetType = finding.asset.assetType ∧
          scoreFinding other.toFinding ≤ scoreFinding finding.toFinding

theorem noBetter_of_worsened {worse : List NamedScanResult} (worsened : Worsened results worse)
    (providers : List ProviderCryptoInfo) :
    List.Forall₂ NoBetter (assetsOf worse providers) (assetsOf results providers) := by
  obtain ⟨front, back, scannerId, before, after, finding, other, rfl, rfl, sameType, lower⟩ :=
    worsened
  have same : ∀ assets : List Scored, List.Forall₂ NoBetter assets assets :=
    fun assets => List.forall₂_same.mpr fun asset _ => ⟨rfl, le_refl _⟩
  have one : NoBetter (scoredFinding other) (scoredFinding finding) := by
    refine ⟨?_, lower⟩
    rw [scoredFinding, scoredFinding, sameType]
  simp only [assetsOf, List.flatMap_append, List.flatMap_cons, List.map_append, List.map_cons,
    List.append_assoc, List.cons_append]
  exact List.rel_append (same _) (List.rel_append (same _) (.cons one (same _)))

/-- The counts cover every asset once, and the overall score is a percentage that no order
changes and no worse finding raises. -/
theorem summarize_sound (results : List NamedScanResult) (providers : List ProviderCryptoInfo)
    (now : DateTime) :
    let summary := summarize results providers now
    (summary.byStatus.map Prod.snd).sum = summary.totalAssets ∧
      (summary.byCategory.map CategoryScore.assetCount).sum = summary.totalAssets ∧
      summary.totalAssets = UInt32.ofNat
        ((results.flatMap NamedScanResult.findings).length + providers.length) ∧
      0 ≤ summary.overallScore ∧ summary.overallScore ≤ 100 ∧
      (∀ other others later, Reordered results other → providers.Perm others →
        (summarize other others later).overallScore = summary.overallScore) ∧
      (∀ worse later, Worsened results worse →
        (summarize worse providers later).overallScore ≤ summary.overallScore) := by
  have total := congrArg UInt32.ofNat (length_assetsOf results providers)
  have range := inRange_rounded
    (inRange_overallScore (@inRange_assetsOf results providers))
  refine ⟨?_, ?_, total, range.1, range.2, ?_, ?_⟩
  · refine (sum_countByStatus _).trans ?_
    rw [List.length_map]
    rfl
  · exact sum_byCategory (assetsOf results providers) _ now
  · intro other others later reordered perm
    have assets : (assetsOf other others).Perm (assetsOf results providers) :=
      ((findings_perm_of_reordered reordered).symm.map _).append (perm.symm.map _)
    have same := congrArg PostureSummary.overallScore
      (summarizeAssets_perm assets (others.map providerScore) later)
    exact same
  · intro worse later worsened
    exact tenth_mono (overallScore_mono (noBetter_of_worsened worsened providers))

end QuantaWatch.Cbom.Exact
