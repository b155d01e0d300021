import QuantaWatch.Cbom.Agility

/-!
Which findings a crypto-agility policy is about.
-/

namespace QuantaWatch.Cbom

open Crypto Lib Lib.Text Scanner

variable {case : CaseMapping} {policy : CryptoAgilityPolicy} {assets : List AssetContext}
  {findings : List FindingRecord} {now : DateTime}

def Tracked (state : List Violation × List String) : Prop :=
  ∀ text, text ∈ state.2 ↔ text ∈ state.1.map Violation.fingerprint

theorem mem_foldl_addViolation {state : List Violation × List String} (tracked : Tracked state)
    (text : String) :
    text ∈ (findings.foldl (addViolation case policy assets) state).1.map Violation.fingerprint ↔
      text ∈ state.1.map Violation.fingerprint ∨
        ∃ finding ∈ findings, violates case policy assets finding = true ∧
          fingerprint finding = text := by
  induction findings generalizing state with
  | nil => simp
  | cons finding findings ih =>
    have step : Tracked (addViolation case policy assets state finding) ∧
        (text ∈ (addViolation case policy assets state finding).1.map Violation.fingerprint ↔
          text ∈ state.1.map Violation.fingerprint ∨
            violates case policy assets finding = true ∧ fingerprint finding = text) := by
      rw [addViolation]
      split_ifs with isViolation isSeen
      · refine ⟨tracked, ?_⟩
        rw [tracked] at isSeen
        constructor
        · exact .inl
        · rintro (member | ⟨_, rfl⟩)
          · exact member
          · exact isSeen
      · refine ⟨fun other => ?_, ?_⟩
        · simp [tracked other, violationOf, or_comm]
        · simp [isViolation, violationOf, eq_comm]
      · refine ⟨tracked, ?_⟩
        simp [isViolation]
    rw [List.foldl_cons, ih step.1, step.2]
    simp [or_assoc]

variable {text : String} {finding : FindingRecord} {asset : AssetContext}
    {otherAssets : List AssetContext} {host : String → String}

theorem mem_fingerprints : text ∈ (evaluatePolicy case policy assets findings now).fingerprints ↔
      ∃ finding ∈ findings, violates case policy assets finding = true ∧
        fingerprint finding = text := by
  have tracked : Tracked ([], []) := fun text => by simp
  show text ∈ (findings.foldl (addViolation case policy assets) ([], [])).1.map
    Violation.fingerprint ↔ _
  rw [mem_foldl_addViolation tracked]
  simp

section Scope

variable (case : CaseMapping) (policy : CryptoAgilityPolicy)

def asksAbout (finding : FindingRecord) : Bool :=
  policy.selector.admitsType finding && matchMatches case policy.condition finding

def joinedAsset (assets : List AssetContext) (finding : FindingRecord) : Option AssetContext :=
  if policy.selector.admitsType finding && policy.selector.needsAsset then
    assetFor case finding.location assets
  else none

structure OrderFree (host : String → String) (assets : List AssetContext)
    (findings : List FindingRecord) (now : DateTime) : Prop where
  fingerprints : ∀ otherAssets otherFindings, otherAssets.Perm assets →
    otherFindings.Perm findings → ∀ text,
      text ∈ (evaluatePolicy case policy otherAssets otherFindings now).fingerprints ↔
        text ∈ (evaluatePolicy case policy assets findings now).fingerprints
  hosts : ∀ otherAssets, otherAssets.Perm assets → ∀ finding ∈ findings, ∀ asset,
    joinedAsset case policy otherAssets finding = some asset →
      host asset.address = host finding.location

def Settled (assets : List AssetContext) (finding : FindingRecord) : Prop :=
  (∃ asset ∈ assets, isAddressed case finding.location asset = true) ∧
    ∀ asset ∈ assets, isAddressed case finding.location asset = true →
      policy.selector.admitsAsset case asset = true

structure Unambiguous (host : String → String) (assets : List AssetContext)
    (findings : List FindingRecord) : Prop where
  hosts : ∀ finding ∈ findings, policy.selector.admitsType finding = true →
    ∀ asset ∈ assets, isAddressed case finding.location asset = true →
      host asset.address = host finding.location
  settled : ∀ finding ∈ findings, asksAbout case policy finding = true →
    ∀ asset ∈ assets, isAddressed case finding.location asset = true →
      policy.selector.admitsAsset case asset = true →
      ∃ other ∈ findings, fingerprint other = fingerprint finding ∧
        asksAbout case policy other = true ∧ Settled case policy assets other

end Scope

theorem violates_of_no_asset (noAsset : policy.selector.needsAsset = false)
    (finding : FindingRecord) :
    violates case policy assets finding = asksAbout case policy finding := by
  rw [violates, selectorMatches, noAsset, asksAbout]
  simp

theorem violates_iff (needsAsset : policy.selector.needsAsset = true) :
    violates case policy assets finding = true ↔ asksAbout case policy finding = true ∧
      ∃ asset, assetFor case finding.location assets = some asset ∧
        policy.selector.admitsAsset case asset = true := by
  rw [violates, selectorMatches, needsAsset, asksAbout]
  cases assetFor case finding.location assets with
  | none => simp
  | some asset =>
    simp
    tauto

theorem assetFor_erase {location : String} (named : isAddressed case location asset = true) :
    assetFor case location (asset :: assets.erase asset) = some asset := by
  rw [assetFor, List.find?_cons_of_pos named]

def outsideFirst (case : CaseMapping) (policy : CryptoAgilityPolicy) (assets : List AssetContext) :
    List AssetContext :=
  assets.filter (!policy.selector.admitsAsset case ·) ++
    assets.filter (policy.selector.admitsAsset case ·)

theorem outsideFirst_perm : (outsideFirst case policy assets).Perm assets := by
  have split := List.filter_append_perm (policy.selector.admitsAsset case ·) assets
  exact List.perm_append_comm.trans split

theorem settled_of_outsideFirst
    (found : assetFor case finding.location (outsideFirst case policy assets) = some asset)
    (inScope : policy.selector.admitsAsset case asset = true) :
    Settled case policy assets finding := by
  refine ⟨⟨asset, outsideFirst_perm.mem_iff.mp (List.mem_of_find?_eq_some found),
    List.find?_some found⟩, fun other member named => ?_⟩
  by_contra outside
  have first : ∃ front ∈ assets.filter (!policy.selector.admitsAsset case ·),
      isAddressed case finding.location front = true :=
    ⟨other, List.mem_filter.mpr ⟨member, by simpa using outside⟩, named⟩
  obtain ⟨front, isFront⟩ := Option.isSome_iff_exists.mp (List.find?_isSome.mpr first)
  rw [assetFor, outsideFirst, List.find?_append, isFront, Option.some_or] at found
  cases found
  have notInScope := (List.mem_filter.mp (List.mem_of_find?_eq_some isFront)).2
  rw [inScope] at notInScope
  cases notInScope

theorem violates_of_settled (needsAsset : policy.selector.needsAsset = true)
    (asked : asksAbout case policy finding = true) (settled : Settled case policy assets finding)
    (reordered : otherAssets.Perm assets) : violates case policy otherAssets finding = true := by
  obtain ⟨⟨asset, member, named⟩, inScope⟩ := settled
  have isSome : (assetFor case finding.location otherAssets).isSome = true :=
    List.find?_isSome.mpr ⟨asset, reordered.mem_iff.mpr member, named⟩
  obtain ⟨found, isFound⟩ := Option.isSome_iff_exists.mp isSome
  refine (violates_iff needsAsset).mpr ⟨asked, found, isFound, inScope found ?_ ?_⟩
  · exact reordered.mem_iff.mp (List.mem_of_find?_eq_some isFound)
  · exact List.find?_some isFound

theorem mem_fingerprints_of_unambiguous (needsAsset : policy.selector.needsAsset = true)
    (unambiguous : Unambiguous case policy host assets findings)
    {otherFindings : List FindingRecord} (assetsReordered : otherAssets.Perm assets)
    (findingsReordered : otherFindings.Perm findings) :
    text ∈ (evaluatePolicy case policy otherAssets otherFindings now).fingerprints ↔
      ∃ finding ∈ findings, asksAbout case policy finding = true ∧
        Settled case policy assets finding ∧ fingerprint finding = text := by
  rw [mem_fingerprints]
  constructor
  · rintro ⟨finding, member, isViolation, rfl⟩
    obtain ⟨asked, asset, found, inScope⟩ := (violates_iff needsAsset).mp isViolation
    obtain ⟨other, isOther, same, otherAsked, settled⟩ := unambiguous.settled finding
      (findingsReordered.mem_iff.mp member) asked asset
      (assetsReordered.mem_iff.mp (List.mem_of_find?_eq_some found)) (List.find?_some found) inScope
    exact ⟨other, isOther, otherAsked, settled, same⟩
  · rintro ⟨finding, member, asked, settled, rfl⟩
    exact ⟨finding, findingsReordered.mem_iff.mpr member,
      violates_of_settled needsAsset asked settled assetsReordered, rfl⟩

theorem unambiguous_of_orderFree (needsAsset : policy.selector.needsAsset = true)
    (orderFree : OrderFree case policy host assets findings now) :
    Unambiguous case policy host assets findings := by
  constructor
  case hosts =>
    intro finding member admits asset isAsset named
    refine orderFree.hosts _ (List.perm_cons_erase isAsset).symm finding member asset ?_
    rw [joinedAsset, admits, needsAsset]
    exact assetFor_erase named
  case settled =>
    intro finding member asked asset isAsset named inScope
    -- In scope with this asset first, so also with the assets outside first.
    have first : fingerprint finding ∈
        (evaluatePolicy case policy (asset :: assets.erase asset) findings now).fingerprints :=
      mem_fingerprints.mpr ⟨finding, member, (violates_iff needsAsset).mpr
        ⟨asked, asset, assetFor_erase named, inScope⟩, rfl⟩
    have always := (orderFree.fingerprints (outsideFirst case policy assets) findings
      outsideFirst_perm (List.Perm.refl findings) _).mpr
      ((orderFree.fingerprints _ findings (List.perm_cons_erase isAsset).symm
        (List.Perm.refl findings) _).mp first)
    obtain ⟨other, isOther, isViolation, same⟩ := mem_fingerprints.mp always
    obtain ⟨otherAsked, found, isFound, foundInScope⟩ := (violates_iff needsAsset).mp isViolation
    exact ⟨other, isOther, same, otherAsked, settled_of_outsideFirst isFound foundInScope⟩

/-- The scope is free of the order of the inventory exactly when the policy needs no asset
or the inventory is unambiguous. -/
theorem orderFree_iff (host : String → String) :
    OrderFree case policy host assets findings now ↔
      (policy.selector.needsAsset = true → Unambiguous case policy host assets findings) := by
  constructor
  · exact fun orderFree needsAsset => unambiguous_of_orderFree needsAsset orderFree
  · intro unambiguous
    by_cases needsAsset : policy.selector.needsAsset = true
    · constructor
      case fingerprints =>
        intro otherAssets otherFindings assetsReordered findingsReordered text
        rw [mem_fingerprints_of_unambiguous needsAsset (unambiguous needsAsset) assetsReordered
          findingsReordered, mem_fingerprints_of_unambiguous needsAsset (unambiguous needsAsset)
            (List.Perm.refl assets) (List.Perm.refl findings)]
      case hosts =>
        intro otherAssets reordered finding member asset joined
        rw [joinedAsset] at joined
        split_ifs at joined with admits
        rw [Bool.and_eq_true] at admits
        exact (unambiguous needsAsset).hosts finding member admits.1 asset
          (reordered.mem_iff.mp (List.mem_of_find?_eq_some joined)) (List.find?_some joined)
    · rw [Bool.not_eq_true] at needsAsset
      constructor
      case fingerprints =>
        intro otherAssets otherFindings _ findingsReordered text
        simp only [mem_fingerprints, violates_of_no_asset needsAsset, findingsReordered.mem_iff]
      case hosts =>
        intro otherAssets _ finding _ asset joined
        rw [joinedAsset, needsAsset, Bool.and_false] at joined
        cases joined

def productionPolicy : CryptoAgilityPolicy where
  id := "pqc-at-rest"
  name := ""
  description := ""
  selector := ⟨[], some "prod*", [], []⟩
  condition := ⟨[], [], none, none⟩
  severity := "high"
  deadline := none
  action := "open_pr"
  enforcement := "monitor"

def databaseFinding : FindingRecord where
  id := "f1"
  scanId := "s1"
  category := .missingPqc
  severity := .high
  title := ""
  description := ""
  assetType := .dataStore
  algorithm := some "rsa-2048"
  pqcStatus := .classicalSecure
  location := "orders-db:5432"
  remediation := none
  createdAt := ⟨0⟩
  confidence := .high
  evidence := []
  status := .opened
  note := none

def sharedName : List AssetContext :=
  [⟨"orders-db:5432", "database", "production", []⟩, ⟨"db:5432", "database", "dev", []⟩]

def beforePort (address : String) : String :=
  String.ofList (address.toList.takeWhile (· ≠ ':'))

theorem scope_depends_on_order :
    (sharedName.map AssetContext.address).Nodup ∧
      (evaluatePolicy asciiCase productionPolicy sharedName [databaseFinding] ⟨0⟩).fingerprints =
        ["orders-db:5432|missing_pqc|rsa-2048"] ∧
      (evaluatePolicy asciiCase productionPolicy sharedName.reverse [databaseFinding]
        ⟨0⟩).fingerprints = [] ∧
      (joinedAsset asciiCase productionPolicy sharedName.reverse databaseFinding).map
        (fun asset => beforePort asset.address) = some "db" ∧
      beforePort databaseFinding.location = "orders-db" := by
  decide +kernel

end QuantaWatch.Cbom
