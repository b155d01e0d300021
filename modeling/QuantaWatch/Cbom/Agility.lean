import QuantaWatch.Lib.Glob
import QuantaWatch.Lib.Text
import QuantaWatch.Scanner.Types

/-!
Crypto-agility policies (`qw-cbom/src/agility.rs`).
-/

namespace QuantaWatch.Cbom

open Crypto Lib Lib.Text Scanner

structure PolicySelector where
  assetTypes : List String
  environment : Option String
  kinds : List String
  tags : List String

structure PolicyMatch where
  categories : List String
  pqcStatus : List String
  algorithmGlob : Option String
  minSeverity : Option String

structure CryptoAgilityPolicy where
  id : String
  name : String
  description : String
  selector : PolicySelector
  /-- `match_` -/
  condition : PolicyMatch
  severity : String
  deadline : Option DateTime
  action : String
  enforcement : String

structure AssetContext where
  address : String
  kind : String
  environment : String
  tags : List String
deriving DecidableEq

structure Violation where
  findingId : String
  location : String
  category : String
  pqcStatus : String
  severity : String
  algorithm : Option String
  fingerprint : String

structure PolicyResult where
  id : String
  name : String
  description : String
  severity : String
  action : String
  enforcement : String
  status : String
  violationCount : Nat
  violations : List Violation
  deadline : Option DateTime
  daysToDeadline : Option Int
  deadlinePassed : Bool

def PolicyResult.fingerprints (result : PolicyResult) : List String :=
  result.violations.map Violation.fingerprint

def daysUntil (now deadline : DateTime) : Int := (deadline.nanos - now.nanos).tdiv 86400000000000

/-- The loop over the parts of a pattern, with the number of the part and the position
in the text. None stands for a panic. -/
def globParts (text : List Char) (last : Nat) : Nat → Nat → List (List Char) → Option Bool
  | _, _, [] => some true
  | index, position, part :: parts =>
    if part = [] then globParts text last (index + 1) position parts
    else if index = 0 then do
      let rest ← sliceFrom text position
      if part <+: rest then globParts text last (index + 1) (position + byteLength part) parts
      else some false
    else if index = last then do
      let rest ← sliceFrom text position
      if part <:+ rest then globParts text last (index + 1) position parts else some false
    else do
      let rest ← sliceFrom text position
      match Glob.cutFirst part rest with
      | some (before, _) =>
        globParts text last (index + 1) (position + (byteLength before + byteLength part))
          parts
      | none => some false

theorem globParts_later {text front rest : List Char} {parts : List (List Char)} {index last : Nat}
    (whole : text = front ++ rest) (isLater : 0 < index) (some : parts ≠ [])
    (place : index + parts.length = last + 1) :
    globParts text last index (byteLength front) parts = .some (Glob.greedy parts rest) := by
  induction parts generalizing front rest index with
  | nil => exact absurd rfl some
  | cons part parts ih =>
    have notFirst : index ≠ 0 := by omega
    have slice : sliceFrom text (byteLength front) = .some rest := by
      rw [whole, sliceFrom_append]
    rw [globParts]
    cases parts with
    | nil =>
      have isLast : index = last := by simpa using place
      by_cases isEmpty : part = []
      · rw [if_pos isEmpty, globParts, Glob.greedy, isEmpty]
        simp
      · rw [if_neg isEmpty, if_neg notFirst, if_pos isLast, slice]
        by_cases atEnd : part <:+ rest <;> simp [atEnd, globParts, Glob.greedy]
    | cons next later =>
      have notLast : index ≠ last := by
        rw [List.length_cons, List.length_cons] at place
        omega
      have nextPlace : index + 1 + (next :: later).length = last + 1 := by
        rw [← place, List.length_cons, List.length_cons, List.length_cons]
        omega
      by_cases isEmpty : part = []
      · rw [if_pos isEmpty, ih whole (by omega) (by simp) nextPlace,
          Glob.greedy, isEmpty, Glob.cutFirst_of_prefix List.nil_prefix]
        rfl
      · rw [if_neg isEmpty, if_neg notFirst, if_neg notLast, slice, Glob.greedy,
          Option.bind_eq_bind, Option.bind_some]
        cases cut : Glob.cutFirst part rest with
        | none => rfl
        | some pieces =>
          obtain ⟨before, after⟩ := pieces
          have shorter : text = (front ++ (before ++ part)) ++ after := by
            rw [whole, Glob.append_of_cutFirst cut]
            simp
          have read := ih shorter (by omega) (by simp) nextPlace
          rw [byteLength_append, byteLength_append] at read
          exact read

theorem globParts_first (first next : List Char) (rest : List (List Char)) (text : List Char) :
    ∃ found, globParts text ((first :: next :: rest).length - 1) 0 0 (first :: next :: rest) =
        some found ∧ (found = true ↔ Glob.Fits (first :: next :: rest) text) := by
  have place : 0 + 1 + (next :: rest).length = (first :: next :: rest).length - 1 + 1 := by
    simp only [List.length_cons]
    omega
  have slice : sliceFrom text 0 = some text := by rw [sliceFrom]
  rw [globParts]
  by_cases isEmpty : first = []
  · refine ⟨_, (if_pos isEmpty).trans
      (@globParts_later text [] text _ _ _ rfl (by omega) (by simp) place), ?_⟩
    rw [Glob.greedy_iff, isEmpty, Glob.fits_nil_cons (by simp)]
  · rw [if_neg isEmpty, if_pos rfl, slice, Option.bind_eq_bind, Option.bind_some]
    by_cases atStart : first <+: text
    · obtain ⟨after, rfl⟩ := atStart
      refine ⟨Glob.greedy (next :: rest) after, ?_, ?_⟩
      · rw [if_pos (List.prefix_append first after), Nat.zero_add (byteLength first)]
        exact globParts_later rfl (by omega) (by simp) place
      · rw [Glob.greedy_iff]
        constructor
        · rintro ⟨gap, tail, rfl, fits⟩
          exact ⟨gap, tail, rfl, fits⟩
        · rintro ⟨gap, tail, same, fits⟩
          exact ⟨gap, tail, List.append_cancel_left same, fits⟩
    · refine ⟨false, if_neg atStart, ?_⟩
      simp only [Bool.false_eq_true, false_iff]
      rintro ⟨gap, tail, rfl, _⟩
      exact atStart (List.prefix_append first _)

section Evaluation

variable (case : CaseMapping)

def globMatch (pattern text : String) : Option Bool :=
  let lowerPattern := (case.toLowercase pattern).toList
  let lowerText := (case.toLowercase text).toList
  if '*' ∈ lowerPattern then
    let parts := lowerPattern.splitOn '*'
    globParts lowerText (parts.length - 1) 0 0 parts
  else some (lowerText = lowerPattern)

/-- The glob never panics, and finds exactly the instances of the lowercased pattern. -/
theorem globMatch_spec (pattern text : String) :
    ∃ found, globMatch case pattern text = some found ∧
      (found = true ↔ Glob.Matches '*' (case.toLowercase pattern).toList
        (case.toLowercase text).toList) := by
  simp only [globMatch]
  generalize (case.toLowercase pattern).toList = lowerPattern
  generalize (case.toLowercase text).toList = lowerText
  by_cases hasStar : '*' ∈ lowerPattern
  · have several := @Glob.length_splitOn _ _ '*' lowerPattern
    have positive := List.count_pos_iff.mpr hasStar
    rw [if_pos hasStar, Glob.matches_iff_fits]
    match parts : lowerPattern.splitOn '*' with
    | [] => simp [parts] at several
    | [_] =>
      rw [parts, List.length_singleton] at several
      omega
    | first :: next :: rest => exact globParts_first first next rest lowerText
  · refine ⟨_, if_neg hasStar, ?_⟩
    rw [decide_eq_true_eq, Glob.matches_literal hasStar]

def globs (pattern text : String) : Bool := globMatch case pattern text = some true

def parseSeverity (text : String) : Option FindingSeverity :=
  match case.toLowercase text with
  | "info" => some .info
  | "low" => some .low
  | "medium" => some .medium
  | "med" => some .medium
  | "high" => some .high
  | "critical" => some .critical
  | "crit" => some .critical
  | _ => none

def isAddressed (location : String) (asset : AssetContext) : Bool :=
  asset.address ≠ "" &&
    containsText (case.toLowercase location) (case.toLowercase asset.address)

def assetFor (location : String) (assets : List AssetContext) : Option AssetContext :=
  assets.find? (isAddressed case location)

def PolicySelector.needsAsset (selector : PolicySelector) : Bool :=
  selector.environment.isSome || !selector.kinds.isEmpty || !selector.tags.isEmpty

def PolicySelector.admitsType (selector : PolicySelector) (finding : FindingRecord) : Bool :=
  selector.assetTypes.isEmpty ||
    selector.assetTypes.any fun kind => eqIgnoreAsciiCase kind finding.assetType.label

def PolicySelector.admitsAsset (selector : PolicySelector) (asset : AssetContext) : Bool :=
  (match selector.environment with
    | some environment => globs case environment asset.environment
    | none => true) &&
    (selector.kinds.isEmpty || selector.kinds.any fun kind => eqIgnoreAsciiCase kind asset.kind) &&
    selector.tags.all fun want => asset.tags.any fun tag => eqIgnoreAsciiCase tag want

def selectorMatches (selector : PolicySelector) (finding : FindingRecord)
    (assets : List AssetContext) : Bool :=
  selector.admitsType finding &&
    (!selector.needsAsset ||
      match assetFor case finding.location assets with
      | some asset => selector.admitsAsset case asset
      | none => false)

def matchMatches (condition : PolicyMatch) (finding : FindingRecord) : Bool :=
  (condition.categories.isEmpty ||
      condition.categories.any fun text => eqIgnoreAsciiCase text finding.category.label) &&
    (condition.pqcStatus.isEmpty ||
      condition.pqcStatus.any fun text => eqIgnoreAsciiCase text finding.pqcStatus.label) &&
    (match condition.algorithmGlob with
      | some glob => globs case glob (finding.algorithm.getD "")
      | none => true) &&
    match condition.minSeverity.bind (parseSeverity case) with
    | some least => least.rank ≤ finding.severity.rank
    | none => true

end Evaluation

def fingerprint (finding : FindingRecord) : String :=
  finding.location ++ "|" ++ finding.category.label ++ "|" ++ finding.algorithm.getD "-"

def violationOf (finding : FindingRecord) : Violation where
  findingId := finding.id
  location := finding.location
  category := finding.category.label
  pqcStatus := finding.pqcStatus.label
  severity := finding.severity.label
  algorithm := finding.algorithm
  fingerprint := fingerprint finding

section Evaluation

variable (case : CaseMapping) (policy : CryptoAgilityPolicy) (assets : List AssetContext)

def violates (finding : FindingRecord) : Bool :=
  selectorMatches case policy.selector finding assets && matchMatches case policy.condition finding

def addViolation (state : List Violation × List String) (finding : FindingRecord) :
    List Violation × List String :=
  if violates case policy assets finding then
    if fingerprint finding ∈ state.2 then state
    else (state.1 ++ [violationOf finding], fingerprint finding :: state.2)
  else state

def evaluatePolicy (findings : List FindingRecord) (now : DateTime) : PolicyResult :=
  let violations := (findings.foldl (addViolation case policy assets) ([], [])).1
  { id := policy.id
    name := policy.name
    description := policy.description
    severity := policy.severity
    action := policy.action
    enforcement := policy.enforcement
    status := if violations = [] then "compliant" else "violated"
    violationCount := violations.length
    violations
    deadline := policy.deadline
    daysToDeadline := policy.deadline.map (daysUntil now)
    deadlinePassed := match policy.deadline with
      | some deadline => deadline.nanos < now.nanos
      | none => false }

end Evaluation

end QuantaWatch.Cbom
