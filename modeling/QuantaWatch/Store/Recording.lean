import QuantaWatch.Store.Findings

/-!
Which findings of a scan are stored, and which rows a scan overwrites.

A row is stored under a hash of location and title. Of the findings of a scan with one
id only the last is stored, and a row of another target with that id is gone.
-/

namespace QuantaWatch.Scanner

structure FindingValues where
  location : String
  title : String
  category : FindingCategory
  algorithm : Option String
  severity : FindingSeverity
deriving DecidableEq

def Finding.values (finding : Finding) : FindingValues :=
  ⟨finding.asset.path, finding.title, finding.category, finding.asset.algorithm,
    finding.severity⟩

def FindingRecord.values (record : FindingRecord) : FindingValues :=
  ⟨record.location, record.title, record.category, record.algorithm, record.severity⟩

theorem Finding.key_of_values {left right : Finding} (same : left.values = right.values) :
    left.key = right.key :=
  Prod.ext (congrArg FindingValues.location same) (congrArg FindingValues.title same)

end QuantaWatch.Scanner

namespace QuantaWatch.Store

open Crypto Lib.Encoding Scanner

namespace Database

variable {database : Database} {tables : Tables} {tenant scanId scannerId : String}
  {clock : Nat → DateTime}

variable (database) in
def lastUnder (id : String) (findings : List Finding) : Option Finding :=
  (findings.filter fun finding => database.stableId finding.key = id).getLast?

variable (database scanId) in
def Records (finding : Finding) (record : FindingRecord) : Prop :=
  ∃ scannerId createdAt previous,
    record = database.findingRecord scanId scannerId createdAt finding previous

variable {finding : Finding} {id : String} {findings : List Finding}

theorem Records.fields {record : FindingRecord} (records : database.Records scanId finding record) :
    record.id = database.stableId finding.key ∧ record.scanId = scanId ∧
      record.values = finding.values := by
  rcases records with ⟨scannerId, createdAt, previous, rfl⟩
  exact ⟨rfl, rfl, rfl⟩

theorem lastUnder_append (id : String) (findings : List Finding) (finding : Finding) :
    database.lastUnder id (findings ++ [finding]) =
      if database.stableId finding.key = id then some finding
      else database.lastUnder id findings := by
  rw [lastUnder, List.filter_append]
  split_ifs with same
  · simp [same]
  · simp [same, lastUnder]

theorem lastUnder_eq_none_iff : database.lastUnder id findings = none ↔
      ∀ finding ∈ findings, database.stableId finding.key ≠ id := by
  rw [lastUnder, List.getLast?_eq_none_iff, List.filter_eq_nil_iff]
  simp

theorem mem_of_lastUnder (isLast : database.lastUnder id findings = some finding) :
    finding ∈ findings ∧ database.stableId finding.key = id := by
  have member := List.mem_of_getLast? isLast
  rw [List.mem_filter, decide_eq_true_eq] at member
  exact member

variable (database scanId) in
structure Stored (before : List FindingRecord) (findings : List Finding)
    (after : List FindingRecord) : Prop where
  only : ∀ record ∈ after,
    database.lastUnder record.id findings = none ∧ record ∈ before ∨
      ∃ finding, database.lastUnder record.id findings = some finding ∧
        database.Records scanId finding record
  old : ∀ record ∈ before, database.lastUnder record.id findings = none → record ∈ after
  new : ∀ id finding, database.lastUnder id findings = some finding →
    ∃ record ∈ after, database.Records scanId finding record

section Stored

variable {before after : List FindingRecord} {findings : List Finding} {finding : Finding}
  {record : FindingRecord} {backend : Backend}

theorem stored_nil : database.Stored scanId before [] before where
  only _ member := .inl ⟨rfl, member⟩
  old _ member _ := member
  new _ _ isLast := nomatch isLast

theorem Stored.put (stored : database.Stored scanId before findings after)
    (records : database.Records scanId finding record) :
    database.Stored scanId before (findings ++ [finding])
      (putBy backend FindingRecord.id record after) where
  only other member := by
    rw [lastUnder_append]
    rcases mem_putBy.mp member with rfl | ⟨isOld, differ⟩
    · exact .inr ⟨finding, if_pos records.fields.1.symm, records⟩
    · rw [if_neg (records.fields.1 ▸ Ne.symm differ)]
      exact stored.only other isOld
  old other member unused := by
    rw [lastUnder_append] at unused
    split_ifs at unused with same
    exact mem_putBy.mpr
      (.inr ⟨stored.old other member unused, fun isId => same (records.fields.1 ▸ isId.symm)⟩)
  new id last isLast := by
    rw [lastUnder_append] at isLast
    split_ifs at isLast with same
    · cases isLast
      exact ⟨record, mem_putBy_self, records⟩
    · rcases stored.new id last isLast with ⟨other, member, isOther⟩
      refine ⟨other, mem_putBy.mpr (.inr ⟨member, fun isId => ?_⟩), isOther⟩
      exact same (by
        rw [← records.fields.1, ← isId, isOther.fields.1, (mem_of_lastUnder isLast).2])

end Stored

theorem stored_recordAll (findings : List Finding) (before : List FindingRecord) :
    database.Stored scanId before findings
      (database.recordAll scanId scannerId clock findings before) := by
  have each : ∀ entries : List (Finding × Nat),
      database.Stored scanId before (entries.map Prod.fst)
        (entries.foldl (fun records entry =>
          putBy database.backend FindingRecord.id
            (database.findingRecord scanId scannerId (clock entry.2) entry.1
              (records.find? fun record => record.id = database.stableId entry.1.key)) records)
          before) := by
    intro entries
    induction entries using List.reverseRecOn with
    | nil => exact stored_nil
    | append_singleton entries entry ih =>
      rw [List.foldl_append, List.foldl_cons, List.foldl_nil, List.map_append,
        List.map_singleton]
      exact ih.put ⟨_, _, _, rfl⟩
  have stored := each findings.zipIdx
  rwa [List.zipIdx_map_fst] at stored

def targetOf (tables : Tables) (tenant : String) (record : FindingRecord) : Option String :=
  (getScan tables tenant record.scanId).map ScanRecord.targetAddress

def OtherTarget (tables : Tables) (tenant : String) (target : ScanTarget)
    (record : FindingRecord) : Prop :=
  ∃ address ∈ targetOf tables tenant record, address ≠ target.address

variable (database) in
structure Lossless (tables : Tables) (tenant : String) (result : ScanResult)
    (target : ScanTarget) : Prop where
  shown : ∀ finding ∈ result.findings,
    (database.lastUnder (database.stableId finding.key) result.findings).map Finding.values =
        some finding.values ∨
      ∃ record ∈ allFindings tables tenant, record.values = finding.values ∧
        ∀ other ∈ result.findings, database.stableId other.key ≠ record.id
  apart : ∀ record ∈ allFindings tables tenant, OtherTarget tables tenant target record →
    ∀ finding ∈ result.findings, database.stableId finding.key ≠ record.id

/-- A scan under a fresh id loses nothing exactly if no two findings of it that differ, and no
row of another target, share an id with what it writes. -/
theorem recordScan_loses_nothing_iff (database : Database) (tables : Tables)
    (tenant scanId : String) (clock : Nat → DateTime) (content : Bytes) (result : ScanResult)
    (target : ScanTarget)
    (fresh : ∀ record ∈ allFindings tables tenant, record.scanId ≠ scanId) :
    ((∀ finding ∈ result.findings,
        ∃ record ∈ allFindings
          (database.recordScan tables tenant scanId clock content result target) tenant,
          record.values = finding.values) ∧
      ∀ record ∈ allFindings tables tenant, OtherTarget tables tenant target record →
        record ∈ allFindings
          (database.recordScan tables tenant scanId clock content result target) tenant) ↔
      database.Lossless tables tenant result target := by
  have stored := @stored_recordAll database scanId result.scannerId clock result.findings
    (allFindings tables tenant)
  rw [allFindings_recordScan]
  generalize database.recordAll scanId result.scannerId clock result.findings
    (allFindings tables tenant) = after at stored ⊢
  constructor
  · rintro ⟨shown, kept⟩
    refine ⟨fun finding member => ?_, fun record member other => ?_⟩
    · rcases shown finding member with ⟨record, isAfter, values⟩
      rcases stored.only record isAfter with ⟨unused, isOld⟩ | ⟨last, isLast, records⟩
      · exact .inr ⟨record, isOld, values, lastUnder_eq_none_iff.mp unused⟩
      · rcases records.fields with ⟨isId, _, isLastValues⟩
        left
        have sameKey := Finding.key_of_values (isLastValues.symm.trans values)
        rw [← sameKey, ← isId, isLast, Option.map_some, ← isLastValues, values]
    · rcases stored.only record (kept record member other) with ⟨unused, _⟩ | ⟨_, _, records⟩
      · exact lastUnder_eq_none_iff.mp unused
      · exact absurd records.fields.2.1 (fresh record member)
  · rintro ⟨shown, apart⟩
    refine ⟨fun finding member => ?_, fun record member other => ?_⟩
    · rcases shown finding member with isLast | ⟨record, isOld, values, unused⟩
      · rcases Option.map_eq_some_iff.mp isLast with ⟨last, isLast, values⟩
        rcases stored.new _ last isLast with ⟨record, isAfter, records⟩
        exact ⟨record, isAfter, records.fields.2.2.trans values⟩
      · exact ⟨record, stored.old record isOld (lastUnder_eq_none_iff.mpr unused), values⟩
    · exact stored.old record member (lastUnder_eq_none_iff.mpr (apart record member other))

def codeFinding (algorithm path : String) : Finding where
  category := .missingPqc
  severity := .medium
  title := "Quantum-vulnerable public-key crypto"
  description := ""
  asset := ⟨.cryptoLibrary, some algorithm, none, none, path, "code", ⟨0⟩⟩
  remediation := none
  pqcStatus := .classicalSecure
  metadata := []

def codeResult (findings : List Finding) : ScanResult :=
  ⟨"code", "t", ⟨0⟩, ⟨0⟩, findings, .completed⟩

def codeRoot (address : String) : ScanTarget := ⟨"t", .codeDirectory, address, []⟩

def rsaAndEcdh : List Finding :=
  [codeFinding "RSA" "main.py", codeFinding "ECDH" "main.py"]

def firstRoot (findings : List Finding) : Tables :=
  (sampleDatabase .sqlite).recordScan .empty "acme" "s1" (fun _ => ⟨0⟩) [] (codeResult findings)
    (codeRoot "/srv/a")

def secondRoot (first second : List Finding) : Tables :=
  (sampleDatabase .sqlite).recordScan (firstRoot first) "acme" "s2" (fun _ => ⟨0⟩) []
    (codeResult second) (codeRoot "/srv/b")

theorem rsa_lost :
    (¬ ∃ record ∈ allFindings (firstRoot rsaAndEcdh) "acme",
      record.values = (codeFinding "RSA" "main.py").values) ∧
    ∃ record ∈ allFindings (firstRoot rsaAndEcdh) "acme",
      OtherTarget (firstRoot rsaAndEcdh) "acme" (codeRoot "/srv/b") record ∧
        record ∉ allFindings (secondRoot rsaAndEcdh rsaAndEcdh) "acme" := by
  unfold OtherTarget
  decide +kernel

def rsaInOther : List Finding := [codeFinding "RSA" "other.py"]

theorem other_file_loses_nothing :
    (∀ finding ∈ rsaInOther, ∃ record ∈ allFindings (secondRoot rsaAndEcdh rsaInOther) "acme",
        record.values = finding.values) ∧
      ∀ record ∈ allFindings (firstRoot rsaAndEcdh) "acme",
        OtherTarget (firstRoot rsaAndEcdh) "acme" (codeRoot "/srv/b") record →
          record ∈ allFindings (secondRoot rsaAndEcdh rsaInOther) "acme" := by
  apply (recordScan_loses_nothing_iff (sampleDatabase .sqlite) (firstRoot rsaAndEcdh) "acme" "s2"
    (fun _ => ⟨0⟩) [] (codeResult rsaInOther) (codeRoot "/srv/b") (by decide +kernel)).mpr
  have apart : ∀ record ∈ allFindings (firstRoot rsaAndEcdh) "acme", ∀ finding ∈ rsaInOther,
      (sampleDatabase .sqlite).stableId finding.key ≠ record.id := by
    decide +kernel
  exact ⟨by decide +kernel, fun record member _ => apart record member⟩

end Database

end QuantaWatch.Store
