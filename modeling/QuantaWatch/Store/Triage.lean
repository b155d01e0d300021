import QuantaWatch.Store.Findings

/-!
Triage of findings, and what scans, triage and the migration do to it.

A finding is its location and title. Rows of old versions have random ids, several of
them may stand for one finding, and the migration re-keys them only where it removes
one. A scan looks for triage under the stable id and the migration keeps the newest
row, so the newest row of a finding is the one that counts.
-/

namespace QuantaWatch.Scanner

abbrev Triage := FindingStatus × Option String

def untriaged : Triage := (.opened, none)

def FindingRecord.triage (record : FindingRecord) : Triage := (record.status, record.note)

end QuantaWatch.Scanner

namespace QuantaWatch.Store

open Crypto Lib Lib.Encoding Lib.KeyedList Scanner

def rowsOf (key : FindingKey) (records : List FindingRecord) : List FindingRecord :=
  records.filter fun record => record.key = key

def newest (key : FindingKey) (records : List FindingRecord) : Option FindingRecord :=
  (rowsOf key records).getLast?

def triageOf (key : FindingKey) (records : List FindingRecord) : Triage :=
  ((newest key records).map FindingRecord.triage).getD untriaged

structure Consistent (records : List FindingRecord) (last : FindingKey → Triage)
    (seen : FindingKey → Prop) : Prop where
  ids : Keyed FindingRecord.id records
  triaged : ∀ key, triageOf key records = last key
  present : ∀ key, (newest key records).isSome ↔ seen key

variable {records : List FindingRecord} {last : FindingKey → Triage} {seen : FindingKey → Prop}

theorem Consistent.of_iff {others : FindingKey → Prop} (consistent : Consistent records last seen)
    (same : ∀ key, others key ↔ seen key) : Consistent records last others where
  ids := consistent.ids
  triaged := consistent.triaged
  present key := (consistent.present key).trans (same key).symm

theorem Consistent.rows {key : FindingKey} (consistent : Consistent records last seen)
    (once : rowsOf key records = (newest key records).toList) :
    (seen key → (rowsOf key records).map FindingRecord.triage = [last key]) ∧
      (¬ seen key → rowsOf key records = []) := by
  have triaged := consistent.triaged key
  rw [← consistent.present key, once]
  rw [triageOf] at triaged
  cases isNewest : newest key records with
  | none => simp
  | some record =>
    rw [isNewest] at triaged
    simpa using triaged

section Rows

variable {key : FindingKey} {records : List FindingRecord} {record : FindingRecord}

theorem mem_of_newest (isNewest : newest key records = some record) :
    record ∈ records ∧ record.key = key := by
  have member := List.mem_of_getLast? isNewest
  rw [rowsOf, List.mem_filter, decide_eq_true_eq] at member
  exact member

theorem newest_eq_none_iff : newest key records = none ↔ ∀ record ∈ records, record.key ≠ key := by
  rw [newest, List.getLast?_eq_none_iff, rowsOf, List.filter_eq_nil_iff]
  simp

theorem newest_append_self (own : record.key = key) :
    newest key (records ++ [record]) = some record := by
  simp [newest, rowsOf, List.filter_append, own]

theorem newest_append_ne (differ : record.key ≠ key) :
    newest key (records ++ [record]) = newest key records := by
  simp [newest, rowsOf, List.filter_append, differ]

theorem newest_filter {test : FindingRecord → Bool}
    (goes : ∀ record ∈ records, record.key = key → test record = true) :
    newest key (records.filter test) = newest key records := by
  rw [newest, newest, rowsOf, rowsOf, List.filter_filter]
  congr 1
  apply List.filter_congr
  intro record member
  by_cases own : record.key = key
  · simp [own, goes record member own]
  · simp [own]

theorem newest_map {change : FindingRecord → FindingRecord}
    (keeps : ∀ record ∈ records, (change record).key = record.key) :
    newest key (records.map change) = (newest key records).map change := by
  rw [newest, newest, rowsOf, rowsOf, List.filter_map, List.getLast?_map]
  congr 2
  apply List.filter_congr
  intro record member
  simp [keeps record member]

end Rows

namespace Database

variable {database : Database} {records : List FindingRecord} {last : FindingKey → Triage}
  {seen : FindingKey → Prop}

def triageFound (id : String) (records : List FindingRecord) : Triage :=
  ((records.find? fun old => old.id = id).map FindingRecord.triage).getD untriaged

variable (database) in
structure Current (records : List FindingRecord) (key : FindingKey) : Prop where
  own : ∀ record ∈ records, record.id = database.stableId key → record.key = key
  found : triageFound (database.stableId key) records = triageOf key records

section Put

variable {record : FindingRecord} {backend : Backend}

theorem newest_replace {key : FindingKey}
    (others : ∀ old ∈ records, old.id = record.id → old.key = record.key) :
    newest key (replace FindingRecord.id record records) =
      (newest key records).map fun old => if old.id = record.id then record else old := by
  apply newest_map
  intro old member
  split_ifs with same
  · exact (others old member same).symm
  · rfl

theorem newest_putBy_ne {key : FindingKey} (differ : record.key ≠ key)
    (others : ∀ old ∈ records, old.id = record.id → old.key = record.key) :
    newest key (putBy backend FindingRecord.id record records) = newest key records := by
  have otherId : ∀ old ∈ records, old.key = key → old.id ≠ record.id :=
    fun old member own same => differ (others old member same ▸ own)
  cases backend with
  | sqlite =>
    rw [putBy, KeyedList.putLast, newest_append_ne differ]
    apply newest_filter
    intro old member own
    simpa using otherId old member own
  | postgres =>
    simp only [putBy, putInPlace]
    split_ifs
    · rw [newest_replace others]
      cases isNewest : newest key records with
      | none => rfl
      | some old =>
        rcases mem_of_newest isNewest with ⟨member, own⟩
        rw [Option.map_some, if_neg (otherId old member own)]
    · exact newest_append_ne differ

theorem newest_putBy_self (backend : Backend)
    (others : ∀ old ∈ records, old.id = record.id → old.key = record.key) :
    newest record.key (putBy backend FindingRecord.id record records) = some record ∨
      (newest record.key records).isSome ∧
        newest record.key (putBy backend FindingRecord.id record records) =
          newest record.key records := by
  cases backend with
  | sqlite => exact .inl (newest_append_self rfl)
  | postgres =>
    simp only [putBy, putInPlace]
    split_ifs with found
    · rcases List.any_eq_true.mp found with ⟨old, member, same⟩
      rw [decide_eq_true_eq] at same
      rw [newest_replace others]
      cases isNewest : newest record.key records with
      | none => exact absurd (others old member same) (newest_eq_none_iff.mp isNewest old member)
      | some row =>
        by_cases isRow : row.id = record.id
        · exact .inl (by rw [Option.map_some, if_pos isRow])
        · exact .inr ⟨rfl, by rw [Option.map_some, if_neg isRow]⟩
    · exact .inl (newest_append_self rfl)

theorem consistent_putBy (backend : Backend) (consistent : Consistent records last seen)
    (others : ∀ old ∈ records, old.id = record.id → old.key = record.key)
    (triaged : record.triage = last record.key) :
    Consistent (putBy backend FindingRecord.id record records) last
      fun key => seen key ∨ key = record.key where
  ids := keyed_putBy consistent.ids
  triaged key := by
    by_cases own : record.key = key
    · subst own
      rcases newest_putBy_self backend others with isNew | ⟨_, same⟩
      · rw [triageOf, isNew]
        exact triaged
      · rw [triageOf, same]
        exact consistent.triaged _
    · rw [triageOf, newest_putBy_ne own others]
      exact consistent.triaged key
  present key := by
    by_cases own : record.key = key
    · subst own
      rcases newest_putBy_self backend others with isNew | ⟨some, same⟩
      · simp [isNew]
      · simp [same, some]
    · rw [newest_putBy_ne own others, consistent.present key]
      simp [Ne.symm own]

end Put

section Scan

variable {scanId scannerId : String} {createdAt : DateTime} {finding : Finding}

variable (database) in
def Separate (keys : List FindingKey) : Prop :=
  ∀ left ∈ keys, ∀ right ∈ keys, database.stableId left = database.stableId right → left = right

theorem current_putBy {record : FindingRecord} {backend : Backend} {key : FindingKey}
    (consistent : Consistent records last seen)
    (isStable : record.id = database.stableId record.key)
    (triaged : record.triage = last record.key) (mine : database.Current records record.key)
    (current : database.Current records key)
    (separate : database.stableId record.key = database.stableId key → record.key = key) :
    database.Current (putBy backend FindingRecord.id record records) key where
  own old member hasId := by
    rcases mem_putBy.mp member with rfl | ⟨isOld, _⟩
    · exact separate (isStable ▸ hasId)
    · exact current.own old isOld hasId
  found := by
    have others : ∀ old ∈ records, old.id = record.id → old.key = record.key :=
      fun old member same => mine.own old member (same.trans isStable)
    have kept := consistent_putBy backend consistent others triaged
    by_cases own : record.key = key
    · subst own
      rw [kept.triaged, triageFound,
        kept.ids.find_eq_some mem_putBy_self isStable]
      exact triaged
    · have otherId : record.id ≠ database.stableId key :=
        fun same => own (separate (isStable ▸ same))
      rw [triageFound, find_putBy_ne otherId, ← triageFound, current.found, triageOf, triageOf,
        newest_putBy_ne own others]

variable {tables : Tables} {tenant other : String}

theorem recordFinding_spec : ∃ record : FindingRecord, record.key = finding.key ∧
      record.id = database.stableId record.key ∧
      record.triage = triageFound record.id (allFindings tables tenant) ∧
      allFindings (database.recordFinding tables tenant scanId scannerId createdAt finding)
        tenant = putBy database.backend FindingRecord.id record (allFindings tables tenant) := by
  refine ⟨_, rfl, rfl, ?_, allFindings_recordFinding⟩
  show _ = ((getFinding tables tenant
    (database.stableFindingId finding.asset.path finding.title)).map FindingRecord.triage).getD _
  cases getFinding tables tenant (database.stableFindingId finding.asset.path finding.title) <;>
    rfl

variable {clock : Nat → DateTime}

theorem consistent_recordFindings (entries : List (Finding × Nat)) {tables : Tables}
    {seen : FindingKey → Prop} (consistent : Consistent (allFindings tables tenant) last seen)
    (current : ∀ key ∈ entries.map fun entry => entry.1.key,
      database.Current (allFindings tables tenant) key)
    (separate : database.Separate (entries.map fun entry => entry.1.key)) :
    Consistent
      (allFindings
        (entries.foldl (fun tables entry =>
          database.recordFinding tables tenant scanId scannerId (clock entry.2) entry.1) tables)
        tenant) last
      fun key => seen key ∨ key ∈ entries.map fun entry => entry.1.key := by
  induction entries generalizing tables seen with
  | nil => simpa using consistent
  | cons entry entries ih =>
    rw [List.map_cons] at current separate
    rcases @recordFinding_spec database scanId scannerId (clock entry.2) entry.1 tables tenant
      with ⟨record, isKey, isStable, triaged, isPut⟩
    have mine := current entry.1.key List.mem_cons_self
    rw [← isKey] at mine
    rw [isStable, mine.found, consistent.triaged] at triaged
    have others : ∀ old ∈ allFindings tables tenant, old.id = record.id → old.key = record.key :=
      fun old member same => mine.own old member (same.trans isStable)
    have put := consistent_putBy database.backend consistent others triaged
    rw [← isPut] at put
    have rest := ih put
      (fun key member => by
        rw [isPut]
        apply current_putBy consistent isStable triaged mine
          (current key (List.mem_cons_of_mem _ member))
        rw [isKey]
        exact separate _ List.mem_cons_self key (List.mem_cons_of_mem _ member))
      (fun left inLeft right inRight =>
        separate left (List.mem_cons_of_mem _ inLeft) right (List.mem_cons_of_mem _ inRight))
    rw [List.foldl_cons]
    apply rest.of_iff
    intro key
    rw [List.map_cons, List.mem_cons, isKey, or_assoc]

theorem consistent_recordScan {content : Bytes} {result : ScanResult} {target : ScanTarget}
    (consistent : Consistent (allFindings tables tenant) last seen)
    (current : ∀ key ∈ result.findings.map Finding.key,
      database.Current (allFindings tables tenant) key)
    (separate : database.Separate (result.findings.map Finding.key)) :
    Consistent (allFindings (database.recordScan tables tenant scanId clock content result target)
      tenant) last fun key => seen key ∨ key ∈ result.findings.map Finding.key := by
  have keys : result.findings.map Finding.key =
      result.findings.zipIdx.map fun entry => entry.1.key := by
    conv_lhs => rw [← List.zipIdx_map_fst 0 result.findings, List.map_map]
    rfl
  rw [keys] at current separate ⊢
  have inserted : ∀ statement,
      allFindings (tables.exec .scans statement) tenant = allFindings tables tenant :=
    fun statement => allFindings_of_table (Tables.exec_of_ne (by decide)) tenant
  apply consistent_recordFindings
  · rwa [inserted]
  · rwa [inserted]
  · exact separate

end Scan

section Triage

variable {record after : FindingRecord}

theorem consistent_triage (consistent : Consistent records last seen)
    (isNewest : newest record.key records = some record) (sameId : after.id = record.id)
    (sameKey : after.key = record.key) :
    Consistent (replace FindingRecord.id after records)
      (Function.update last record.key after.triage)
      seen := by
  have member := (mem_of_newest isNewest).1
  have others : ∀ old ∈ records, old.id = after.id → old.key = after.key := by
    intro old isOld same
    rw [consistent.ids.eq_of_key_eq isOld member (same.trans sameId), sameKey]
  have newestAfter : ∀ key, newest key (replace FindingRecord.id after records) =
      if key = record.key then some after else newest key records := by
    intro key
    rw [newest_replace others]
    split_ifs with own
    · rw [own, isNewest, Option.map_some, if_pos sameId.symm]
    · cases isOld : newest key records with
      | none => rfl
      | some old =>
        rcases mem_of_newest isOld with ⟨inOld, oldKey⟩
        have differ : old.id ≠ after.id :=
          fun same => own (oldKey.symm.trans ((others old inOld same).trans sameKey))
        rw [Option.map_some, if_neg differ]
  constructor
  · exact keyed_replace consistent.ids
  · intro key
    rw [triageOf, newestAfter]
    split_ifs with own
    · rw [own, Function.update_self]
      rfl
    · rw [Function.update_of_ne own]
      exact consistent.triaged key
  · intro key
    rw [← consistent.present, newestAfter]
    split_ifs with own
    · rw [own, isNewest]
      rfl
    · rfl

end Triage

section Migration

variable {key : FindingKey}

theorem rowsOf_eq_of_length (short : (rowsOf key records).length ≤ 1) :
    rowsOf key records = (newest key records).toList := by
  rw [newest]
  generalize rowsOf key records = rows at short ⊢
  cases rows with
  | nil => rfl
  | cons record rest =>
    have none : rest = [] := by
      rw [List.length_cons] at short
      exact List.eq_nil_of_length_eq_zero (by omega)
    rw [none]
    rfl

variable (database) in
def rekey (record : FindingRecord) : FindingRecord :=
  { record with id := database.stableId record.key }

theorem filter_stableId {old : FindingRecord} (member : old ∈ records)
    (separate : database.Separate (records.map FindingRecord.key)) :
    (records.filter fun record => database.stableId record.key = database.stableId old.key) =
      rowsOf old.key records := by
  apply List.filter_congr
  intro record inRecords
  rw [decide_eq_decide]
  constructor
  · exact separate _ (List.mem_map_of_mem inRecords) _ (List.mem_map_of_mem member)
  · intro same
    rw [same]

theorem mem_newestFindings {record : FindingRecord}
    (separate : database.Separate (records.map FindingRecord.key)) :
    record ∈ database.newestFindings records ↔
      ∃ old, newest old.key records = some old ∧ record = database.rekey old := by
  rw [newestFindings_eq, List.mem_filterMap]
  constructor
  · rintro ⟨group, member, isRecord⟩
    rcases isSome_last member with ⟨old, isLast, inRecords, isId⟩
    rw [isLast, Option.map_some, Option.some_inj] at isRecord
    refine ⟨old, ?_, ?_⟩
    · rw [newest, ← filter_stableId inRecords separate, ← isId, ← isLast]
      rw [(Collections.mem_groupOn.mp member).1]
    · rw [← isRecord, isId, rekey]
  · rintro ⟨old, isNewest, rfl⟩
    have inRecords := (mem_of_newest isNewest).1
    refine ⟨_, Collections.groupOn_of_mem inRecords, ?_⟩
    rw [filter_stableId inRecords separate, ← newest, isNewest]
    rfl

theorem length_newestFindings_iff : (database.newestFindings records).length = records.length ↔
      (records.map fun record => database.stableId record.key).Nodup := by
  have count := congrArg List.length (@ids_newestFindings database records)
  rw [List.length_map, List.length_map] at count
  rw [count, Collections.length_groupOn_eq_iff]

theorem rowsOf_newestFindings
    (separate : database.Separate (records.map FindingRecord.key)) (key : FindingKey) :
    rowsOf key (database.newestFindings records) =
      ((newest key records).map database.rekey).toList := by
  have mem : ∀ record, record ∈ rowsOf key (database.newestFindings records) ↔
      ∃ old, newest key records = some old ∧ record = database.rekey old := by
    intro record
    rw [rowsOf, List.mem_filter, decide_eq_true_eq, mem_newestFindings separate]
    constructor
    · rintro ⟨⟨old, isNewest, rfl⟩, rfl⟩
      exact ⟨old, isNewest, rfl⟩
    · rintro ⟨old, isNewest, rfl⟩
      obtain rfl : old.key = key := (mem_of_newest isNewest).2
      exact ⟨⟨old, isNewest, rfl⟩, rfl⟩
  cases isNewest : newest key records with
  | none =>
    apply List.eq_nil_iff_forall_not_mem.mpr
    intro record member
    rcases (mem record).mp member with ⟨old, isOld, _⟩
    rw [isNewest] at isOld
    cases isOld
  | some old =>
    have once : (rowsOf key (database.newestFindings records)).Nodup := by
      apply List.Nodup.filter
      apply List.Nodup.of_map FindingRecord.id
      exact keyed_newestFindings
    apply List.perm_singleton.mp
    rw [List.perm_ext_iff_of_nodup once (List.nodup_singleton _)]
    intro record
    rw [mem, isNewest]
    simp

theorem consistent_collapsed (consistent : Consistent records last seen)
    (separate : database.Separate (records.map FindingRecord.key)) :
    Consistent (database.collapsed records) last seen ∧
      ∀ key, rowsOf key (database.collapsed records) =
        (newest key (database.collapsed records)).toList := by
  rw [Database.collapsed]
  split_ifs with same
  · refine ⟨consistent, fun key => rowsOf_eq_of_length ?_⟩
    rw [length_newestFindings_iff] at same
    have once : ((rowsOf key records).map fun record => database.stableId record.key).Nodup :=
      same.sublist (List.filter_sublist.map _)
    have constant : ((rowsOf key records).map fun record => database.stableId record.key) =
        List.replicate (rowsOf key records).length (database.stableId key) := by
      rw [List.eq_replicate_iff, List.length_map]
      refine ⟨rfl, fun id member => ?_⟩
      rcases List.mem_map.mp member with ⟨record, inRows, rfl⟩
      rw [rowsOf, List.mem_filter, decide_eq_true_eq] at inRows
      rw [inRows.2]
    rw [constant, List.nodup_replicate] at once
    exact once
  · have newestAfter : ∀ key, newest key (database.newestFindings records) =
        (newest key records).map database.rekey := by
      intro key
      rw [newest, rowsOf_newestFindings separate]
      cases newest key records <;> rfl
    refine ⟨⟨?_, ?_, ?_⟩, ?_⟩
    · exact keyed_newestFindings
    · intro key
      rw [← consistent.triaged, triageOf, triageOf, newestAfter, Option.map_map]
      rfl
    · intro key
      rw [← consistent.present, newestAfter, Option.isSome_map]
    · intro key
      rw [newestAfter, rowsOf_newestFindings separate]

end Migration

end Database

end QuantaWatch.Store
