import QuantaWatch.Store.Tickets
import QuantaWatch.Store.Triage

/-!
Triage over runs of the store.
-/

namespace QuantaWatch.Store

open Crypto Lib.Encoding Lib.Transition Scanner

structure TriageState where
  tables : Tables
  last : String → FindingKey → Triage
  seen : String → FindingKey → Prop

namespace TriageState

variable {database : Database}

def start (tables : Tables) : TriageState where
  tables
  last tenant key := triageOf key (Database.allFindings tables tenant)
  seen tenant key := ∃ record ∈ Database.allFindings tables tenant, record.key = key

def noted (state : TriageState) : StoreOp → String → FindingKey → Triage
  | .setFindingStatus tenant id status note =>
    match Database.getFinding state.tables tenant id with
    | none => state.last
    | some record =>
      Function.update state.last tenant
        (Function.update (state.last tenant) record.key (status, note))
  | _ => state.last

def met (state : TriageState) : StoreOp → String → FindingKey → Prop
  | .recordScan tenant _ _ _ result _ => fun who key =>
    state.seen who key ∨ who = tenant ∧ key ∈ result.findings.map Finding.key
  | _ => state.seen

variable (database) in
def step (state : TriageState) (op : StoreOp) : TriageState where
  tables := database.apply state.tables op
  last := state.noted op
  seen := state.met op

variable (database) in
def Fits (state : TriageState) : StoreOp → Prop
  | .recordScan tenant _ _ _ result _ =>
    (∀ key ∈ result.findings.map Finding.key,
      database.Current (Database.allFindings state.tables tenant) key) ∧
    database.Separate (result.findings.map Finding.key)
  | .setFindingStatus tenant id _ _ =>
    ∀ record, Database.getFinding state.tables tenant id = some record →
      newest record.key (Database.allFindings state.tables tenant) = some record
  | .dedupeFindings =>
    ∀ tenant,
      database.Separate ((Database.allFindings state.tables tenant).map FindingRecord.key)
  | op => .findings ∉ op.writes

def AllConsistent (state : TriageState) : Prop :=
  ∀ tenant,
    Consistent (Database.allFindings state.tables tenant) (state.last tenant) (state.seen tenant)

variable {state : TriageState} {op : StoreOp}

theorem start_consistent {tables : Tables}
    (unique : ∀ tenant, ((Database.allFindings tables tenant).map FindingRecord.id).Nodup) :
    (start tables).AllConsistent := by
  intro tenant
  refine ⟨unique tenant, fun key => rfl, fun key => ?_⟩
  rw [← not_iff_not, Bool.not_eq_true, Option.isSome_eq_false_iff, Option.isNone_iff_eq_none]
  simp [start, newest_eq_none_iff]

variable {tenant id : String} {status : FindingStatus} {note : Option String}

theorem recordScan_consistent {scanId : String} {clock : Nat → DateTime} {content : Bytes}
    {result : ScanResult} {target : ScanTarget}
    (fits : state.Fits database (.recordScan tenant scanId clock content result target))
    (consistent : state.AllConsistent) :
    (state.step database
      (.recordScan tenant scanId clock content result target)).AllConsistent := by
  intro who
  by_cases same : who = tenant
  · subst same
    apply (Database.consistent_recordScan (consistent who) fits.1 fits.2).of_iff
    intro key
    simp only [step, met, true_and]
  · show Consistent (Database.allFindings (database.recordScan state.tables tenant scanId clock
      content result target) who) _ _
    rw [Database.allFindings_recordScan_ne same]
    apply (consistent who).of_iff
    intro key
    simp only [step, met, same, false_and, or_false]

theorem setFindingStatus_consistent
    (fits : state.Fits database (.setFindingStatus tenant id status note))
    (consistent : state.AllConsistent) :
    (state.step database (.setFindingStatus tenant id status note)).AllConsistent := by
  intro who
  show Consistent
    (Database.allFindings (Database.setFindingStatus state.tables tenant id status note).2 who)
    (state.noted (.setFindingStatus tenant id status note) who) (state.seen who)
  rw [Database.setFindingStatus, noted]
  cases found : Database.getFinding state.tables tenant id with
  | none => exact consistent who
  | some record =>
    by_cases same : who = tenant
    · subst same
      simp only [Database.allFindings_updateFinding, Function.update_self]
      exact Database.consistent_triage (consistent who) (fits record found) rfl rfl
    · simp only [Database.allFindings_updateFinding_ne _ same, Function.update_of_ne same]
      exact consistent who

theorem dedupeFindings_consistent (fits : state.Fits database .dedupeFindings)
    (consistent : state.AllConsistent) : (state.step database .dedupeFindings).AllConsistent ∧
      ∀ tenant key, rowsOf key
        (Database.allFindings (state.step database .dedupeFindings).tables tenant) =
          (newest key (Database.allFindings (state.step database .dedupeFindings).tables
            tenant)).toList := by
  have each := fun tenant => Database.consistent_collapsed (consistent tenant) (fits tenant)
  have after : ∀ tenant,
      Database.allFindings (state.step database .dedupeFindings).tables tenant =
        database.collapsed (Database.allFindings state.tables tenant) :=
    Database.allFindings_dedupeFindings state.tables
  constructor
  · intro tenant
    rw [after]
    exact (each tenant).1
  · intro tenant
    rw [after]
    exact (each tenant).2

theorem frame_consistent (elsewhere : .findings ∉ op.writes)
    (sameLast : state.noted op = state.last) (sameSeen : state.met op = state.seen)
    (consistent : state.AllConsistent) : (state.step database op).AllConsistent := by
  intro tenant
  rw [step, sameLast, sameSeen, Database.allFindings_of_table (Database.table_apply elsewhere)]
  exact consistent tenant

theorem step_consistent (fits : state.Fits database op) (consistent : state.AllConsistent) :
    (state.step database op).AllConsistent := by
  cases op
  case recordScan => exact recordScan_consistent fits consistent
  case setFindingStatus => exact setFindingStatus_consistent fits consistent
  case dedupeFindings => exact (dedupeFindings_consistent fits consistent).1
  -- the others leave the table alone
  all_goals exact frame_consistent fits rfl rfl consistent

/-- After the migration there is one row for each finding, and it has the triage on record. -/
theorem rows_after_migration {tables : Tables} {ops : List StoreOp} {final : TriageState}
    (unique : ∀ tenant, ((Database.allFindings tables tenant).map FindingRecord.id).Nodup)
    (run : Run (step database) (Fits database) (start tables) (ops ++ [.dedupeFindings]) final)
    (tenant : String) (key : FindingKey) :
    (final.seen tenant key →
      (rowsOf key (Database.allFindings final.tables tenant)).map FindingRecord.triage =
        [final.last tenant key]) ∧
      (¬ final.seen tenant key → rowsOf key (Database.allFindings final.tables tenant) = []) := by
  rcases run.split with ⟨before, first, migration⟩
  have consistent := first.invariant (fun _ _ fits => step_consistent fits)
    (start_consistent unique)
  cases migration with
  | cons fits rest =>
    cases rest
    rcases dedupeFindings_consistent fits consistent with ⟨after, once⟩
    exact (after tenant).rows (once tenant key)

def legacyRow (id : String) : FindingRecord where
  id
  scanId := "old"
  category := .weakAlgorithm
  severity := .high
  title := "Weak key"
  description := ""
  assetType := .signingKey
  algorithm := some "RSA"
  pqcStatus := .classicalWeak
  location := "a.rs"
  remediation := none
  createdAt := ⟨0⟩
  confidence := .high
  evidence := []
  status := .opened
  note := none

def legacyTables (ids : List String) : Tables :=
  ids.foldl (fun tables id => tables.exec .findings (.insert ⟨"acme", "old", legacyRow id⟩)) .empty

def rescan : StoreOp :=
  .recordScan "acme" "new" (fun _ => ⟨1⟩) []
    { scannerId := "code"
      targetId := "t"
      startedAt := ⟨1⟩
      completedAt := ⟨1⟩
      findings :=
        [{ category := .weakAlgorithm
           severity := .high
           title := "Weak key"
           description := ""
           asset := ⟨.signingKey, some "RSA", some 1024, none, "a.rs", "code", ⟨1⟩⟩
           remediation := none
           pqcStatus := .classicalWeak
           metadata := [] }]
      status := .completed }
    ⟨"t", .codeDirectory, "/src", []⟩

def outcome (ids : List String) (ops : List StoreOp) : Triage × List Triage :=
  let final := ops.foldl (step (Database.sampleDatabase .sqlite)) (start (legacyTables ids))
  (final.last "acme" ("a.rs", "Weak key"),
    (rowsOf ("a.rs", "Weak key") (Database.allFindings final.tables "acme")).map
      FindingRecord.triage)

theorem triage_lost :
    outcome ["r1"] [.dedupeFindings, .setFindingStatus "acme" "r1" .suppressed none, rescan,
      .dedupeFindings] = ((.suppressed, none), [(.opened, none)]) ∧
    outcome ["r1", "r2"] [.setFindingStatus "acme" "r1" .suppressed none, .dedupeFindings] =
      ((.suppressed, none), [(.opened, none)]) := by
  decide +kernel

def allRecords (tables : Tables) : List FindingRecord :=
  (tables.table .findings).contents.map fun row => row.data.record

theorem allFindings_sublist (tables : Tables) (tenant : String) :
    (Database.allFindings tables tenant).Sublist (allRecords tables) := by
  rw [Database.allFindings_eq]
  exact List.filter_sublist.map _

theorem fits_dedupeFindings
    (separate : ∀ left ∈ allRecords state.tables, ∀ right ∈ allRecords state.tables,
      database.stableId left.key = database.stableId right.key → left.key = right.key) :
    state.Fits database .dedupeFindings := by
  intro tenant left inLeft right inRight
  rcases List.mem_map.mp inLeft with ⟨leftRecord, isLeft, rfl⟩
  rcases List.mem_map.mp inRight with ⟨rightRecord, isRight, rfl⟩
  exact separate _ ((allFindings_sublist _ _).subset isLeft) _
    ((allFindings_sublist _ _).subset isRight)

theorem fits_setFindingStatus
    (isNewest : (Database.getFinding state.tables tenant id).all (fun record =>
      newest record.key (Database.allFindings state.tables tenant) = some record) = true) :
    state.Fits database (.setFindingStatus tenant id status note) := by
  intro record found
  rw [found, Option.all_some, decide_eq_true_eq] at isNewest
  exact isNewest

def migratedFirst : List StoreOp :=
  [.dedupeFindings,
    .setFindingStatus "acme" ((Database.sampleDatabase .postgres).stableId ("a.rs", "Weak key"))
      .suppressed (some "accepted"),
    rescan, .dedupeFindings]

theorem suppressed_row_survives :
    let final := migratedFirst.foldl (step (Database.sampleDatabase .postgres))
      (start (legacyTables ["r1", "r2"]))
    (rowsOf ("a.rs", "Weak key") (Database.allFindings final.tables "acme")).map
      FindingRecord.triage = [(.suppressed, some "accepted")] := by
  have unique : ∀ tenant, ((Database.allFindings (legacyTables ["r1", "r2"]) tenant).map
      FindingRecord.id).Nodup := by
    intro tenant
    refine List.Nodup.sublist ((allFindings_sublist _ tenant).map FindingRecord.id) ?_
    decide
  have run : Run (step (Database.sampleDatabase .postgres))
      (Fits (Database.sampleDatabase .postgres)) (start (legacyTables ["r1", "r2"]))
      (migratedFirst.dropLast ++ [StoreOp.dedupeFindings])
      (migratedFirst.foldl (step (Database.sampleDatabase .postgres))
        (start (legacyTables ["r1", "r2"]))) := by
    refine .cons (fits_dedupeFindings (by decide +kernel))
      (.cons (fits_setFindingStatus (by decide +kernel)) (.cons ?_
        (.cons (fits_dedupeFindings (by decide +kernel)) (.nil _))))
    refine ⟨fun key member => ?_, ?_⟩
    · obtain rfl : key = ("a.rs", "Weak key") := by simpa [Finding.key] using member
      exact ⟨by decide +kernel, by decide +kernel⟩
    · intro left inLeft right inRight _
      rw [List.mem_singleton.mp inLeft, List.mem_singleton.mp inRight]
  have rows := (rows_after_migration unique run "acme" ("a.rs", "Weak key")).1
  apply rows
  exact .inl ⟨legacyRow "r1", by decide +kernel, rfl⟩

end TriageState

end QuantaWatch.Store
