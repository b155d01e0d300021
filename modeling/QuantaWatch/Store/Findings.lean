import QuantaWatch.Lib.KeyedList
import QuantaWatch.Store.Isolation

/-!
What the operations of the store do to the findings of one tenant.
-/

namespace QuantaWatch.Scanner

abbrev FindingKey := String × String

def Finding.key (finding : Finding) : FindingKey := (finding.asset.path, finding.title)

def FindingRecord.key (record : FindingRecord) : FindingKey := (record.location, record.title)

end QuantaWatch.Scanner

namespace QuantaWatch.Store

open Crypto Lib Lib.Encoding Lib.KeyedList Lib.SqlTable Scanner

section PutBy

variable {α β : Type}

def putBy (backend : Backend) (key : α → String) (item : α) (items : List α) : List α :=
  match backend with
  | .sqlite => putLast key item items
  | .postgres => putInPlace key item items

variable {backend : Backend} {key : α → String} {item other : α} {items : List α}

theorem keyed_putBy (keyed : Keyed key items) : Keyed key (putBy backend key item items) := by
  cases backend with
  | sqlite => exact keyed_putLast keyed
  | postgres => exact keyed_putInPlace keyed

theorem find_putBy_ne {wanted : String} (differ : key item ≠ wanted) :
    (putBy backend key item items).find? (fun old => key old = wanted) =
      items.find? fun old => key old = wanted := by
  cases backend with
  | sqlite => exact find_putLast_ne differ
  | postgres => exact find_putInPlace_ne differ

theorem mem_putBy : other ∈ putBy backend key item items ↔
    other = item ∨ other ∈ items ∧ key other ≠ key item := by
  cases backend with
  | sqlite => exact mem_putLast
  | postgres => exact mem_putInPlace

theorem mem_putBy_self : item ∈ putBy backend key item items := mem_putBy.mpr (.inl rfl)

end PutBy

namespace Database

section OnRows

variable {database : Database} {tenant : String} {δ : Type} {rows : List (Row δ)}

theorem onRows_putKeyed (key : δ → String) (data : δ) (mine : ∀ row ∈ rows, row.tenant = tenant) :
    (database.putKeyed key tenant data).onRows rows =
      putBy database.backend (fun row => key row.data) ⟨tenant, data⟩ rows := by
  have conflicts : ∀ row ∈ rows,
      (decide (row.tenant = tenant) && decide (key row.data = key data)) =
        decide (key row.data = key data) := by
    intro row member
    simp [mine row member]
  unfold putKeyed put putBy
  cases database.backend with
  | sqlite =>
    simp only [Statement.onRows, KeyedList.putLast]
    congr 1
    apply List.filter_congr
    intro row member
    rw [conflicts row member]
    simp
  | postgres =>
    have found : (rows.any fun row =>
        decide (row.tenant = tenant) && decide (key row.data = key data)) =
        rows.any fun row => key row.data = key data := by
      rw [Bool.eq_iff_iff, List.any_eq_true, List.any_eq_true]
      refine exists_congr fun row => and_congr_right fun member => ?_
      rw [conflicts row member]
    simp only [Statement.onRows, found, putInPlace, replace]
    split_ifs
    · apply List.map_congr_left
      intro row member
      rw [changeIf, conflicts row member, mine row member]
      simp only [decide_eq_true_eq]
    · rfl

theorem onRows_deleteKeyed (key : δ → String) (id : String)
    (mine : ∀ row ∈ rows, row.tenant = tenant) :
    (deleteKeyed key tenant id).onRows rows = rows.filter fun row => key row.data ≠ id := by
  apply List.filter_congr
  intro row member
  simp [mine row member]

end OnRows

end Database

variable {tables : Tables} {tenant : String} {name : TableName}

theorem Tables.tenant_of_mem_share {row : Row name.Data} (member : row ∈ tables.share tenant name) :
    row.tenant = tenant := by
  simpa using (List.mem_filter.mp member).2

theorem Tables.mem_rows_putKeyed {database : Database} {key : name.Data → String}
    {data row : name.Data} :
    row ∈ (tables.exec name (database.putKeyed key tenant data)).rows tenant name ↔
      row = data ∨ row ∈ tables.rows tenant name ∧ key row ≠ key data := by
  rw [rows_eq, rows_eq, share_exec (Database.confined_putKeyed _ _ _),
    Database.onRows_putKeyed key data fun _ member => tenant_of_mem_share member]
  simp only [List.mem_map, mem_putBy]
  constructor
  · rintro ⟨entry, rfl | ⟨member, differ⟩, rfl⟩
    · exact .inl rfl
    · exact .inr ⟨⟨entry, member, rfl⟩, differ⟩
  · rintro (rfl | ⟨⟨entry, member, rfl⟩, differ⟩)
    · exact ⟨_, .inl rfl, rfl⟩
    · exact ⟨entry, .inr ⟨member, differ⟩, rfl⟩

namespace Database

variable {database : Database} {tables : Tables} {tenant other : String}

def stableId (database : Database) (key : FindingKey) : String :=
  database.stableFindingId key.1 key.2

theorem allFindings_eq (tables : Tables) (tenant : String) : allFindings tables tenant =
      (tables.share tenant .findings).map fun row => row.data.record := by
  rw [allFindings, Tables.rows_eq, List.map_map]
  rfl

theorem allFindings_of_table {left right : Tables}
    (same : left.table .findings = right.table .findings) (tenant : String) :
    allFindings left tenant = allFindings right tenant := by
  rw [allFindings_eq, allFindings_eq, Tables.share, Tables.share, same]

section RecordFinding

variable {scanId scannerId : String} {createdAt : DateTime} {finding : Finding}

theorem share_recordFinding :
    (database.recordFinding tables tenant scanId scannerId createdAt finding).share tenant
        .findings =
      putBy database.backend (fun row => row.data.record.id)
        ⟨tenant, scanId, database.findingRecord scanId scannerId createdAt finding
          (getFinding tables tenant
            (database.stableFindingId finding.asset.path finding.title))⟩
        (tables.share tenant .findings) := by
  rw [recordFinding, Tables.share_exec (confined_putKeyed _ _ _),
    onRows_putKeyed _ _ fun _ member => Tables.tenant_of_mem_share member]

theorem share_recordFinding_ne (differ : other ≠ tenant) :
    (database.recordFinding tables tenant scanId scannerId createdAt finding).share other
        .findings = tables.share other .findings := by
  rw [recordFinding, Tables.share_exec_ne (confined_putKeyed _ _ _) differ]

theorem map_record_putBy {backend : Backend} {row : Row FindingRow} {rows : List (Row FindingRow)} :
    (putBy backend (fun row => row.data.record.id) row rows).map (fun row => row.data.record) =
      putBy backend FindingRecord.id row.data.record (rows.map fun row => row.data.record) := by
  cases backend with
  | sqlite =>
    simp only [putBy, KeyedList.putLast, List.map_append, List.filter_map]
    rfl
  | postgres =>
    simp only [putBy, putInPlace, replace, List.any_map, Function.comp_def]
    split_ifs
    · rw [List.map_map, List.map_map]
      apply List.map_congr_left
      intro old _
      simp only [Function.comp_apply]
      split_ifs <;> rfl
    · rw [List.map_append]
      rfl

theorem allFindings_recordFinding :
    allFindings (database.recordFinding tables tenant scanId scannerId createdAt finding) tenant =
      putBy database.backend FindingRecord.id
        (database.findingRecord scanId scannerId createdAt finding
          (getFinding tables tenant
            (database.stableFindingId finding.asset.path finding.title)))
        (allFindings tables tenant) := by
  rw [allFindings_eq, share_recordFinding, map_record_putBy, ← allFindings_eq]

variable (database scanId scannerId) in
def recordAll (clock : Nat → DateTime) (findings : List Finding) (records : List FindingRecord) :
    List FindingRecord :=
  findings.zipIdx.foldl
    (fun records entry =>
      putBy database.backend FindingRecord.id
        (database.findingRecord scanId scannerId (clock entry.2) entry.1
          (records.find? fun record => record.id = database.stableId entry.1.key))
        records)
    records

variable {clock : Nat → DateTime} {content : Bytes} {result : ScanResult} {target : ScanTarget}

theorem allFindings_recordScan :
    allFindings (database.recordScan tables tenant scanId clock content result target) tenant =
      database.recordAll scanId result.scannerId clock result.findings
        (allFindings tables tenant) := by
  have each : ∀ (entries : List (Finding × Nat)) (tables : Tables),
      allFindings (entries.foldl (fun tables entry =>
        database.recordFinding tables tenant scanId result.scannerId (clock entry.2) entry.1)
        tables) tenant =
      entries.foldl (fun records entry =>
        putBy database.backend FindingRecord.id
          (database.findingRecord scanId result.scannerId (clock entry.2) entry.1
            (records.find? fun record => record.id = database.stableId entry.1.key)) records)
        (allFindings tables tenant) := by
    intro entries
    induction entries with
    | nil => exact fun _ => rfl
    | cons entry entries ih =>
      intro tables
      rw [List.foldl_cons, ih, allFindings_recordFinding]
      rfl
  rw [recordScan, each, recordAll, allFindings_of_table (Tables.exec_of_ne (by decide))]

theorem share_recordScan_ne (differ : other ≠ tenant) :
    (database.recordScan tables tenant scanId clock content result target).share other .findings =
      tables.share other .findings := by
  have each : ∀ (entries : List (Finding × Nat)) (tables : Tables),
      (entries.foldl (fun tables entry =>
        database.recordFinding tables tenant scanId result.scannerId (clock entry.2) entry.1)
        tables).share other .findings = tables.share other .findings := by
    intro entries
    induction entries with
    | nil => exact fun _ => rfl
    | cons entry entries ih =>
      intro tables
      rw [List.foldl_cons, ih, share_recordFinding_ne differ]
  rw [recordScan, each, Tables.share, Tables.exec_of_ne (by decide), Tables.share]

theorem allFindings_recordScan_ne (differ : other ≠ tenant) :
    allFindings (database.recordScan tables tenant scanId clock content result target) other =
      allFindings tables other := by
  rw [allFindings_eq, share_recordScan_ne differ, ← allFindings_eq]

end RecordFinding

variable (record : FindingRecord)

theorem confined_update (rows : List (Row FindingRow)) :
    (Statement.update (fun old : Row FindingRow =>
      decide (old.tenant = tenant) && decide (old.data.record.id = record.id))
        fun old => { old with data := { old.data with record } }).ConfinedTo Row.tenant tenant
      rows := by
  simp +contextual [Statement.ConfinedTo]

def updateRow (record : FindingRecord) (row : Row FindingRow) : Row FindingRow :=
  if row.data.record.id = record.id then { row with data := { row.data with record } } else row

theorem share_updateFinding : (updateFinding tables tenant record).share tenant .findings =
      (tables.share tenant .findings).map (updateRow record) := by
  rw [updateFinding, @Tables.share_exec tables tenant .findings _ (confined_update _ _)]
  apply List.map_congr_left
  intro row member
  simp [changeIf, updateRow, Tables.tenant_of_mem_share member]

theorem share_updateFinding_ne (differ : other ≠ tenant) :
    (updateFinding tables tenant record).share other .findings =
      tables.share other .findings := by
  rw [updateFinding,
    @Tables.share_exec_ne tables other .findings _ .findings tenant (confined_update _ _) differ]

theorem allFindings_updateFinding : allFindings (updateFinding tables tenant record) tenant =
      replace FindingRecord.id record (allFindings tables tenant) := by
  rw [allFindings_eq, share_updateFinding, allFindings_eq, replace, List.map_map, List.map_map]
  apply List.map_congr_left
  intro row _
  simp only [Function.comp_apply, updateRow]
  split_ifs <;> rfl

theorem allFindings_updateFinding_ne (differ : other ≠ tenant) :
    allFindings (updateFinding tables tenant record) other = allFindings tables other := by
  rw [allFindings_eq, share_updateFinding_ne record differ, ← allFindings_eq]

section Newest

variable {records : List FindingRecord}

theorem newestFindings_eq : database.newestFindings records =
      (Collections.groupOn (fun record => database.stableId record.key) records).filterMap
        fun group => group.2.getLast?.map fun record => { record with id := group.1 } := rfl

theorem isSome_last {group : String × List FindingRecord}
    (member : group ∈ Collections.groupOn (fun record => database.stableId record.key) records) :
    ∃ old, group.2.getLast? = some old ∧ old ∈ records ∧
      group.1 = database.stableId old.key := by
  rcases Collections.mem_groupOn.mp (show (group.1, group.2) ∈ _ from member) with
    ⟨isGroup, nonempty⟩
  cases isLast : group.2.getLast? with
  | none => exact absurd (List.getLast?_eq_none_iff.mp isLast) nonempty
  | some old =>
    have inGroup := List.mem_of_getLast? isLast
    rw [isGroup, List.mem_filter, decide_eq_true_eq] at inGroup
    exact ⟨old, rfl, inGroup.1, inGroup.2.symm⟩

theorem ids_newestFindings : (database.newestFindings records).map FindingRecord.id =
      (Collections.groupOn (fun record => database.stableId record.key) records).map Prod.fst := by
  rw [newestFindings_eq, List.map_filterMap, ← List.filterMap_eq_map]
  apply List.filterMap_congr
  intro group member
  rcases isSome_last member with ⟨old, isLast, _⟩
  rw [isLast]
  rfl

theorem keyed_newestFindings : Keyed FindingRecord.id (database.newestFindings records) := by
  rw [Keyed, ids_newestFindings]
  exact Collections.groupOn_keys_nodup _ _

end Newest

theorem confined_insert (data : FindingRow) (rows : List (Row FindingRow)) :
    (Statement.insert (⟨tenant, data⟩ : Row FindingRow)).ConfinedTo Row.tenant tenant rows := rfl

variable (rows : List (Row FindingRow))

theorem confined_delete :
    (Statement.delete fun old : Row FindingRow => decide (old.tenant = tenant)).ConfinedTo
      Row.tenant tenant rows := by
  simp [Statement.ConfinedTo]

def rowOf (tenant : String) (record : FindingRecord) : Row FindingRow :=
  ⟨tenant, record.scanId, record⟩

theorem share_inserts (records : List FindingRecord) (tables : Tables) :
    (records.foldl (fun tables record =>
        tables.exec .findings (.insert ⟨tenant, record.scanId, record⟩)) tables).share tenant
        .findings =
      tables.share tenant .findings ++ records.map (rowOf tenant) := by
  induction records generalizing tables with
  | nil => simp
  | cons record records ih =>
    rw [List.foldl_cons, ih,
      @Tables.share_exec tables tenant .findings _ (confined_insert _ _)]
    simp [Statement.onRows, rowOf]

theorem share_inserts_ne (differ : other ≠ tenant) (records : List FindingRecord)
    (tables : Tables) : (records.foldl (fun tables record =>
        tables.exec .findings (.insert ⟨tenant, record.scanId, record⟩)) tables).share other
        .findings = tables.share other .findings := by
  induction records generalizing tables with
  | nil => rfl
  | cons record records ih =>
    rw [List.foldl_cons, ih,
      @Tables.share_exec_ne tables other .findings _ .findings tenant (confined_insert _ _) differ]

def collapsed (database : Database) (records : List FindingRecord) : List FindingRecord :=
  if (database.newestFindings records).length = records.length then records
  else database.newestFindings records

def collapsedRows (database : Database) (tenant : String) (rows : List (Row FindingRow)) :
    List (Row FindingRow) :=
  let records := rows.map fun row => row.data.record
  if (database.newestFindings records).length = records.length then rows
  else (database.newestFindings records).map (rowOf tenant)

theorem records_collapsedRows :
    (database.collapsedRows tenant rows).map (fun row => row.data.record) =
      database.collapsed (rows.map fun row => row.data.record) := by
  simp only [collapsedRows, collapsed]
  split_ifs
  · rfl
  · rw [List.map_map]
    exact List.map_id _

theorem share_collapse : (database.collapse tenant tables).share tenant .findings =
      database.collapsedRows tenant (tables.share tenant .findings) := by
  simp only [collapse, rewriteFindings, collapsedRows, allFindings_eq]
  split_ifs
  · rfl
  · rw [share_inserts, @Tables.share_exec tables tenant .findings _ (confined_delete _)]
    have gone : (Statement.delete fun old : Row FindingRow => decide (old.tenant = tenant)).onRows
        (tables.share tenant .findings) = [] := by
      rw [Statement.onRows, List.filter_eq_nil_iff]
      intro row member
      simp [Tables.tenant_of_mem_share member]
    rw [gone, List.nil_append]

theorem share_collapse_ne (differ : other ≠ tenant) :
    (database.collapse tenant tables).share other .findings = tables.share other .findings := by
  unfold collapse rewriteFindings
  split_ifs
  · rfl
  · rw [share_inserts_ne differ,
      @Tables.share_exec_ne tables other .findings _ .findings tenant (confined_delete _) differ]

theorem share_collapses_of_notMem {tenants : List String} (absent : tenant ∉ tenants)
    (tables : Tables) :
    (tenants.foldl (fun tables who => database.collapse who tables) tables).share tenant
        .findings = tables.share tenant .findings := by
  induction tenants generalizing tables with
  | nil => rfl
  | cons who tenants ih =>
    rw [List.mem_cons, not_or] at absent
    rw [List.foldl_cons, ih absent.2, share_collapse_ne absent.1]

theorem share_collapses {tenants : List String} (once : tenants.Nodup)
    (present : tenant ∈ tenants) (tables : Tables) :
    (tenants.foldl (fun tables who => database.collapse who tables) tables).share tenant
        .findings = database.collapsedRows tenant (tables.share tenant .findings) := by
  induction tenants generalizing tables with
  | nil => exact absurd present List.not_mem_nil
  | cons who tenants ih =>
    rw [List.nodup_cons] at once
    rw [List.foldl_cons]
    by_cases same : tenant = who
    · subst same
      rw [share_collapses_of_notMem once.1, share_collapse]
    · rw [ih once.2 ((List.mem_cons.mp present).resolve_left same),
        share_collapse_ne same]

theorem share_dedupeFindings (tables : Tables) (tenant : String) :
    (database.dedupeFindings tables).2.share tenant .findings =
      database.collapsedRows tenant (tables.share tenant .findings) := by
  rw [dedupeFindings, foldl_dedupeTenant]
  by_cases present : tenant ∈ ((tables.table .findings).contents.map Row.tenant).dedup
  · exact share_collapses (List.nodup_dedup _) present tables
  · have none : tables.share tenant .findings = [] := by
      rw [Tables.share, part, List.filter_eq_nil_iff]
      intro row member isOf
      apply present
      rw [List.mem_dedup, ← of_decide_eq_true isOf]
      exact List.mem_map_of_mem member
    rw [share_collapses_of_notMem present, none]
    rfl

theorem allFindings_dedupeFindings (tables : Tables) (tenant : String) :
    allFindings (database.dedupeFindings tables).2 tenant =
      database.collapsed (allFindings tables tenant) := by
  rw [allFindings_eq, share_dedupeFindings, records_collapsedRows, ← allFindings_eq]

end Database

end QuantaWatch.Store
