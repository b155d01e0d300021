import QuantaWatch.Store.AuthRows
import QuantaWatch.Store.Recording
import QuantaWatch.Store.Tickets

/-!
The two databases give the same results (`qw-store`).
-/

namespace QuantaWatch.Store

open Crypto Lib Lib.Encoding Lib.KeyedList Lib.SqlTable Lib.Transition Scanner

def Database.on (database : Database) (backend : Backend) : Database := { database with backend }

/-- The same rows, told apart by their keys, in any order. -/
structure SameRows {δ : Type} (key : δ → String) (left right : List (Row δ)) : Prop where
  keyed : Keyed (fun row => key row.data) left
  perm : left.Perm right

def Matches : (name : TableName) → List (Row name.Data) → List (Row name.Data) → Prop
  | .scans => Eq
  | .findings => SameRows fun row : FindingRow => row.record.id
  | .posture => Eq
  | .remediations => Eq
  | .alerts => Eq
  | .sessions => SameRows Document.id
  | .flows => Eq
  | .assets => SameRows Document.id
  | .certificates => SameRows Document.id
  | .targets => SameRows Document.id
  | .connections => SameRows fun row : ConnectionRow => row.id
  | .overlayRoutes => fun _ _ => True
  | .endpoints => SameRows fun row : EndpointRow => row.id
  | .graphSnapshots => Eq

def RowsMatch (left right : Tables) : Prop :=
  ∀ tenant name, Matches name (left.share tenant name) (right.share tenant name)

structure Alike (left right : Tables) : Prop where
  rows : RowsMatch left right
  order : ∀ tenant, (Database.allFindings left tenant).map FindingRecord.id =
    (Database.allFindings right tenant).map FindingRecord.id

section Same

variable {δ : Type} {key : δ → String} {left right : List (Row δ)} {database : Database}
  {tenant : String}

theorem SameRows.nil : SameRows key [] [] := ⟨List.nodup_nil, .nil⟩

theorem SameRows.data (same : SameRows key left right) :
    Keyed key (left.map Row.data) ∧ (left.map Row.data).Perm (right.map Row.data) := by
  refine ⟨?_, same.perm.map _⟩
  rw [Keyed, List.map_map]
  exact same.keyed

theorem SameRows.put (data : δ) (same : SameRows key left right)
    (mineLeft : ∀ row ∈ left, row.tenant = tenant)
    (mineRight : ∀ row ∈ right, row.tenant = tenant) :
    SameRows key (((database.on .sqlite).putKeyed key tenant data).onRows left)
      (((database.on .postgres).putKeyed key tenant data).onRows right) := by
  rw [Database.onRows_putKeyed key data mineLeft, Database.onRows_putKeyed key data mineRight]
  exact ⟨keyed_putLast same.keyed, same.keyed.put_perm same.perm⟩

theorem SameRows.delete (id : String) (same : SameRows key left right)
    (mineLeft : ∀ row ∈ left, row.tenant = tenant)
    (mineRight : ∀ row ∈ right, row.tenant = tenant) :
    SameRows key ((Database.deleteKeyed key tenant id).onRows left)
      ((Database.deleteKeyed key tenant id).onRows right) := by
  rw [Database.onRows_deleteKeyed key id mineLeft, Database.onRows_deleteKeyed key id mineRight]
  exact ⟨same.keyed.sublist List.filter_sublist, same.perm.filter _⟩

end Same

section Steps

variable {database : Database} {left right : Tables} {tenant : String}

private theorem rowsMatch_empty : RowsMatch .empty .empty := by
  intro tenant name
  cases name
  case overlayRoutes => trivial
  all_goals first | exact SameRows.nil | rfl

variable {name : TableName} {key : name.Data → String} {data : name.Data}

theorem RowsMatch.exec {first second : Statement (Row name.Data)} (rowsMatch : RowsMatch left right)
    (confinedLeft : first.ConfinedTo Row.tenant tenant (left.table name).contents)
    (confinedRight : second.ConfinedTo Row.tenant tenant (right.table name).contents)
    (after : Matches name (first.onRows (left.share tenant name))
      (second.onRows (right.share tenant name))) :
    RowsMatch (left.exec name first) (right.exec name second) := by
  intro who other
  by_cases isTenant : who = tenant
  · subst isTenant
    by_cases same : other = name
    · subst same
      rw [Tables.share_exec confinedLeft, Tables.share_exec confinedRight]
      exact after
    · rw [Tables.share, Tables.share, Tables.exec_of_ne same, Tables.exec_of_ne same]
      exact rowsMatch who other
  · rw [Tables.share_exec_ne confinedLeft isTenant, Tables.share_exec_ne confinedRight isTenant]
    exact rowsMatch who other

theorem RowsMatch.putKeyed (listed : Matches name = SameRows key)
    (rowsMatch : RowsMatch left right) (data : name.Data) :
    RowsMatch (left.exec name ((database.on .sqlite).putKeyed key tenant data))
      (right.exec name ((database.on .postgres).putKeyed key tenant data)) := by
  apply rowsMatch.exec (Database.confined_putKeyed _ _ _) (Database.confined_putKeyed _ _ _)
  have same := rowsMatch tenant name
  rw [listed] at same ⊢
  exact same.put data (fun _ => Tables.tenant_of_mem_share) fun _ => Tables.tenant_of_mem_share

theorem RowsMatch.deleteKeyed (listed : Matches name = SameRows key)
    (rowsMatch : RowsMatch left right) (id : String) :
    RowsMatch (left.exec name (Database.deleteKeyed key tenant id))
      (right.exec name (Database.deleteKeyed key tenant id)) := by
  apply rowsMatch.exec (Database.confined_deleteKeyed _ _ _) (Database.confined_deleteKeyed _ _ _)
  have same := rowsMatch tenant name
  rw [listed] at same ⊢
  exact same.delete id (fun _ => Tables.tenant_of_mem_share) fun _ => Tables.tenant_of_mem_share

theorem RowsMatch.execEq {statement : Statement (Row name.Data)} (tenant : String)
    (equal : Matches name = Eq) (rowsMatch : RowsMatch left right)
    (confined : ∀ rows, statement.ConfinedTo Row.tenant tenant rows) :
    RowsMatch (left.exec name statement) (right.exec name statement) := by
  apply rowsMatch.exec (confined _) (confined _)
  have same := rowsMatch tenant name
  rw [equal] at same ⊢
  rw [same]

variable (equal : Matches name = Eq)

include equal

theorem RowsMatch.mem_contents (rowsMatch : RowsMatch left right) {row : Row name.Data}
    (member : row ∈ (right.table name).contents) : row ∈ (left.table name).contents := by
  have same := rowsMatch row.tenant name
  rw [equal] at same
  have mine : row ∈ right.share row.tenant name :=
    List.mem_filter.mpr ⟨member, decide_eq_true rfl⟩
  rw [← same] at mine
  exact List.mem_of_mem_filter mine

theorem RowsMatch.putLast (rowsMatch : RowsMatch left right)
    (own : ∀ row ∈ (left.table name).contents, key row.data = key data → row.tenant = tenant) :
    RowsMatch (left.exec name ((database.on .sqlite).putLast key tenant data))
      (right.exec name ((database.on .postgres).putLast key tenant data)) := by
  have ownRight : ∀ row ∈ (right.table name).contents, key row.data = key data →
      row.tenant = tenant := fun row member => own row (rowsMatch.mem_contents equal member)
  apply rowsMatch.exec
  · exact ⟨rfl, fun old member conflict => own old member (of_decide_eq_true conflict)⟩
  · refine ⟨rfl, fun old member conflict => ?_⟩
    have mine := ownRight old member (of_decide_eq_true conflict)
    exact ⟨mine, mine⟩
  · have same := rowsMatch tenant name
    rw [equal] at same ⊢
    rw [same]
    simp only [Database.putLast, Database.on, Statement.onRows]
    congr 2
    cases found : (right.share tenant name).find? fun old => key old.data = key data with
    | none => rfl
    | some old =>
      have mine := Tables.tenant_of_mem_share (List.mem_of_find?_eq_some found)
      rw [Option.map_some, Option.getD_some, mine]

theorem RowsMatch.putFresh {conflict : Row name.Data → Bool}
    {change : Row name.Data → Row name.Data} (rowsMatch : RowsMatch left right)
    (fresh : ∀ row ∈ (left.table name).contents, conflict row = false) :
    RowsMatch (left.exec name ((database.on .sqlite).put conflict change ⟨tenant, data⟩))
      (right.exec name ((database.on .postgres).put conflict change ⟨tenant, data⟩)) := by
  have freshRight : ∀ row ∈ (right.table name).contents, conflict row = false :=
    fun row member => fresh row (rowsMatch.mem_contents equal member)
  apply rowsMatch.exec
  · refine ⟨rfl, fun old member isConflict => ?_⟩
    rw [fresh old member] at isConflict
    contradiction
  · refine ⟨rfl, fun old member isConflict => ?_⟩
    rw [freshRight old member] at isConflict
    contradiction
  · have same := rowsMatch tenant name
    rw [equal] at same ⊢
    rw [same]
    have free : ∀ row ∈ right.share tenant name, conflict row = false :=
      fun row member => freshRight row (List.mem_of_mem_filter member)
    have none : ¬ ((right.share tenant name).any conflict) = true := by
      simpa using free
    have all : (right.share tenant name).filter (fun old => !conflict old) =
        right.share tenant name :=
      List.filter_eq_self.mpr fun row member => by rw [free row member]; rfl
    simp only [Database.put, Database.on, Statement.onRows, all, if_neg none]

variable (rowsMatch : RowsMatch left right)

include rowsMatch

omit equal

theorem RowsMatch.getFinding (id : String) :
    Database.getFinding left tenant id = Database.getFinding right tenant id := by
  have same := rowsMatch tenant .findings
  rw [Database.getFinding, Database.getFinding, Database.allFindings_eq, Database.allFindings_eq]
  refine Keyed.find_perm ?_ (same.perm.map _)
  rw [Keyed, List.map_map]
  exact same.keyed

theorem RowsMatch.recordFinding (scanId scannerId : String) (createdAt : DateTime)
    (finding : Finding) : RowsMatch
      ((database.on .sqlite).recordFinding left tenant scanId scannerId createdAt finding)
      ((database.on .postgres).recordFinding right tenant scanId scannerId createdAt finding) := by
  rw [Database.recordFinding, Database.recordFinding, rowsMatch.getFinding]
  exact rowsMatch.putKeyed rfl _

theorem RowsMatch.recordScan {scanId : String} {clock : Nat → DateTime} {content : Bytes}
    {result : ScanResult} {target : ScanTarget}
    (fresh : ∀ row ∈ (left.table .scans).contents, row.data.record.id ≠ scanId) : RowsMatch
      ((database.on .sqlite).recordScan left tenant scanId clock content result target)
      ((database.on .postgres).recordScan right tenant scanId clock content result target) := by
  have each : ∀ (entries : List (Finding × Nat)) (left right : Tables), RowsMatch left right →
      RowsMatch
        (entries.foldl (fun tables entry => (database.on .sqlite).recordFinding tables tenant
          scanId result.scannerId (clock entry.2) entry.1) left)
        (entries.foldl (fun tables entry => (database.on .postgres).recordFinding tables tenant
          scanId result.scannerId (clock entry.2) entry.1) right) := by
    intro entries
    induction entries with
    | nil => exact fun _ _ rowsMatch => rowsMatch
    | cons entry entries ih =>
      intro left right rowsMatch
      exact ih _ _ (rowsMatch.recordFinding _ _ _ _)
  apply each
  apply RowsMatch.putFresh rfl rowsMatch
  intro row member
  exact decide_eq_false (fresh row member)

omit rowsMatch

theorem Alike.findings (alike : Alike left right) (tenant : String) :
    left.share tenant .findings = right.share tenant .findings := by
  have same := alike.rows tenant .findings
  apply same.keyed.eq_of_perm same.perm
  have order := alike.order tenant
  rw [Database.allFindings_eq, Database.allFindings_eq, List.map_map, List.map_map] at order
  exact order

theorem RowsMatch.within {changedLeft changedRight : Tables} (name : TableName)
    (rowsMatch : RowsMatch left right)
    (onlyLeft : ∀ other, other ≠ name → changedLeft.table other = left.table other)
    (onlyRight : ∀ other, other ≠ name → changedRight.table other = right.table other)
    (after : ∀ tenant, Matches name (changedLeft.share tenant name)
      (changedRight.share tenant name)) :
    RowsMatch changedLeft changedRight := by
  intro tenant other
  by_cases same : other = name
  · subst same
    exact after tenant
  · rw [Tables.share, Tables.share, onlyLeft other same, onlyRight other same]
    exact rowsMatch tenant other

theorem RowsMatch.updateFinding (rowsMatch : RowsMatch left right) (record : FindingRecord) :
    RowsMatch (Database.updateFinding left tenant record)
      (Database.updateFinding right tenant record) := by
  refine rowsMatch.within .findings (fun _ differ => Tables.exec_of_ne differ)
    (fun _ differ => Tables.exec_of_ne differ) fun who => ?_
  have same := rowsMatch who .findings
  by_cases isTenant : who = tenant
  · subst isTenant
    rw [Database.share_updateFinding, Database.share_updateFinding]
    refine ⟨?_, same.perm.map _⟩
    have ids : ((left.share who .findings).map (Database.updateRow record)).map
        (fun row => row.data.record.id) =
        (left.share who .findings).map fun row => row.data.record.id := by
      rw [List.map_map]
      apply List.map_congr_left
      intro row _
      simp only [Function.comp_apply, Database.updateRow]
      split_ifs with isRow
      · exact isRow.symm
      · rfl
    rw [Keyed, ids]
    exact same.keyed
  · rw [Database.share_updateFinding_ne record isTenant,
      Database.share_updateFinding_ne record isTenant]
    exact same

theorem Alike.updateFinding (alike : Alike left right) (record : FindingRecord) :
    Alike (Database.updateFinding left tenant record)
      (Database.updateFinding right tenant record) where
  rows := alike.rows.updateFinding record
  order who := by
    by_cases isTenant : who = tenant
    · subst isTenant
      rw [Database.allFindings_updateFinding, Database.allFindings_updateFinding, keys_replace,
        keys_replace, alike.order who]
    · rw [Database.allFindings_updateFinding_ne record isTenant,
        Database.allFindings_updateFinding_ne record isTenant, alike.order who]

theorem Alike.setFindingStatus (alike : Alike left right) (id : String) (status : FindingStatus)
    (note : Option String) : Alike (Database.setFindingStatus left tenant id status note).2
      (Database.setFindingStatus right tenant id status note).2 := by
  rw [Database.setFindingStatus, Database.setFindingStatus, alike.rows.getFinding]
  cases Database.getFinding right tenant id with
  | none => exact alike
  | some record => exact alike.updateFinding _

private theorem keyed_collapsedRows {rows : List (Row FindingRow)}
    (keyed : Keyed (fun row => row.data.record.id) rows) :
    Keyed (fun row => row.data.record.id) (database.collapsedRows tenant rows) := by
  have ids : (database.collapsedRows tenant rows).map (fun row => row.data.record.id) =
      (database.collapsed (rows.map fun row => row.data.record)).map FindingRecord.id := by
    rw [← Database.records_collapsedRows, List.map_map]
    rfl
  rw [Keyed, ids, Database.collapsed]
  split_ifs
  · rw [List.map_map]
    exact keyed
  · exact Database.keyed_newestFindings

theorem Alike.dedupeFindings (alike : Alike left right) :
    Alike ((database.on .sqlite).dedupeFindings left).2
      ((database.on .postgres).dedupeFindings right).2 := by
  have after : ∀ tenant, ((database.on .sqlite).dedupeFindings left).2.share tenant .findings =
      ((database.on .postgres).dedupeFindings right).2.share tenant .findings := by
    intro tenant
    rw [Database.share_dedupeFindings, Database.share_dedupeFindings, alike.findings]
    rfl
  constructor
  · apply alike.rows.within .findings
    · intro other differ
      show ((database.on .sqlite).apply left .dedupeFindings).table other = _
      exact Database.table_apply (by simpa [StoreOp.writes] using differ)
    · intro other differ
      show ((database.on .postgres).apply right .dedupeFindings).table other = _
      exact Database.table_apply (by simpa [StoreOp.writes] using differ)
    · intro tenant
      refine ⟨?_, .of_eq (after tenant)⟩
      rw [Database.share_dedupeFindings]
      exact keyed_collapsedRows (alike.rows tenant .findings).keyed
  · intro tenant
    rw [Database.allFindings_eq, Database.allFindings_eq, after]

end Steps

/-- Where the id of a written row stands: SQLite gives the row a new number. -/
def Backend.place : Backend → List String → String → List String
  | .sqlite => moveLast
  | .postgres => keepPlace

theorem keys_putBy {α : Type} {backend : Backend} {key : α → String} {item : α} {items : List α} :
    (putBy backend key item items).map key = backend.place (items.map key) (key item) := by
  cases backend with
  | sqlite => exact keys_putLast
  | postgres => exact keys_putInPlace

namespace Database

variable {database : Database} {tables : Tables} {tenant : String}

private theorem ids_recordAll (scanId scannerId : String) (clock : Nat → DateTime)
    (findings : List Finding) (records : List FindingRecord) :
    (database.recordAll scanId scannerId clock findings records).map FindingRecord.id =
      (findings.map fun finding => database.stableId finding.key).foldl database.backend.place
        (records.map FindingRecord.id) := by
  have each : ∀ (entries : List (Finding × Nat)) (records : List FindingRecord),
      (entries.foldl (fun records entry =>
        putBy database.backend FindingRecord.id
          (database.findingRecord scanId scannerId (clock entry.2) entry.1
            (records.find? fun record => record.id = database.stableId entry.1.key)) records)
        records).map FindingRecord.id =
      (entries.map fun entry => database.stableId entry.1.key).foldl database.backend.place
        (records.map FindingRecord.id) := by
    intro entries
    induction entries with
    | nil => exact fun _ => rfl
    | cons entry entries ih =>
      intro records
      rw [List.foldl_cons, ih, keys_putBy, List.map_cons, List.foldl_cons]
      rfl
  have first : (findings.map fun finding => database.stableId finding.key) =
      findings.zipIdx.map fun entry => database.stableId entry.1.key := by
    conv_lhs => rw [← List.zipIdx_map_fst 0 findings, List.map_map]
    rfl
  rw [recordAll, each, first]

variable (database) in
def SameOrder (tables : Tables) (tenant : String) (findings : List Finding) : Prop :=
  let ids := (allFindings tables tenant).map FindingRecord.id
  let found := findings.map fun finding => database.stableId finding.key
  found.foldl (Backend.place .sqlite) ids = found.foldl (Backend.place .postgres) ids

instance (findings : List Finding) : Decidable (database.SameOrder tables tenant findings) :=
  inferInstanceAs (Decidable (_ = _))

variable (database) in
/-- What is asked of the tables before an operation. -/
def Fits (tables : Tables) : StoreOp → Prop
  | .recordScan tenant scanId _ _ result _ =>
    (∀ row ∈ (tables.table .scans).contents, row.data.record.id ≠ scanId) ∧
      (∀ row ∈ tables.share tenant .scans,
        row.data.completedAt ≠ database.platform.toRfc3339 result.completedAt) ∧
      database.SameOrder tables tenant result.findings
  | .recordRemediation tenant ticket =>
    ∀ row ∈ (tables.table .remediations).contents, row.data.id = ticket.id → row.tenant = tenant
  | .recordAlert tenant alert =>
    ∀ row ∈ (tables.table .alerts).contents, row.data.id = alert.id → row.tenant = tenant
  | _ => True

end Database

section Step

variable {database : Database} {left right : Tables} {op : StoreOp}

theorem Alike.recordScan {tenant scanId : String} {clock : Nat → DateTime} {content : Bytes}
    {result : ScanResult} {target : ScanTarget} (alike : Alike left right)
    (fits : database.Fits left (.recordScan tenant scanId clock content result target)) :
    Alike ((database.on .sqlite).recordScan left tenant scanId clock content result target)
      ((database.on .postgres).recordScan right tenant scanId clock content result target) where
  rows := alike.rows.recordScan fits.1
  order who := by
    by_cases isTenant : who = tenant
    · subst isTenant
      rw [Database.allFindings_recordScan, Database.allFindings_recordScan,
        Database.ids_recordAll, Database.ids_recordAll, ← alike.order who]
      exact fits.2.2
    · rw [Database.allFindings_recordScan_ne isTenant, Database.allFindings_recordScan_ne isTenant,
        alike.order who]

theorem RowsMatch.recordPosture {tenant : String} (rowsMatch : RowsMatch left right)
    (snapshot : PostureSnapshot) : RowsMatch (Database.recordPosture left tenant snapshot)
      (Database.recordPosture right tenant snapshot) := by
  have same : left.share tenant .posture = right.share tenant .posture :=
    rowsMatch tenant .posture
  have latest : Database.latestPosture left tenant = Database.latestPosture right tenant := by
    rw [Database.latestPosture, Database.latestPosture, Tables.rows_eq, Tables.rows_eq, same]
  rw [Database.recordPosture, Database.recordPosture, latest]
  split_ifs
  · exact rowsMatch
  · exact rowsMatch.execEq tenant rfl fun _ => rfl

theorem Alike.of_rowsMatch (alike : Alike left right) (elsewhere : .findings ∉ op.writes)
    (rows : RowsMatch ((database.on .sqlite).apply left op)
      ((database.on .postgres).apply right op)) :
    Alike ((database.on .sqlite).apply left op) ((database.on .postgres).apply right op) where
  rows
  order tenant := by
    rw [Database.allFindings_of_table (Database.table_apply elsewhere),
      Database.allFindings_of_table (Database.table_apply elsewhere), alike.order tenant]

theorem RowsMatch.deleteOverlayRoutesForTarget (rowsMatch : RowsMatch left right)
    (tenant targetId : String) :
    RowsMatch ((database.on .sqlite).deleteOverlayRoutesForTarget left tenant targetId)
      ((database.on .postgres).deleteOverlayRoutesForTarget right tenant targetId) := by
  refine rowsMatch.within .overlayRoutes ?_ ?_ fun _ => trivial
  · intro other differ
    show ((database.on .sqlite).apply left (.deleteOverlayRoutesForTarget tenant targetId)).table
      other = _
    exact Database.table_apply (by simpa [StoreOp.writes] using differ)
  · intro other differ
    show ((database.on .postgres).apply right
      (.deleteOverlayRoutesForTarget tenant targetId)).table other = _
    exact Database.table_apply (by simpa [StoreOp.writes] using differ)

theorem Alike.apply (alike : Alike left right) (fits : database.Fits left op) :
    Alike ((database.on .sqlite).apply left op) ((database.on .postgres).apply right op) := by
  have rows := alike.rows
  cases op
  case recordScan => exact alike.recordScan fits
  case updateFinding => exact alike.updateFinding _
  case setFindingStatus => exact alike.setFindingStatus _ _ _
  case dedupeFindings => exact alike.dedupeFindings
  -- the others leave findings alone
  all_goals refine alike.of_rowsMatch (by simp [StoreOp.writes]) ?_
  case recordPosture => exact rows.recordPosture _
  case recordRemediation => exact rows.putLast rfl fits
  case recordAlert => exact rows.putLast rfl fits
  case upsertSession => exact rows.putKeyed rfl _
  case recordFlow tenant _ _ _ _ _ =>
      exact rows.execEq tenant rfl fun _ => by simp +contextual [Statement.ConfinedTo]
  case upsertAsset => exact rows.putKeyed rfl _
  case deleteAsset => exact rows.deleteKeyed rfl _
  case recordCertificate => exact rows.putKeyed rfl _
  case upsertTarget => exact rows.putKeyed rfl _
  case deleteTarget => exact rows.deleteKeyed rfl _
  case upsertConnection => exact rows.putKeyed rfl _
  case deleteConnection => exact rows.deleteKeyed rfl _
  case recordOverlayRoute =>
      exact rows.exec (Database.confined_putKeyed _ _ _) (Database.confined_putKeyed _ _ _) trivial
  case deleteOverlayRoute =>
      exact rows.exec (Database.confined_deleteKeyed _ _ _) (Database.confined_deleteKeyed _ _ _)
        trivial
  case deleteOverlayRoutesForTarget => exact rows.deleteOverlayRoutesForTarget _ _
  case upsertEndpoint => exact rows.putKeyed rfl _
  case deleteEndpoint => exact rows.deleteKeyed rfl _
  case recordGraphSnapshot tenant _ => exact rows.execEq tenant rfl fun _ => rfl

/-- No two scans of a tenant were completed at the same time. -/
def DatesApart (tables : Tables) : Prop :=
  ∀ tenant, Keyed (fun row => row.data.completedAt) (tables.share tenant .scans)

theorem contents_recordScan {tables : Tables} {tenant scanId : String} {clock : Nat → DateTime}
    {content : Bytes} {result : ScanResult} {target : ScanTarget}
    (fresh : ∀ row ∈ (tables.table .scans).contents, row.data.record.id ≠ scanId) :
    (((database.on .sqlite).recordScan tables tenant scanId clock content result
        target).table .scans).contents =
      (tables.table .scans).contents ++
        [⟨tenant, database.scanRow scanId content result target⟩] := by
  have all : (tables.table .scans).contents.filter
      (fun old => !decide (old.data.record.id = scanId)) = (tables.table .scans).contents :=
    List.filter_eq_self.mpr fun row member => by simp [fresh row member]
  -- the findings go to another table
  have leaves : ∀ (tables : Tables) (entry : Finding × Nat),
      ((database.on .sqlite).recordFinding tables tenant scanId result.scannerId
        (clock entry.2) entry.1).table .scans = tables.table .scans :=
    fun _ _ => Tables.exec_of_ne (by decide)
  rw [Database.recordScan, Tables.table_foldl leaves, Tables.contents_exec_self]
  exact congrArg (· ++ [_]) all

theorem DatesApart.apply {tables : Tables} (apart : DatesApart tables)
    (fits : database.Fits tables op) : DatesApart ((database.on .sqlite).apply tables op) := by
  intro who
  by_cases writes : TableName.scans ∈ op.writes
  · cases op <;> simp [StoreOp.writes] at writes
    case recordScan tenant scanId clock content result target =>
      rw [Tables.share, Database.apply, contents_recordScan fits.1, part_append]
      by_cases same : who = tenant
      · rw [same, part_singleton_self (by rfl), Keyed, List.map_append]
        refine List.nodup_append.mpr ⟨apart tenant, List.nodup_singleton _, ?_⟩
        intro date earlier last isLast
        obtain ⟨row, member, isDate⟩ := List.mem_map.mp earlier
        rw [List.mem_singleton.mp isLast, ← isDate]
        exact fits.2.1 row member
      · rw [part_singleton_ne (by rfl) same, List.append_nil]
        exact apart who
  · rw [Tables.share, Database.table_apply writes]
    exact apart who

end Step

section Reads

variable {database : Database} {left right : Tables} {tenant : String}

private theorem rows_eq_of (name : TableName) (equal : Matches name = Eq)
    (rowsMatch : RowsMatch left right) : left.rows tenant name = right.rows tenant name := by
  have same := rowsMatch tenant name
  rw [equal] at same
  rw [Tables.rows_eq, Tables.rows_eq, same]

section Listed

variable (name : TableName) (key : name.Data → String) (listed : Matches name = SameRows key)
  (rowsMatch : RowsMatch left right)

include listed rowsMatch

private theorem rows_perm_of : Keyed key (left.rows tenant name) ∧
      (left.rows tenant name).Perm (right.rows tenant name) := by
  have same := rowsMatch tenant name
  rw [listed] at same
  rw [Tables.rows_eq, Tables.rows_eq]
  exact same.data

private theorem orderBy_of (collation : Linear database.textLe) :
    (database.on .sqlite).orderBy key (left.rows tenant name) =
      (database.on .postgres).orderBy key (right.rows tenant name) := by
  rcases rows_perm_of name key listed rowsMatch with ⟨keyed, perm⟩
  exact keyed.insertionSort_eq collation perm

private theorem orderByDesc_of (collation : Linear database.textLe) :
    (database.on .sqlite).orderByDesc key (left.rows tenant name) =
      (database.on .postgres).orderByDesc key (right.rows tenant name) := by
  rcases rows_perm_of name key listed rowsMatch with ⟨keyed, perm⟩
  exact keyed.insertionSort_eq collation.flip perm

private theorem find_of (id : String) : (left.rows tenant name).find? (fun row => key row = id) =
      (right.rows tenant name).find? fun row => key row = id := by
  rcases rows_perm_of name key listed rowsMatch with ⟨keyed, perm⟩
  exact keyed.find_perm perm

end Listed

theorem Alike.query (alike : Alike left right) (apart : DatesApart left)
    (collation : Linear database.textLe) (query : StoreQuery) :
    (database.on .sqlite).query left tenant query =
      (database.on .postgres).query right tenant query := by
  have rows := alike.rows
  have findings : left.rows tenant .findings = right.rows tenant .findings := by
    rw [Tables.rows_eq, Tables.rows_eq, alike.findings]
  have endpoints : (database.on .sqlite).listEndpoints left tenant =
      (database.on .postgres).listEndpoints right tenant :=
    congrArg (List.take 10000) (orderBy_of .endpoints _ rfl rows collation)
  cases query with
  | listScans limit =>
    have same := @rows_eq_of left right tenant .scans rfl rows
    have keyed : Keyed ScanRow.completedAt (left.rows tenant .scans) := by
      rw [Tables.rows_eq, Keyed, List.map_map]
      exact apart tenant
    have leftFound := database.scanOrder_perm .sqlite (left.rows tenant .scans)
    have rightFound := database.scanOrder_perm .postgres (right.rows tenant .scans)
    rw [← same] at rightFound
    simp only [Database.query, Database.listScans, ← same]
    exact congrArg (fun rows => (rows.take limit).map ScanRow.record)
      ((keyed.perm leftFound.symm).insertionSort_eq collation.flip
        (leftFound.trans rightFound.symm))
  | getScan id => simp only [Database.query, Database.getScan, rows_eq_of .scans rfl rows]
  | findingsForScan scanId => simp only [Database.query, Database.findingsForScan, findings]
  | allFindings => simp only [Database.query, Database.allFindings, findings]
  | getFinding id =>
    simp only [Database.query, Database.getFinding, Database.allFindings, findings]
  | latestPosture =>
    simp only [Database.query, Database.latestPosture, rows_eq_of .posture rfl rows]
  | postureHistory limit =>
    simp only [Database.query, Database.postureHistory, rows_eq_of .posture rfl rows]
  | listRemediations =>
    simp only [Database.query, Database.listRemediations, rows_eq_of .remediations rfl rows]
  | recentAlerts limit =>
    simp only [Database.query, Database.recentAlerts, rows_eq_of .alerts rfl rows]
  | listSessions limit =>
    exact congrArg (List.take limit) (orderByDesc_of .sessions _ rfl rows collation)
  | listFlows => exact congrArg Multiset.ofList (rows_eq_of .flows rfl rows)
  | listAssets => exact congrArg (List.take 100000) (orderBy_of .assets _ rfl rows collation)
  | listCertificates =>
    exact congrArg (List.take 100000) (orderBy_of .certificates _ rfl rows collation)
  | getCertificate id => exact find_of .certificates _ rfl rows id
  | listTargets => exact congrArg (List.take 100000) (orderBy_of .targets _ rfl rows collation)
  | getTarget id => exact find_of .targets _ rfl rows id
  | listConnections =>
    exact congrArg (fun rows => (rows.take 10000).map database.unsealed)
      (orderBy_of .connections _ rfl rows collation)
  | getConnection id =>
    exact congrArg (Option.map database.unsealed) (find_of .connections _ rfl rows id)
  | listEndpoints => exact endpoints
  | getEndpoint id => exact find_of .endpoints _ rfl rows id
  | findEndpointByHostname hostname =>
    simp only [Database.query, Database.findEndpointByHostname, endpoints]
  | graphTimeline limit =>
    simp only [Database.query, Database.graphTimeline, rows_eq_of .graphSnapshots rfl rows]
  | latestGraphSnapshot =>
    simp only [Database.query, Database.latestGraphSnapshot, rows_eq_of .graphSnapshots rfl rows]

end Reads

inductive Call where
  | onTables (op : StoreOp)
  | onAuth (op : AuthOp)

structure Contents where
  tables : Tables
  auth : AuthRows

structure BothStores where
  sqlite : Contents
  postgres : Contents

namespace BothStores

def empty : BothStores := ⟨⟨.empty, .empty⟩, ⟨.empty, .empty⟩⟩

end BothStores

namespace Database

variable (database : Database)

def perform (contents : Contents) : Call → Contents
  | .onTables op => { contents with tables := database.apply contents.tables op }
  | .onAuth op =>
    { contents with auth := contents.auth.apply database.platform database.backend op }

def performBoth (both : BothStores) (call : Call) : BothStores where
  sqlite := (database.on .sqlite).perform both.sqlite call
  postgres := (database.on .postgres).perform both.postgres call

def CallFits (both : BothStores) : Call → Prop
  | .onTables op => database.Fits both.sqlite.tables op
  | .onAuth op => ∀ username, op = .deleteSessionsForUser username →
      both.sqlite.auth.SameSearch database.platform username

def SameReads (both : BothStores) : Prop :=
  (∀ tenant query, (database.on .sqlite).query both.sqlite.tables tenant query =
    (database.on .postgres).query both.postgres.tables tenant query) ∧
  ∀ query, (database.on .sqlite).queryAuth both.sqlite.auth query =
    (database.on .postgres).queryAuth both.postgres.auth query

end Database

structure BothStores.Alike (both : BothStores) : Prop where
  tables : Store.Alike both.sqlite.tables both.postgres.tables
  apart : DatesApart both.sqlite.tables
  auth : both.sqlite.auth = both.postgres.auth

namespace Database

variable {database : Database} {both : BothStores} {call : Call}

private theorem alike_empty : BothStores.empty.Alike :=
  ⟨⟨rowsMatch_empty, fun _ => rfl⟩, fun _ => List.nodup_nil, rfl⟩

private theorem alike_performBoth (fits : database.CallFits both call) (alike : both.Alike) :
    (database.performBoth both call).Alike := by
  cases call with
  | onTables op => exact ⟨alike.tables.apply fits, alike.apart.apply fits, alike.auth⟩
  | onAuth op =>
    refine ⟨alike.tables, alike.apart, ?_⟩
    show both.sqlite.auth.apply database.platform .sqlite op =
      both.postgres.auth.apply database.platform .postgres op
    rw [← alike.auth]
    exact AuthRows.apply_backend fits

private theorem sameReads_of_alike (collation : Linear database.textLe) (alike : both.Alike) :
    database.SameReads both := by
  refine ⟨fun tenant query => alike.tables.query alike.apart collation query, fun query => ?_⟩
  rw [← alike.auth]
  cases query <;> rfl

/-- In every run whose calls fit, every read has one result on both backends. -/
theorem backends_interchangeable {calls : List Call} {final : BothStores}
    (collation : Linear database.textLe)
    (run : Run database.performBoth database.CallFits .empty calls final) :
    database.SameReads final :=
  sameReads_of_alike collation
    (run.invariant (fun _ _ fits => alike_performBoth fits) alike_empty)

def scanFiles (scanId : String) (completedAt : DateTime) (files : List String) : Call :=
  .onTables (.recordScan "acme" scanId (fun _ => ⟨0⟩) []
    { codeResult (files.map (codeFinding "RSA")) with completedAt } (codeRoot "/srv"))

def sessionOf (username : String) : AuthSession := ⟨username, "viewer", "acme", ⟨0⟩, ⟨0⟩⟩

def ticketOf (tenant : String) : Call :=
  .onTables (.recordRemediation tenant ⟨"r1", "jira", "S-1", "", .opened, "f", ⟨0⟩, ⟨0⟩⟩)

def afterCalls (calls : List Call) : BothStores :=
  calls.foldl (sampleDatabase .sqlite).performBoth .empty

private theorem alice_found : (sessionOf "Alice").namesUser samplePlatform .sqlite "alice" = true ∧
      (sessionOf "Alice").namesUser samplePlatform .postgres "alice" = false := by
  have plain : Json.PlainText "alice".toList := by decide +kernel
  refine ⟨(namesUser_of_plain plain).mpr (by decide +kernel), ?_⟩
  rw [← Bool.not_eq_true, namesUser_of_plain plain]
  decide +kernel

theorem backends_differ :
    ¬ (sampleDatabase .sqlite).SameReads
        (afterCalls [scanFiles "s1" ⟨1⟩ ["a.py", "b.py"], scanFiles "s2" ⟨2⟩ ["a.py"]]) ∧
      ¬ (sampleDatabase .sqlite).SameReads
        (afterCalls [.onAuth (.putAuthSession "t" (sessionOf "Alice")),
          .onAuth (.deleteSessionsForUser "alice")]) ∧
      ¬ (sampleDatabase .sqlite).SameReads
        (afterCalls [ticketOf "acme", ticketOf "globex"]) := by
  refine ⟨?_, ?_, ?_⟩
  · rintro ⟨same, _⟩
    have order := congrArg (List.map FindingRecord.location) (same "acme" .allFindings)
    revert order
    decide +kernel
  · rintro ⟨_, same⟩
    have found := congrArg Option.isSome (same (.getAuthSession "t"))
    revert found
    simp only [afterCalls, List.foldl_cons, List.foldl_nil, performBoth, perform, AuthRows.apply,
      AuthRows.onAuth, queryAuth, AuthStore.getAuthSession, AuthStore.deleteSessionsForUser,
      Collections.lookup_filterRows, AuthStore.putAuthSession, AList.lookup_insert]
    simp only [on, sampleDatabase, Option.filter_some, alice_found]
    decide
  · rintro ⟨same, _⟩
    have tickets := congrArg List.length (same "globex" .listRemediations)
    revert tickets
    decide +kernel

private theorem linear_sample : Linear (sampleDatabase .sqlite).textLe where
  total first second := by
    simp only [sampleDatabase, decide_eq_true_eq]
    exact le_total _ _
  trans first second third := by
    simp only [sampleDatabase, decide_eq_true_eq]
    exact le_trans
  antisymm first second := by
    simp only [sampleDatabase, decide_eq_true_eq]
    exact fun before after => String.toList_inj.mp (le_antisymm before after)

private theorem scanFiles_fits {both : BothStores} {scanId : String} {completedAt : DateTime}
    {files : List String}
    (fresh : ∀ row ∈ (both.sqlite.tables.table .scans).contents, row.data.record.id ≠ scanId)
    (apart : ∀ row ∈ both.sqlite.tables.share "acme" .scans,
      row.data.completedAt ≠ samplePlatform.toRfc3339 completedAt)
    (order : (sampleDatabase .sqlite).SameOrder both.sqlite.tables "acme"
      (files.map (codeFinding "RSA"))) :
    (sampleDatabase .sqlite).CallFits both (scanFiles scanId completedAt files) :=
  ⟨fresh, apart, order⟩

theorem rescan_in_order_interchangeable :
    (sampleDatabase .sqlite).SameReads
      (afterCalls [scanFiles "s1" ⟨1⟩ ["a.py", "b.py"], scanFiles "s2" ⟨2⟩ ["b.py"],
        .onAuth (.putAuthSession "t" (sessionOf "Alice")), .onAuth (.deleteAuthSession "t"),
        scanFiles "s3" ⟨3⟩ ["a.py", "b.py", "c.py"]]) := by
  apply backends_interchangeable linear_sample
  refine .cons (scanFiles_fits ?_ ?_ ?_) (.cons (scanFiles_fits ?_ ?_ ?_) (.cons ?_ (.cons ?_
    (.cons (scanFiles_fits ?_ ?_ ?_) (.nil _)))))
  case refine_7 => exact fun _ isSearch => nomatch isSearch
  case refine_8 => exact fun _ isSearch => nomatch isSearch
  all_goals decide +kernel

end Database

end QuantaWatch.Store
