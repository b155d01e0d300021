import QuantaWatch.Store.Operations

/-!
The table of remediation tickets in every run of the store.
-/

namespace QuantaWatch.Store

open Crypto Lib.Encoding Lib.SqlTable Scanner

def StoreOp.writes : StoreOp → List TableName
  | recordScan .. => [.scans, .findings]
  | updateFinding .. => [.findings]
  | setFindingStatus .. => [.findings]
  | dedupeFindings => [.findings]
  | recordPosture .. => [.posture]
  | recordRemediation .. => [.remediations]
  | recordAlert .. => [.alerts]
  | upsertSession .. => [.sessions]
  | recordFlow .. => [.flows]
  | upsertAsset .. => [.assets]
  | deleteAsset .. => [.assets]
  | recordCertificate .. => [.certificates]
  | upsertTarget .. => [.targets]
  | deleteTarget .. => [.targets]
  | upsertConnection .. => [.connections]
  | deleteConnection .. => [.connections]
  | recordOverlayRoute .. => [.overlayRoutes]
  | deleteOverlayRoute .. => [.overlayRoutes]
  | deleteOverlayRoutesForTarget .. => [.overlayRoutes]
  | upsertEndpoint .. => [.endpoints]
  | deleteEndpoint .. => [.endpoints]
  | recordGraphSnapshot .. => [.graphSnapshots]

theorem Tables.table_foldl {α : Type} {name : TableName} {change : Tables → α → Tables}
    (leaves : ∀ tables item, (change tables item).table name = tables.table name)
    (items : List α) (tables : Tables) :
    (items.foldl change tables).table name = tables.table name := by
  induction items generalizing tables with
  | nil => rfl
  | cons item items ih =>
    rw [List.foldl_cons, ih, leaves]

namespace Database

variable {database : Database} {name : TableName} {tables : Tables} {tenant : String}

theorem table_dedupeFindings (differ : name ≠ .findings) :
    (database.dedupeFindings tables).2.table name = tables.table name := by
  have each : ∀ (tenants : List String) (state : Nat × Tables),
      (tenants.foldl database.dedupeTenant state).2.table name = state.2.table name := by
    intro tenants
    induction tenants with
    | nil => exact fun _ => rfl
    | cons tenant tenants ih =>
      intro state
      rw [List.foldl_cons, ih, dedupeTenant]
      split_ifs
      · rfl
      · rw [Tables.table_foldl fun _ _ => Tables.exec_of_ne differ, Tables.exec_of_ne differ]
  exact each _ _

theorem table_recordScan {scanId : String} {clock : Nat → DateTime} {content : Bytes}
    {result : ScanResult} {target : ScanTarget} (differ : name ≠ .scans)
    (apart : name ≠ .findings) :
    (database.recordScan tables tenant scanId clock content result target).table name =
      tables.table name := by
  exact (Tables.table_foldl (fun _ _ => Tables.exec_of_ne apart) _ _).trans
    (Tables.exec_of_ne differ)

theorem table_setFindingStatus {id : String} {status : FindingStatus}
    {note : Option String} (differ : name ≠ .findings) :
    (setFindingStatus tables tenant id status note).2.table name = tables.table name := by
  rw [setFindingStatus]
  split
  · rfl
  · exact Tables.exec_of_ne differ

theorem table_recordPosture {snapshot : PostureSnapshot} (differ : name ≠ .posture) :
    (recordPosture tables tenant snapshot).table name = tables.table name := by
  rw [recordPosture]
  split_ifs
  · rfl
  · exact Tables.exec_of_ne differ

theorem table_deleteOverlayRoutesForTarget {targetId : String} (differ : name ≠ .overlayRoutes) :
    (database.deleteOverlayRoutesForTarget tables tenant targetId).table name =
      tables.table name := by
  apply Tables.table_foldl
  intro rest route
  split_ifs
  · exact Tables.exec_of_ne differ
  · rfl

theorem table_apply {op : StoreOp} (absent : name ∉ op.writes) :
    (database.apply tables op).table name = tables.table name := by
  cases op <;>
    simp only [StoreOp.writes, List.mem_cons, List.not_mem_nil, or_false, not_or] at absent
  case recordScan => exact table_recordScan absent.1 absent.2
  case setFindingStatus => exact table_setFindingStatus absent
  case dedupeFindings => exact table_dedupeFindings absent
  case recordPosture => exact table_recordPosture absent
  case deleteOverlayRoutesForTarget => exact table_deleteOverlayRoutesForTarget absent
  -- the other operations are one statement
  all_goals exact Tables.exec_of_ne absent

end Database

namespace Tables

variable (tables : Tables)

def tickets : List (Row RemediationTicket) := (tables.table .remediations).contents

def ticket (id : String) : Option (Row RemediationTicket) :=
  tables.tickets.find? fun row => row.data.id = id

def Keyed : Prop := (tables.tickets.map fun row => row.data.id).Nodup

variable {tables}

theorem ticket_of_mem (keyed : tables.Keyed) {row : Row RemediationTicket}
    (member : row ∈ tables.tickets) : tables.ticket row.data.id = some row := by
  cases located : tables.ticket row.data.id with
  | none =>
    have absent := List.find?_eq_none.mp located row member
    simp at absent
  | some found =>
    have same : found.data.id = row.data.id := by simpa using List.find?_some located
    rw [List.inj_on_of_nodup_map keyed (List.mem_of_find?_eq_some located) member same]

end Tables

namespace Database

variable (database : Database) (tables : Tables) (tenant : String) (ticket : RemediationTicket)

theorem exists_tickets_recordRemediation :
    ∃ who, (database.recordRemediation tables tenant ticket).tickets =
        tables.tickets.filter (fun row => !decide (row.data.id = ticket.id)) ++ [⟨who, ticket⟩] ∧
      (who = tenant ∨ ∃ row ∈ tables.tickets, row.data.id = ticket.id ∧ row.tenant = who) := by
  have rows : (database.recordRemediation tables tenant ticket).tickets =
      (database.putLast RemediationTicket.id tenant ticket).onRows tables.tickets :=
    Tables.contents_exec_self
  cases backend : database.backend with
  | sqlite =>
    refine ⟨tenant, ?_, Or.inl rfl⟩
    simp only [rows, putLast, backend, Statement.onRows]
  | postgres =>
    cases located : tables.tickets.find? fun row => row.data.id = ticket.id with
    | none =>
      refine ⟨tenant, ?_, Or.inl rfl⟩
      simp only [rows, putLast, backend, Statement.onRows, located, Option.map_none,
        Option.getD_none]
    | some old =>
      refine ⟨old.tenant, ?_, Or.inr ⟨old, List.mem_of_find?_eq_some located, ?_, rfl⟩⟩
      · simp only [rows, putLast, backend, Statement.onRows, located, Option.map_some,
          Option.getD_some]
      · simpa using List.find?_some located

variable {tables tenant}

theorem tickets_recordRemediation
    (own : ∀ row ∈ tables.tickets, row.data.id = ticket.id → row.tenant = tenant) :
    (database.recordRemediation tables tenant ticket).tickets =
      tables.tickets.filter (fun row => !decide (row.data.id = ticket.id)) ++
        [⟨tenant, ticket⟩] := by
  obtain ⟨who, after, isTenant | ⟨row, member, same, isWho⟩⟩ :=
    exists_tickets_recordRemediation database tables tenant ticket
  · rw [after, isTenant]
  · rw [after, ← isWho, own row member same]

variable {database ticket} in
theorem keyed_recordRemediation (keyed : tables.Keyed) :
    (database.recordRemediation tables tenant ticket).Keyed := by
  obtain ⟨who, after, -⟩ := exists_tickets_recordRemediation database tables tenant ticket
  rw [Tables.Keyed, after, List.map_append, List.map_singleton, List.nodup_append]
  refine ⟨keyed.sublist (List.filter_sublist.map _), List.nodup_singleton _, ?_⟩
  intro id member last isLast same
  obtain ⟨row, stays, rfl⟩ := List.mem_map.mp member
  rw [List.mem_singleton] at isLast
  simp [same, isLast] at stays

theorem ticket_recordRemediation
    (own : ∀ row ∈ tables.tickets, row.data.id = ticket.id → row.tenant = tenant) (id : String) :
    (database.recordRemediation tables tenant ticket).ticket id =
      if id = ticket.id then some ⟨tenant, ticket⟩ else tables.ticket id := by
  rw [Tables.ticket, tickets_recordRemediation database ticket own, List.find?_append,
    List.find?_filter]
  by_cases same : id = ticket.id
  · subst same
    have none : tables.tickets.find? (fun _ => false) = none := List.find?_eq_none.mpr (by simp)
    simp [none]
  · have none : List.find? (fun row : Row RemediationTicket => row.data.id = id)
        [⟨tenant, ticket⟩] = none := by
      simp [Ne.symm same]
    rw [if_neg same, none, Option.or_none, Tables.ticket]
    congr 1
    funext row
    by_cases isRow : row.data.id = id <;> simp [isRow, same]

variable {database}

theorem keyed_apply (keyed : tables.Keyed) (op : StoreOp) : (database.apply tables op).Keyed := by
  by_cases writes : TableName.remediations ∈ op.writes
  · cases op <;> simp [StoreOp.writes] at writes
    exact keyed_recordRemediation keyed
  · rw [Tables.Keyed, Tables.tickets, table_apply writes]
    exact keyed

end Database

end QuantaWatch.Store
