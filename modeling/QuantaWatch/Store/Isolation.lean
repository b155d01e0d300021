import QuantaWatch.Lib.Transition
import QuantaWatch.Store.Operations

/-!
Tenants do not see each other in the tables of the store.
-/

namespace QuantaWatch.Store

open Crypto Lib Lib.Encoding Lib.SqlTable Scanner

namespace Tables

def share (tables : Tables) (tenant : String) (name : TableName) : List (Row name.Data) :=
  part Row.tenant tenant (tables.table name).contents

theorem rows_eq (tables : Tables) (tenant : String) (name : TableName) :
    tables.rows tenant name = (tables.share tenant name).map Row.data := by
  rw [rows, Table.ordered_eq_contents]
  rfl

def Agree (tenant : String) (left right : Tables) : Prop :=
  ∀ name, name ≠ .overlayRoutes → left.share tenant name = right.share tenant name

variable {tables left right : Tables} {tenant : String}

theorem Agree.rows (agree : Agree tenant left right) (name : TableName)
    (read : name ≠ .overlayRoutes := by decide) :
    left.rows tenant name = right.rows tenant name := by
  rw [rows_eq, rows_eq, agree name read]

theorem Agree.symm (agree : Agree tenant left right) : Agree tenant right left :=
  fun name read => (agree name read).symm

theorem Agree.trans (agree : Agree tenant tables left) (next : Agree tenant left right) :
    Agree tenant tables right :=
  fun name read => (agree name read).trans (next name read)

variable {name : TableName} {statement : Statement (Row name.Data)}

theorem share_exec
    (confined : statement.ConfinedTo Row.tenant tenant (tables.table name).contents) :
    (tables.exec name statement).share tenant name =
      statement.onRows (tables.share tenant name) := by
  rw [share, contents_exec_self, part_onRows confined, share]

theorem share_exec_ne {other : TableName} {who : String}
    (confined : statement.ConfinedTo Row.tenant who (tables.table name).contents)
    (differ : tenant ≠ who) :
    (tables.exec name statement).share tenant other = tables.share tenant other := by
  by_cases same : other = name
  · subst same
    rw [share, contents_exec_self, part_onRows_ne confined differ, share]
  · rw [share, exec_of_ne same, share]

end Tables

theorem Database.query_of_agree {database : Database} {left right : Tables} {tenant : String}
    (agree : Tables.Agree tenant left right) (query : StoreQuery) :
    database.query left tenant query = database.query right tenant query := by
  cases query with
  | listScans limit => simp only [Database.query, listScans, agree.rows .scans]
  | getScan id => simp only [Database.query, getScan, agree.rows .scans]
  | findingsForScan scanId => simp only [Database.query, findingsForScan, agree.rows .findings]
  | allFindings => simp only [Database.query, allFindings, agree.rows .findings]
  | getFinding id => simp only [Database.query, getFinding, allFindings, agree.rows .findings]
  | latestPosture => simp only [Database.query, latestPosture, agree.rows .posture]
  | postureHistory limit => simp only [Database.query, postureHistory, agree.rows .posture]
  | listRemediations => simp only [Database.query, listRemediations, agree.rows .remediations]
  | recentAlerts limit => simp only [Database.query, recentAlerts, agree.rows .alerts]
  | listSessions limit => simp only [Database.query, listSessions, agree.rows .sessions]
  | listFlows => simp only [Database.query, listFlows, agree.rows .flows]
  | listAssets => simp only [Database.query, listAssets, agree.rows .assets]
  | listCertificates => simp only [Database.query, listCertificates, agree.rows .certificates]
  | getCertificate id => simp only [Database.query, getCertificate, agree.rows .certificates]
  | listTargets => simp only [Database.query, listTargets, agree.rows .targets]
  | getTarget id => simp only [Database.query, getTarget, agree.rows .targets]
  | listConnections => simp only [Database.query, listConnections, agree.rows .connections]
  | getConnection id => simp only [Database.query, getConnection, agree.rows .connections]
  | listEndpoints => simp only [Database.query, listEndpoints, agree.rows .endpoints]
  | getEndpoint id => simp only [Database.query, getEndpoint, agree.rows .endpoints]
  | findEndpointByHostname hostname =>
    simp only [Database.query, findEndpointByHostname, listEndpoints, agree.rows .endpoints]
  | graphTimeline limit => simp only [Database.query, graphTimeline, agree.rows .graphSnapshots]
  | latestGraphSnapshot =>
    simp only [Database.query, latestGraphSnapshot, agree.rows .graphSnapshots]

abbrev Owner := TableName → String → String

def generatedId : (name : TableName) → name.Data → Option String
  | .scans, row => some row.record.id
  | .remediations, ticket => some ticket.id
  | .alerts, alert => some alert.id
  | _, _ => none

def RowOwned (owner : Owner) {name : TableName} (row : Row name.Data) : Prop :=
  ∀ id, generatedId name row.data = some id → owner name id = row.tenant

def Owned (owner : Owner) (tables : Tables) : Prop :=
  ∀ name, ∀ row ∈ (tables.table name).contents, RowOwned owner row

structure Respects (owner : Owner) (tenant : String) (change : Tables → Tables) : Prop where
  owned : ∀ tables, Owned owner tables → Owned owner (change tables)
  others : ∀ tables, Owned owner tables → ∀ other, other ≠ tenant → ∀ name,
    (change tables).share other name = tables.share other name
  own : ∀ left right, Owned owner left → Owned owner right → Tables.Agree tenant left right →
    Tables.Agree tenant (change left) (change right)

namespace Respects

variable {owner : Owner} {tenant : String} {first second : Tables → Tables}

theorem nothing : Respects owner tenant id where
  owned _ owned := owned
  others _ _ _ _ _ := rfl
  own _ _ _ _ agree := agree

theorem andThen (respects : Respects owner tenant first) (next : Respects owner tenant second) :
    Respects owner tenant fun tables => second (first tables) where
  owned tables owned := next.owned _ (respects.owned tables owned)
  others tables owned other differ name :=
    (next.others _ (respects.owned tables owned) other differ name).trans
      (respects.others tables owned other differ name)
  own left right ownedLeft ownedRight agree :=
    next.own _ _ (respects.owned left ownedLeft) (respects.owned right ownedRight)
      (respects.own left right ownedLeft ownedRight agree)

theorem looking {α : Type} (look : Tables → α) (change : α → Tables → Tables)
    (sees : ∀ left right, Tables.Agree tenant left right → look left = look right)
    (respects : ∀ seen, Respects owner tenant (change seen)) :
    Respects owner tenant fun tables => change (look tables) tables where
  owned tables := (respects (look tables)).owned tables
  others tables := (respects (look tables)).others tables
  own left right ownedLeft ownedRight agree := by
    simp only [sees left right agree]
    exact (respects (look right)).own left right ownedLeft ownedRight agree

theorem foldl {α : Type} {change : Tables → α → Tables} (items : List α)
    (respects : ∀ item, Respects owner tenant fun tables => change tables item) :
    Respects owner tenant fun tables => items.foldl change tables := by
  induction items with
  | nil => exact nothing
  | cons item items ih => exact (respects item).andThen ih

variable {name : TableName} {statement : Statement (Row name.Data)}

theorem exec (confined : ∀ rows : List (Row name.Data), (∀ row ∈ rows, RowOwned owner row) →
      statement.ConfinedTo Row.tenant tenant rows)
    (brings : ∀ rows : List (Row name.Data), (∀ row ∈ rows, RowOwned owner row) →
      statement.Brings (RowOwned owner) rows) :
    Respects owner tenant fun tables => tables.exec name statement where
  owned tables owned other := by
    by_cases same : other = name
    · subst same
      rw [Tables.contents_exec_self]
      exact forall_onRows (owned other) (brings _ (owned other))
    · rw [Tables.exec_of_ne same]
      exact owned other
  others tables owned other differ table :=
    Tables.share_exec_ne (confined _ (owned name)) differ
  own left right ownedLeft ownedRight agree table read := by
    by_cases same : table = name
    · subst same
      rw [Tables.share_exec (confined _ (ownedLeft table)),
        Tables.share_exec (confined _ (ownedRight table)), agree table read]
    · simp only [Tables.share, Tables.exec_of_ne same]
      exact agree table read

theorem execPlain (plain : ∀ data, generatedId name data = none)
    (confined : ∀ rows, statement.ConfinedTo Row.tenant tenant rows) :
    Respects owner tenant fun tables => tables.exec name statement := by
  apply exec
  · exact fun rows _ => confined rows
  · intro rows _
    apply Statement.brings_of_forall
    intro row id generated
    rw [plain] at generated
    cases generated

theorem lookingAcross {α : Type} (look : Tables → α) (change : α → Tables → Tables)
    (respects : ∀ seen, Respects owner tenant (change seen))
    (onlyRoutes : ∀ seen tables name, name ≠ .overlayRoutes →
      (change seen tables).table name = tables.table name) :
    Respects owner tenant fun tables => change (look tables) tables where
  owned tables := (respects (look tables)).owned tables
  others tables := (respects (look tables)).others tables
  own left right _ _ agree name read := by
    simp only [Tables.share, onlyRoutes _ _ name read]
    exact agree name read

/-! A change that is made for one tenant after the other -/

section Each

variable {change : String → Tables → Tables} (respects : ∀ who, Respects owner who (change who))
variable {tables : Tables} {tenants : List String}

include respects

variable (owned : Owned owner tables)

include owned

theorem owned_each : Owned owner (tenants.foldl (fun tables who => change who tables) tables) := by
  induction tenants generalizing tables with
  | nil => exact owned
  | cons who tenants ih =>
    exact ih ((respects who).owned tables owned)

theorem share_each (absent : tenant ∉ tenants) (name : TableName) :
    (tenants.foldl (fun tables who => change who tables) tables).share tenant name =
      tables.share tenant name := by
  induction tenants generalizing tables with
  | nil => rfl
  | cons who tenants ih =>
    have rest := List.not_mem_of_not_mem_cons absent
    rw [List.foldl_cons, ih ((respects who).owned tables owned) rest]
    exact (respects who).others tables owned tenant (List.ne_of_not_mem_cons absent) name

theorem agree_each (once : tenants.Nodup) (present : tenant ∈ tenants) :
    Tables.Agree tenant (tenants.foldl (fun tables who => change who tables) tables)
      (change tenant tables) := by
  induction tenants generalizing tables with
  | nil => cases present
  | cons who tenants ih =>
    have ownedNext := (respects who).owned tables owned
    rw [List.nodup_cons] at once
    by_cases isWho : tenant = who
    · subst isWho
      exact fun name _ => share_each respects ownedNext once.1 name
    · have later := (List.mem_cons.mp present).resolve_left isWho
      apply (ih ownedNext once.2 later).trans
      apply (respects tenant).own _ _ ownedNext owned
      exact fun name _ => (respects who).others tables owned tenant isWho name

end Each

end Respects

namespace Database

variable {database : Database} {owner : Owner} {tenant : String}

theorem confined_putKeyed {δ : Type} (key : δ → String) (data : δ) (rows : List (Row δ)) :
    (database.putKeyed key tenant data).ConfinedTo Row.tenant tenant rows := by
  cases backend : database.backend <;>
    simp +contextual [putKeyed, put, backend, Statement.ConfinedTo]

theorem confined_deleteKeyed {δ : Type} (key : δ → String) (id : String)
    (rows : List (Row δ)) : (deleteKeyed key tenant id).ConfinedTo Row.tenant tenant rows := by
  simp +contextual [deleteKeyed, Statement.ConfinedTo]

theorem respects_putKeyed {name : TableName} (plain : ∀ data, generatedId name data = none)
    (key : name.Data → String) (data : name.Data) :
    Respects owner tenant fun tables => tables.exec name (database.putKeyed key tenant data) :=
  Respects.execPlain plain (confined_putKeyed key data)

theorem respects_deleteKeyed {name : TableName}
    (plain : ∀ data, generatedId name data = none) (key : name.Data → String) (id : String) :
    Respects owner tenant fun tables => tables.exec name (deleteKeyed key tenant id) :=
  Respects.execPlain plain (confined_deleteKeyed key id)

section GeneratedIds

variable (name : TableName) (key : name.Data → String) (data : name.Data)
variable (keyed : ∀ data, generatedId name data = some (key data))
variable (mine : owner name (key data) = tenant)

include keyed mine

theorem rowOwned_of_mine : RowOwned owner (⟨tenant, data⟩ : Row name.Data) := by
  intro id generated
  rw [← Option.some.inj ((keyed data).symm.trans generated), mine]

theorem tenant_of_conflict {old : Row name.Data} (owned : RowOwned owner old)
    (conflict : decide (key old.data = key data) = true) : old.tenant = tenant := by
  rw [← owned _ (keyed old.data), of_decide_eq_true conflict, mine]

theorem respects_insertion {change : Row name.Data → Row name.Data}
    (renews : ∀ old, old.tenant = tenant → change old = ⟨tenant, data⟩)
    {statement : Statement (Row name.Data)} (insertion :
      statement = .replace (fun old => key old.data = key data) ⟨tenant, data⟩ ∨
      statement = .upsert (fun old => key old.data = key data) change ⟨tenant, data⟩ ∨
      statement = .replaceLast (fun old => key old.data = key data) ⟨tenant, data⟩ ∨
      statement = .upsertLast (fun old => key old.data = key data) change ⟨tenant, data⟩) :
    Respects owner tenant fun tables => tables.exec name statement := by
  have brought := rowOwned_of_mine name key data keyed mine
  apply Respects.exec
  · intro rows owned
    have meets := fun old member => tenant_of_conflict name key data keyed mine (owned old member)
    have changed : ∀ old ∈ rows, decide (key old.data = key data) = true →
        old.tenant = tenant ∧ (change old).tenant = tenant := by
      intro old member conflict
      have own := meets old member conflict
      exact ⟨own, by rw [renews old own]⟩
    rcases insertion with rfl | rfl | rfl | rfl
    · exact ⟨rfl, meets⟩
    · exact ⟨rfl, changed⟩
    · exact ⟨rfl, meets⟩
    · exact ⟨rfl, changed⟩
  · intro rows owned
    have changed : ∀ old ∈ rows, decide (key old.data = key data) = true →
        RowOwned owner (change old) := by
      intro old member conflict
      rw [renews old (tenant_of_conflict name key data keyed mine (owned old member) conflict)]
      exact brought
    rcases insertion with rfl | rfl | rfl | rfl
    · exact brought
    · exact ⟨brought, changed⟩
    · exact brought
    · exact ⟨brought, changed⟩

theorem respects_putLast :
    Respects owner tenant fun tables => tables.exec name (database.putLast key tenant data) := by
  -- the row in conflict keeps its tenant, which is the owner of the id
  have renews : ∀ old : Row name.Data, old.tenant = tenant →
      { old with data } = (⟨tenant, data⟩ : Row name.Data) := by
    rintro old rfl
    rfl
  apply respects_insertion name key data keyed mine renews
  cases backend : database.backend <;> simp [putLast, backend]

theorem respects_putWhole : Respects owner tenant fun tables => tables.exec name
      (database.put (fun old => key old.data = key data) (fun _ => ⟨tenant, data⟩)
        ⟨tenant, data⟩) := by
  apply respects_insertion name key data keyed mine (fun _ _ => rfl)
  cases backend : database.backend <;> simp [put, backend]

end GeneratedIds

section Looking

variable {left right : Tables} (agree : Tables.Agree tenant left right)

include agree

theorem allFindings_of_agree : allFindings left tenant = allFindings right tenant := by
  rw [allFindings, allFindings, agree.rows .findings]

theorem getFinding_of_agree (id : String) :
    getFinding left tenant id = getFinding right tenant id := by
  rw [getFinding, getFinding, allFindings_of_agree agree]

end Looking

theorem respects_recordFinding (scanId scannerId : String) (createdAt : DateTime)
    (finding : Finding) : Respects owner tenant fun tables =>
      database.recordFinding tables tenant scanId scannerId createdAt finding := by
  apply Respects.looking
    (fun tables => getFinding tables tenant
      (database.stableFindingId finding.asset.path finding.title))
    fun previous tables => tables.exec .findings
      (database.putKeyed (fun row => row.record.id) tenant
        ⟨scanId, database.findingRecord scanId scannerId createdAt finding previous⟩)
  · intro left right agree
    exact getFinding_of_agree agree _
  · intro previous
    exact respects_putKeyed (fun _ => rfl) _ _

theorem respects_recordScan {scanId : String} (mine : owner .scans scanId = tenant)
    (clock : Nat → DateTime) (content : Bytes) (result : ScanResult) (target : ScanTarget) :
    Respects owner tenant fun tables =>
      database.recordScan tables tenant scanId clock content result target := by
  let row := database.scanRow scanId content result target
  have inserted : Respects owner tenant fun tables => tables.exec .scans
      (database.put (fun old => old.data.record.id = scanId) (fun _ => ⟨tenant, row⟩)
        ⟨tenant, row⟩) :=
    respects_putWhole .scans (fun row => row.record.id) row (fun _ => rfl) mine
  have findings : Respects owner tenant fun tables => result.findings.zipIdx.foldl
      (fun tables entry =>
        database.recordFinding tables tenant scanId result.scannerId (clock entry.2) entry.1)
      tables :=
    Respects.foldl _ fun entry => respects_recordFinding scanId _ _ _
  exact inserted.andThen findings

theorem respects_updateFinding (record : FindingRecord) :
    Respects owner tenant fun tables => updateFinding tables tenant record := by
  apply Respects.execPlain fun _ => rfl
  simp +contextual [Statement.ConfinedTo]

theorem respects_setFindingStatus (id : String) (status : FindingStatus)
    (note : Option String) : Respects owner tenant fun tables =>
      (setFindingStatus tables tenant id status note).2 := by
  have change : ∀ tables, (setFindingStatus tables tenant id status note).2 =
      ((getFinding tables tenant id).elim tables fun record =>
        updateFinding tables tenant { record with status, note }) := by
    intro tables
    cases found : getFinding tables tenant id <;> simp [setFindingStatus, found]
  simp only [change]
  apply Respects.looking (fun tables => getFinding tables tenant id)
    fun found tables => found.elim tables fun record =>
      updateFinding tables tenant { record with status, note }
  · intro left right agree
    exact getFinding_of_agree agree id
  · intro found
    cases found with
    | none => exact Respects.nothing
    | some record => exact respects_updateFinding _

theorem respects_recordPosture (snapshot : PostureSnapshot) :
    Respects owner tenant fun tables => recordPosture tables tenant snapshot := by
  apply Respects.looking (fun tables => latestPosture tables tenant)
    fun latest tables =>
      if latest.any fun previous =>
          (previous.overallScore - snapshot.overallScore).abs < epsilon &&
            previous.totalAssets = snapshot.totalAssets then tables
      else tables.exec .posture (.insert ⟨tenant, snapshot⟩)
  · intro left right agree
    simp only [latestPosture, agree.rows .posture]
  · intro latest
    split_ifs
    · exact Respects.nothing
    · exact Respects.execPlain (fun _ => rfl) fun _ => rfl

theorem respects_recordFlow (agent provider : String) (sensitive threat : Bool)
    (now : DateTime) : Respects owner tenant fun tables =>
      recordFlow tables tenant agent provider sensitive threat now := by
  apply Respects.execPlain fun _ => rfl
  simp +contextual [Statement.ConfinedTo]

theorem respects_deleteOverlayRoutesForTarget (targetId : String) :
    Respects owner tenant fun tables =>
      database.deleteOverlayRoutesForTarget tables tenant targetId := by
  apply Respects.lookingAcross database.listAllOverlayRoutes
    fun routes tables => routes.foldl
      (fun rest route =>
        if route.targetId = some targetId then deleteOverlayRoute rest tenant route.id else rest)
      tables
  · intro routes
    apply Respects.foldl
    intro route
    split_ifs
    · exact respects_deleteKeyed (fun _ => rfl) _ _
    · exact Respects.nothing
  · intro routes tables name read
    induction routes generalizing tables with
    | nil => rfl
    | cons route routes ih =>
      rw [List.foldl_cons, ih]
      split_ifs
      · exact Tables.exec_of_ne read
      · rfl

theorem respects_apply {op : StoreOp} (isOf : op.tenant = some tenant)
    (mine : ∀ name id, op.generated = some (name, id) → owner name id = tenant) :
    Respects owner tenant fun tables => database.apply tables op := by
  cases op <;> cases isOf
  case recordScan scanId clock content result target =>
    exact respects_recordScan (mine _ _ rfl) clock content result target
  case updateFinding record => exact respects_updateFinding record
  case setFindingStatus id status note => exact respects_setFindingStatus id status note
  case recordPosture snapshot => exact respects_recordPosture snapshot
  case recordRemediation ticket =>
    exact respects_putLast _ _ _ (fun _ => rfl) (mine _ _ rfl)
  case recordAlert alert => exact respects_putLast _ _ _ (fun _ => rfl) (mine _ _ rfl)
  case upsertSession session => exact respects_putKeyed (fun _ => rfl) _ _
  case recordFlow agent provider sensitive threat now =>
    exact respects_recordFlow agent provider sensitive threat now
  case upsertAsset asset => exact respects_putKeyed (fun _ => rfl) _ _
  case deleteAsset id => exact respects_deleteKeyed (fun _ => rfl) _ _
  case recordCertificate certificate => exact respects_putKeyed (fun _ => rfl) _ _
  case upsertTarget target => exact respects_putKeyed (fun _ => rfl) _ _
  case deleteTarget id => exact respects_deleteKeyed (fun _ => rfl) _ _
  case upsertConnection nonce connection => exact respects_putKeyed (fun _ => rfl) _ _
  case deleteConnection id => exact respects_deleteKeyed (fun _ => rfl) _ _
  case recordOverlayRoute route => exact respects_putKeyed (fun _ => rfl) _ _
  case deleteOverlayRoute id => exact respects_deleteKeyed (fun _ => rfl) _ _
  case deleteOverlayRoutesForTarget targetId =>
    exact respects_deleteOverlayRoutesForTarget targetId
  case upsertEndpoint endpoint => exact respects_putKeyed (fun _ => rfl) _ _
  case deleteEndpoint id => exact respects_deleteKeyed (fun _ => rfl) _ _
  case recordGraphSnapshot snapshot => exact Respects.execPlain (fun _ => rfl) fun _ => rfl

variable (database tenant) in
def rewriteFindings (all : List FindingRecord) (tables : Tables) : Tables :=
  if (database.newestFindings all).length = all.length then tables
  else
    (database.newestFindings all).foldl
      (fun tables record => tables.exec .findings (.insert ⟨tenant, record.scanId, record⟩))
      (tables.exec .findings (.delete fun old => old.tenant = tenant))

variable (database tenant) in
def collapse (tables : Tables) : Tables :=
  database.rewriteFindings tenant (allFindings tables tenant) tables

theorem dedupeTenant_snd (removed : Nat) (tables : Tables) :
    (database.dedupeTenant (removed, tables) tenant).2 = database.collapse tenant tables := by
  simp only [collapse, rewriteFindings, dedupeTenant]
  split_ifs <;> rfl

theorem foldl_dedupeTenant (tenants : List String) (removed : Nat) (tables : Tables) :
    (tenants.foldl database.dedupeTenant (removed, tables)).2 =
      tenants.foldl (fun tables who => database.collapse who tables) tables := by
  induction tenants generalizing removed tables with
  | nil => rfl
  | cons who tenants ih =>
    rw [List.foldl_cons, List.foldl_cons, ← dedupeTenant_snd removed tables]
    exact ih _ _

theorem respects_rewriteFindings (all : List FindingRecord) :
    Respects owner tenant (database.rewriteFindings tenant all) := by
  have emptied : Respects owner tenant fun tables =>
      tables.exec .findings (.delete fun old => old.tenant = tenant) := by
    apply Respects.execPlain fun _ => rfl
    simp [Statement.ConfinedTo]
  have written : Respects owner tenant fun tables => (database.newestFindings all).foldl
      (fun tables record => tables.exec .findings (.insert ⟨tenant, record.scanId, record⟩))
      tables :=
    Respects.foldl _ fun record => Respects.execPlain (fun _ => rfl) fun _ => rfl
  by_cases same : (database.newestFindings all).length = all.length
  · convert Respects.nothing
    exact funext fun _ => if_pos same
  · convert emptied.andThen written
    exact if_neg same

theorem respects_collapse : Respects owner tenant (database.collapse tenant) :=
  Respects.looking (fun tables => allFindings tables tenant) (database.rewriteFindings tenant)
    (fun _ _ agree => allFindings_of_agree agree) respects_rewriteFindings

variable {tables : Tables}

theorem collapse_of_nil (empty : tables.share tenant .findings = []) :
    database.collapse tenant tables = tables := by
  have none : allFindings tables tenant = [] := by
    rw [allFindings, Tables.rows_eq, empty]
    rfl
  rw [collapse, none]
  rfl

theorem agree_dedupeFindings (owned : Owned owner tables) (tenant : String) :
    Tables.Agree tenant (database.dedupeFindings tables).2 (database.collapse tenant tables) := by
  rw [dedupeFindings, foldl_dedupeTenant]
  by_cases present : tenant ∈ ((tables.table .findings).contents.map Row.tenant).dedup
  · exact Respects.agree_each (fun _ => respects_collapse) owned (List.nodup_dedup _) present
  · have empty : tables.share tenant .findings = [] := by
      rw [Tables.share, part, List.filter_eq_nil_iff]
      intro row member isOf
      apply present
      rw [List.mem_dedup, ← of_decide_eq_true isOf]
      exact List.mem_map_of_mem member
    rw [collapse_of_nil empty]
    exact fun name _ => Respects.share_each (fun _ => respects_collapse) owned present name

theorem owned_dedupeFindings (owned : Owned owner tables) :
    Owned owner (database.dedupeFindings tables).2 := by
  rw [dedupeFindings, foldl_dedupeTenant]
  exact Respects.owned_each (fun _ => respects_collapse) owned

section Steps

variable {ops : List StoreOp} {op : StoreOp}

def Assigns (owner : Owner) (ops : List StoreOp) : Prop :=
  ∀ op ∈ ops, ∀ name id, op.generated = some (name, id) → op.tenant = some (owner name id)

theorem respects_of_assigns (assigns : Assigns owner ops) (member : op ∈ ops)
    (isOf : op.tenant = some tenant) :
    Respects owner tenant fun tables => database.apply tables op := by
  apply respects_apply isOf
  intro name id generated
  have owns := assigns op member name id generated
  rw [isOf] at owns
  exact (Option.some.inj owns).symm

theorem eq_dedupeFindings (global : op.tenant = none) : op = .dedupeFindings := by
  cases op <;> first | rfl | cases global

variable (assigns : Assigns owner ops)

include assigns

theorem owned_apply {tables : Tables} (member : op ∈ ops) (owned : Owned owner tables) :
    Owned owner (database.apply tables op) := by
  cases isOf : op.tenant with
  | none =>
    obtain rfl := eq_dedupeFindings isOf
    exact owned_dedupeFindings owned
  | some who => exact (respects_of_assigns assigns member isOf).owned tables owned

theorem agree_apply {left right : Tables} (member : op ∈ ops)
    (ownedLeft : Owned owner left) (ownedRight : Owned owner right)
    (agree : Tables.Agree tenant left right) (concerns : op.concerns tenant = true) :
    Tables.Agree tenant (database.apply left op) (database.apply right op) := by
  cases isOf : op.tenant with
  | none =>
    obtain rfl := eq_dedupeFindings isOf
    apply (agree_dedupeFindings ownedLeft tenant).trans
    apply Tables.Agree.trans _ (agree_dedupeFindings ownedRight tenant).symm
    exact respects_collapse.own left right ownedLeft ownedRight agree
  | some who =>
    have own : who = tenant := by simpa [StoreOp.concerns, isOf] using concerns
    subst own
    exact (respects_of_assigns assigns member isOf).own left right ownedLeft ownedRight agree

theorem share_apply {tables : Tables} (member : op ∈ ops) (owned : Owned owner tables)
    (foreign : op.concerns tenant = false) (name : TableName) :
    (database.apply tables op).share tenant name = tables.share tenant name := by
  cases isOf : op.tenant with
  | none => simp [StoreOp.concerns, isOf] at foreign
  | some who =>
    have differ : tenant ≠ who := by
      intro same
      simp [StoreOp.concerns, isOf, same] at foreign
    exact (respects_of_assigns assigns member isOf).others tables owned tenant differ name

end Steps

theorem owned_empty : Owned owner .empty := by
  intro name row member
  cases member

theorem agree_run {ops : List StoreOp} (assigns : Assigns owner ops) (tenant : String) :
    Tables.Agree tenant (database.run ops)
      (database.run (ops.filter (StoreOp.concerns tenant))) := by
  have sound : ∀ tables, ∀ op ∈ ops, Owned owner tables → Owned owner (database.apply tables op) :=
    fun tables op member owned => owned_apply assigns member owned
  apply NonInterference.related_run sound
  · exact fun left right op member => agree_apply assigns member
  · intro left right op member owned agree foreign
    apply Tables.Agree.trans _ agree
    exact fun name _ => share_apply assigns member owned foreign name
  · exact owned_empty
  · exact owned_empty
  · exact fun _ _ => rfl

def IdsDiffer (ops : List StoreOp) : Prop :=
  ∀ first ∈ ops, ∀ second ∈ ops, first.generated.isSome → first.generated = second.generated →
    first.tenant = second.tenant

def ownerOf (ops : List StoreOp) : Owner := fun name id =>
  ((ops.find? fun op => op.generated = some (name, id)).bind StoreOp.tenant).getD ""

theorem assigns_ownerOf {ops : List StoreOp} (differ : IdsDiffer ops) :
    Assigns (ownerOf ops) ops := by
  intro op member name id generated
  cases located : ops.find? fun op => op.generated = some (name, id) with
  | none =>
    have absent := List.find?_eq_none.mp located op member
    exact absurd (decide_eq_true generated) absent
  | some first =>
    have firstGenerated : first.generated = some (name, id) := by
      simpa using List.find?_some located
    have same := differ first (List.mem_of_find?_eq_some located) op member
      (Option.isSome_of_eq_some firstGenerated) (firstGenerated.trans generated.symm)
    cases isOf : op.tenant with
    | none =>
      rw [eq_dedupeFindings isOf] at generated
      cases generated
    | some who => simp [ownerOf, located, same, isOf]

/-- A query of a tenant gives what it gives without the operations of other tenants. -/
theorem tenant_isolation (database : Database) (ops : List StoreOp) (differ : IdsDiffer ops)
    (tenant : String) (query : StoreQuery) :
    database.query (database.run ops) tenant query =
      database.query (database.run (ops.filter (StoreOp.concerns tenant))) tenant query :=
  query_of_agree (agree_run (assigns_ownerOf differ) tenant) query

def twoTenants : List StoreOp :=
  [.upsertAsset "acme" ⟨"web", "a"⟩, .upsertAsset "globex" ⟨"web", "b"⟩,
    .recordRemediation "acme" ⟨"t1", "github", "#7", "", .opened, "f", ⟨0⟩, ⟨0⟩⟩,
    .recordRemediation "globex" ⟨"t2", "github", "#7", "", .closed, "f", ⟨1⟩, ⟨1⟩⟩,
    .deleteAsset "globex" "web", .dedupeFindings]

theorem same_names_apart : IdsDiffer twoTenants ∧
    (sampleDatabase .postgres).query ((sampleDatabase .postgres).run twoTenants) "acme"
      .listAssets = [⟨"web", "a"⟩] := by
  have differ : IdsDiffer twoTenants := by
    unfold IdsDiffer
    decide
  refine ⟨differ, ?_⟩
  rw [tenant_isolation _ twoTenants differ]
  rfl

end Database

end QuantaWatch.Store
