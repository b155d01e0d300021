import QuantaWatch.Lib.SqlTable
import QuantaWatch.Scanner.Types
import QuantaWatch.Store.Auth

/-!
The tables of the shared store that hold the data of tenants (`qw-store`).
-/

namespace QuantaWatch.Store

open Crypto Lib Lib.Encoding Lib.SqlTable Scanner

structure Document where
  id : String
  fields : String

structure ScanRow where
  completedAt : String
  record : ScanRecord

structure FindingRow where
  scanId : String
  record : FindingRecord

structure PostureSnapshot where
  timestamp : DateTime
  overallScore : Float
  totalAssets : UInt32
  byStatus : List (String × UInt32)
  trigger : String

inductive TicketStatus where
  | opened
  | inProgress
  | resolved
  | closed
  | unknown
deriving DecidableEq

structure RemediationTicket where
  id : String
  integrationId : String
  externalId : String
  externalUrl : String
  status : TicketStatus
  findingId : String
  createdAt : DateTime
  updatedAt : DateTime

inductive AlertSeverity where
  | info
  | warning
  | critical
deriving DecidableEq

structure AlertEvent where
  id : String
  timestamp : DateTime
  kind : String
  severity : AlertSeverity
  title : String
  message : String
  metadata : List (String × String)
  delivered : UInt32

structure FlowRow where
  agent : String
  provider : String
  requests : Nat
  sensitive : Nat
  threats : Nat
  lastSeen : DateTime

structure ConnectionRow extends Document where
  token : String

structure OverlayRouteRow extends Document where
  targetId : Option String

structure EndpointRow extends Document where
  hostname : String

structure GraphSnapshot where
  timestamp : DateTime
  total : UInt32
  critical : UInt32
  high : UInt32
  hndl : UInt32
  pathIds : List String

inductive TableName where
  | scans
  | findings
  | posture
  | remediations
  | alerts
  | sessions
  | flows
  | assets
  | certificates
  | targets
  | connections
  | overlayRoutes
  | endpoints
  | graphSnapshots
deriving DecidableEq

abbrev TableName.Data : TableName → Type
  | scans => ScanRow
  | findings => FindingRow
  | posture => PostureSnapshot
  | remediations => RemediationTicket
  | alerts => AlertEvent
  | sessions => Document
  | flows => FlowRow
  | assets => Document
  | certificates => Document
  | targets => Document
  | connections => ConnectionRow
  | overlayRoutes => OverlayRouteRow
  | endpoints => EndpointRow
  | graphSnapshots => GraphSnapshot

structure Row (δ : Type) where
  tenant : String
  data : δ

structure Tables where
  table : (name : TableName) → Table (Row name.Data)

namespace Tables

variable (tables : Tables)

def empty : Tables := ⟨fun _ => .empty⟩

def exec (name : TableName) (statement : Statement (Row name.Data)) : Tables :=
  ⟨Function.update tables.table name ((tables.table name).exec statement)⟩

variable {tables} in
theorem exec_of_ne {name other : TableName} {statement : Statement (Row name.Data)}
    (differ : other ≠ name) : (tables.exec name statement).table other = tables.table other :=
  Function.update_of_ne differ _ _

variable {tables} in
theorem contents_exec_self {name : TableName} {statement : Statement (Row name.Data)} :
    ((tables.exec name statement).table name).contents =
      statement.onRows (tables.table name).contents := by
  simp only [exec, Function.update_self, Table.contents_exec]

/-- `WHERE tenant = ? ORDER BY seq` -/
def rows (tenant : String) (name : TableName) : List name.Data :=
  ((tables.table name).ordered.filter fun row => row.tenant = tenant).map Row.data

end Tables

structure SecretCipher where
  encrypt : String → String → Except String String
  decrypt : String → Except String String

structure Database where
  backend : Backend
  platform : Platform
  textLe : String → String → Bool
  cipher : Option SecretCipher
  /-- The order in which the rows of scans are found, which decides among equal keys of an
  `ORDER BY`. SQL leaves it open. -/
  scanOrder : Backend → List ScanRow → List ScanRow
  scanOrder_perm : ∀ backend rows, (scanOrder backend rows).Perm rows

namespace Database

variable (database : Database)

def sealSecret (nonce plaintext : String) : String :=
  match database.cipher with
  | none => plaintext
  | some cipher => (cipher.encrypt nonce plaintext).toOption.getD plaintext

def unsealSecret (stored : String) : String :=
  match database.cipher with
  | none => stored
  | some cipher => (cipher.decrypt stored).toOption.getD stored

def stableFindingId (location title : String) : String :=
  sha3_256Hex database.platform (utf8 (location ++ "|" ++ title))

section Statements

variable {δ : Type}

def put (conflict : Row δ → Bool) (change : Row δ → Row δ) (row : Row δ) : Statement (Row δ) :=
  match database.backend with
  | .sqlite => .replace conflict row
  | .postgres => .upsert conflict change row

def putKeyed (key : δ → String) (tenant : String) (data : δ) : Statement (Row δ) :=
  database.put (fun old => old.tenant = tenant && key old.data = key data)
    (fun old => { old with data }) ⟨tenant, data⟩

def deleteKeyed (key : δ → String) (tenant id : String) : Statement (Row δ) :=
  .delete fun old => old.tenant = tenant && key old.data = id

def putLast (key : δ → String) (tenant : String) (data : δ) : Statement (Row δ) :=
  match database.backend with
  | .sqlite => .replaceLast (fun old => key old.data = key data) ⟨tenant, data⟩
  | .postgres =>
    .upsertLast (fun old => key old.data = key data) (fun old => { old with data })
      ⟨tenant, data⟩

/-- `ORDER BY` a text column. -/
def orderBy (key : δ → String) (rows : List δ) : List δ :=
  rows.insertionSort fun left right => database.textLe (key left) (key right) = true

def orderByDesc (key : δ → String) (rows : List δ) : List δ :=
  rows.insertionSort fun left right => database.textLe (key right) (key left) = true

end Statements

variable (tables : Tables) (tenant : String)

def listScans (limit : Nat) : List ScanRecord :=
  ((database.orderByDesc ScanRow.completedAt
    (database.scanOrder database.backend (tables.rows tenant .scans))).take limit).map
      ScanRow.record

def getScan (id : String) : Option ScanRecord :=
  ((tables.rows tenant .scans).map ScanRow.record).find? fun record => record.id = id

def findingsForScan (scanId : String) : List FindingRecord :=
  ((tables.rows tenant .findings).filter fun row => row.scanId = scanId).map FindingRow.record

def allFindings : List FindingRecord := (tables.rows tenant .findings).map FindingRow.record

def getFinding (id : String) : Option FindingRecord :=
  (allFindings tables tenant).find? fun record => record.id = id

def findingRecord (scanId scannerId : String) (createdAt : DateTime) (finding : Finding)
    (previous : Option FindingRecord) : FindingRecord where
  id := database.stableFindingId finding.asset.path finding.title
  scanId
  category := finding.category
  severity := finding.severity
  title := finding.title
  description := finding.description
  assetType := finding.asset.assetType
  algorithm := finding.asset.algorithm
  pqcStatus := finding.pqcStatus
  location := finding.asset.path
  remediation := finding.remediation
  createdAt
  confidence := confidenceOf finding
  evidence := evidenceOf database.platform finding scannerId
  status := (previous.map FindingRecord.status).getD .opened
  note := previous.bind FindingRecord.note

def recordFinding (scanId scannerId : String) (createdAt : DateTime) (finding : Finding) : Tables :=
  let previous := getFinding tables tenant
    (database.stableFindingId finding.asset.path finding.title)
  tables.exec .findings
    (database.putKeyed (fun row => row.record.id) tenant
      ⟨scanId, database.findingRecord scanId scannerId createdAt finding previous⟩)

/-- The row of a scan. `content` is the JSON of its findings. -/
def scanRow (scanId : String) (content : Bytes) (result : ScanResult) (target : ScanTarget) :
    ScanRow where
  completedAt := database.platform.toRfc3339 result.completedAt
  record :=
    { id := scanId
      scannerId := result.scannerId
      targetId := result.targetId
      targetAddress := target.address
      status := result.status
      findingCount := UInt32.ofNat result.findings.length
      startedAt := result.startedAt
      completedAt := result.completedAt
      contentHash := sha3_256Hex database.platform content }

/-- A scan under a fresh id. `clock` is the time that each finding sees. -/
def recordScan (scanId : String) (clock : Nat → DateTime) (content : Bytes) (result : ScanResult)
    (target : ScanTarget) : Tables :=
  let row : Row ScanRow := ⟨tenant, database.scanRow scanId content result target⟩
  let inserted := tables.exec .scans
    (database.put (fun old => old.data.record.id = scanId) (fun _ => row) row)
  result.findings.zipIdx.foldl
    (fun tables entry =>
      database.recordFinding tables tenant scanId result.scannerId (clock entry.2) entry.1)
    inserted

def updateFinding (record : FindingRecord) : Tables :=
  tables.exec .findings
    (.update (fun old => old.tenant = tenant && old.data.record.id = record.id)
      fun old => { old with data := { old.data with record } })

def setFindingStatus (id : String) (status : FindingStatus) (note : Option String) :
    Option FindingRecord × Tables :=
  match getFinding tables tenant id with
  | none => (none, tables)
  | some record =>
    let record := { record with status, note }
    (some record, updateFinding tables tenant record)

def newestFindings (records : List FindingRecord) : List FindingRecord :=
  (Collections.groupOn (fun record => database.stableFindingId record.location record.title)
    records).filterMap fun group => group.2.getLast?.map fun record => { record with id := group.1 }

def dedupeTenant (state : Nat × Tables) (tenant : String) : Nat × Tables :=
  let all := allFindings state.2 tenant
  let keep := database.newestFindings all
  if keep.length = all.length then state
  else
    (state.1 + (all.length - keep.length),
      keep.foldl
        (fun tables record => tables.exec .findings (.insert ⟨tenant, record.scanId, record⟩))
        (state.2.exec .findings (.delete fun old => old.tenant = tenant)))

def dedupeFindings : Nat × Tables :=
  ((tables.table .findings).contents.map Row.tenant).dedup.foldl database.dedupeTenant (0, tables)

/-- `f64::EPSILON` -/
def epsilon : Float := 2.220446049250313e-16

def latestPosture : Option PostureSnapshot := (tables.rows tenant .posture).getLast?

def recordPosture (snapshot : PostureSnapshot) : Tables :=
  if (latestPosture tables tenant).any fun previous =>
      (previous.overallScore - snapshot.overallScore).abs < epsilon &&
        previous.totalAssets = snapshot.totalAssets then tables
  else tables.exec .posture (.insert ⟨tenant, snapshot⟩)

def postureHistory (limit : Nat) : List PostureSnapshot :=
  ((tables.rows tenant .posture).reverse.take limit).reverse

def recordRemediation (ticket : RemediationTicket) : Tables :=
  tables.exec .remediations (database.putLast RemediationTicket.id tenant ticket)

def listRemediations : List RemediationTicket :=
  (tables.rows tenant .remediations).reverse.take 1000

def recordAlert (alert : AlertEvent) : Tables :=
  tables.exec .alerts (database.putLast AlertEvent.id tenant alert)

def recentAlerts (limit : Nat) : List AlertEvent := (tables.rows tenant .alerts).reverse.take limit

def upsertSession (session : Document) : Tables :=
  tables.exec .sessions (database.putKeyed Document.id tenant session)

def listSessions (limit : Nat) : List Document :=
  (database.orderByDesc Document.id (tables.rows tenant .sessions)).take limit

def recordFlow (agent provider : String) (sensitive threat : Bool) (now : DateTime) : Tables :=
  tables.exec .flows
    (.upsert
      (fun old => old.tenant = tenant && old.data.agent = agent && old.data.provider = provider)
      (fun old =>
        { old with
          data :=
            { old.data with
              requests := old.data.requests + 1
              sensitive := old.data.sensitive + sensitive.toNat
              threats := old.data.threats + threat.toNat
              lastSeen := now } })
      ⟨tenant, agent, provider, 1, sensitive.toNat, threat.toNat, now⟩)

/-- `list_flows` has no `ORDER BY`. -/
def listFlows : Multiset FlowRow := tables.rows tenant .flows

def upsertAsset (asset : Document) : Tables :=
  tables.exec .assets (database.putKeyed Document.id tenant asset)

def listAssets : List Document :=
  (database.orderBy Document.id (tables.rows tenant .assets)).take 100000

def deleteAsset (id : String) : Tables :=
  tables.exec .assets (deleteKeyed Document.id tenant id)

def recordCertificate (certificate : Document) : Tables :=
  tables.exec .certificates (database.putKeyed Document.id tenant certificate)

def listCertificates : List Document :=
  (database.orderBy Document.id (tables.rows tenant .certificates)).take 100000

def getCertificate (id : String) : Option Document :=
  (tables.rows tenant .certificates).find? fun certificate => certificate.id = id

def upsertTarget (target : Document) : Tables :=
  tables.exec .targets (database.putKeyed Document.id tenant target)

def listTargets : List Document :=
  (database.orderBy Document.id (tables.rows tenant .targets)).take 100000

def getTarget (id : String) : Option Document :=
  (tables.rows tenant .targets).find? fun target => target.id = id

def deleteTarget (id : String) : Tables :=
  tables.exec .targets (deleteKeyed Document.id tenant id)

def upsertConnection (nonce : String) (connection : ConnectionRow) : Tables :=
  tables.exec .connections
    (database.putKeyed (fun row : ConnectionRow => row.id) tenant
      { connection with token := database.sealSecret nonce connection.token })

def unsealed (connection : ConnectionRow) : ConnectionRow :=
  { connection with token := database.unsealSecret connection.token }

def listConnections : List ConnectionRow :=
  ((database.orderBy (fun row : ConnectionRow => row.id) (tables.rows tenant .connections)).take
    10000).map database.unsealed

def getConnection (id : String) : Option ConnectionRow :=
  ((tables.rows tenant .connections).find? fun row => row.id = id).map database.unsealed

def deleteConnection (id : String) : Tables :=
  tables.exec .connections (deleteKeyed (fun row : ConnectionRow => row.id) tenant id)

def recordOverlayRoute (route : OverlayRouteRow) : Tables :=
  tables.exec .overlayRoutes
    (database.putKeyed (fun row : OverlayRouteRow => row.id) tenant route)

def listAllOverlayRoutes : List OverlayRouteRow :=
  (database.orderBy (fun row : OverlayRouteRow => row.id)
    ((tables.table .overlayRoutes).ordered.map Row.data)).take 100000

def deleteOverlayRoute (id : String) : Tables :=
  tables.exec .overlayRoutes (deleteKeyed (fun row : OverlayRouteRow => row.id) tenant id)

def deleteOverlayRoutesForTarget (targetId : String) : Tables :=
  (database.listAllOverlayRoutes tables).foldl
    (fun rest route =>
      if route.targetId = some targetId then deleteOverlayRoute rest tenant route.id else rest)
    tables

def upsertEndpoint (endpoint : EndpointRow) : Tables :=
  tables.exec .endpoints (database.putKeyed (fun row : EndpointRow => row.id) tenant endpoint)

def listEndpoints : List EndpointRow :=
  (database.orderBy (fun row : EndpointRow => row.id) (tables.rows tenant .endpoints)).take 10000

def getEndpoint (id : String) : Option EndpointRow :=
  (tables.rows tenant .endpoints).find? fun row => row.id = id

def findEndpointByHostname (hostname : String) : Option EndpointRow :=
  (database.listEndpoints tables tenant).find? fun row => row.hostname = hostname

def deleteEndpoint (id : String) : Tables :=
  tables.exec .endpoints (deleteKeyed (fun row : EndpointRow => row.id) tenant id)

def recordGraphSnapshot (snapshot : GraphSnapshot) : Tables :=
  tables.exec .graphSnapshots (.insert ⟨tenant, snapshot⟩)

def graphTimeline (limit : Nat) : List GraphSnapshot :=
  ((tables.rows tenant .graphSnapshots).reverse.take limit).reverse

def latestGraphSnapshot : Option GraphSnapshot := (tables.rows tenant .graphSnapshots).getLast?

def tenants : List String :=
  ((tables.table .scans).contents.map Row.tenant ++
    (tables.table .findings).contents.map Row.tenant ++
    (tables.table .sessions).contents.map Row.tenant).dedup

end Database

end QuantaWatch.Store
