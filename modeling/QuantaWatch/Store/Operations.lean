import QuantaWatch.Crypto.Sample
import QuantaWatch.Store.Tables

/-!
What is done to the tables of tenants, and what is asked of them, as data.
-/

namespace QuantaWatch.Store

open Crypto Lib.Encoding Scanner

inductive StoreOp where
  | recordScan (tenant scanId : String) (clock : Nat → DateTime) (content : Bytes)
      (result : ScanResult) (target : ScanTarget)
  | updateFinding (tenant : String) (record : FindingRecord)
  | setFindingStatus (tenant id : String) (status : FindingStatus) (note : Option String)
  | dedupeFindings
  | recordPosture (tenant : String) (snapshot : PostureSnapshot)
  | recordRemediation (tenant : String) (ticket : RemediationTicket)
  | recordAlert (tenant : String) (alert : AlertEvent)
  | upsertSession (tenant : String) (session : Document)
  | recordFlow (tenant agent provider : String) (sensitive threat : Bool) (now : DateTime)
  | upsertAsset (tenant : String) (asset : Document)
  | deleteAsset (tenant id : String)
  | recordCertificate (tenant : String) (certificate : Document)
  | upsertTarget (tenant : String) (target : Document)
  | deleteTarget (tenant id : String)
  | upsertConnection (tenant nonce : String) (connection : ConnectionRow)
  | deleteConnection (tenant id : String)
  | recordOverlayRoute (tenant : String) (route : OverlayRouteRow)
  | deleteOverlayRoute (tenant id : String)
  | deleteOverlayRoutesForTarget (tenant targetId : String)
  | upsertEndpoint (tenant : String) (endpoint : EndpointRow)
  | deleteEndpoint (tenant id : String)
  | recordGraphSnapshot (tenant : String) (snapshot : GraphSnapshot)

namespace StoreOp

def tenant : StoreOp → Option String
  | recordScan tenant _ _ _ _ _ => tenant
  | updateFinding tenant _ => tenant
  | setFindingStatus tenant _ _ _ => tenant
  | dedupeFindings => none
  | recordPosture tenant _ => tenant
  | recordRemediation tenant _ => tenant
  | recordAlert tenant _ => tenant
  | upsertSession tenant _ => tenant
  | recordFlow tenant _ _ _ _ _ => tenant
  | upsertAsset tenant _ => tenant
  | deleteAsset tenant _ => tenant
  | recordCertificate tenant _ => tenant
  | upsertTarget tenant _ => tenant
  | deleteTarget tenant _ => tenant
  | upsertConnection tenant _ _ => tenant
  | deleteConnection tenant _ => tenant
  | recordOverlayRoute tenant _ => tenant
  | deleteOverlayRoute tenant _ => tenant
  | deleteOverlayRoutesForTarget tenant _ => tenant
  | upsertEndpoint tenant _ => tenant
  | deleteEndpoint tenant _ => tenant
  | recordGraphSnapshot tenant _ => tenant

def generated : StoreOp → Option (TableName × String)
  | recordScan _ scanId _ _ _ _ => some (.scans, scanId)
  | recordRemediation _ ticket => some (.remediations, ticket.id)
  | recordAlert _ alert => some (.alerts, alert.id)
  | _ => none

def concerns (tenant : String) (op : StoreOp) : Bool :=
  op.tenant = some tenant || op.tenant = none

end StoreOp

inductive StoreQuery where
  | listScans (limit : Nat)
  | getScan (id : String)
  | findingsForScan (scanId : String)
  | allFindings
  | getFinding (id : String)
  | latestPosture
  | postureHistory (limit : Nat)
  | listRemediations
  | recentAlerts (limit : Nat)
  | listSessions (limit : Nat)
  | listFlows
  | listAssets
  | listCertificates
  | getCertificate (id : String)
  | listTargets
  | getTarget (id : String)
  | listConnections
  | getConnection (id : String)
  | listEndpoints
  | getEndpoint (id : String)
  | findEndpointByHostname (hostname : String)
  | graphTimeline (limit : Nat)
  | latestGraphSnapshot

abbrev StoreQuery.Result : StoreQuery → Type
  | listScans _ => List ScanRecord
  | getScan _ => Option ScanRecord
  | findingsForScan _ => List FindingRecord
  | allFindings => List FindingRecord
  | getFinding _ => Option FindingRecord
  | latestPosture => Option PostureSnapshot
  | postureHistory _ => List PostureSnapshot
  | listRemediations => List RemediationTicket
  | recentAlerts _ => List AlertEvent
  | listSessions _ => List Document
  | listFlows => Multiset FlowRow
  | listAssets => List Document
  | listCertificates => List Document
  | getCertificate _ => Option Document
  | listTargets => List Document
  | getTarget _ => Option Document
  | listConnections => List ConnectionRow
  | getConnection _ => Option ConnectionRow
  | listEndpoints => List EndpointRow
  | getEndpoint _ => Option EndpointRow
  | findEndpointByHostname _ => Option EndpointRow
  | graphTimeline _ => List GraphSnapshot
  | latestGraphSnapshot => Option GraphSnapshot

namespace Database

variable (database : Database)

def apply (tables : Tables) : StoreOp → Tables
  | .recordScan tenant scanId clock content result target =>
    database.recordScan tables tenant scanId clock content result target
  | .updateFinding tenant record => updateFinding tables tenant record
  | .setFindingStatus tenant id status note => (setFindingStatus tables tenant id status note).2
  | .dedupeFindings => (database.dedupeFindings tables).2
  | .recordPosture tenant snapshot => recordPosture tables tenant snapshot
  | .recordRemediation tenant ticket => database.recordRemediation tables tenant ticket
  | .recordAlert tenant alert => database.recordAlert tables tenant alert
  | .upsertSession tenant session => database.upsertSession tables tenant session
  | .recordFlow tenant agent provider sensitive threat now =>
    recordFlow tables tenant agent provider sensitive threat now
  | .upsertAsset tenant asset => database.upsertAsset tables tenant asset
  | .deleteAsset tenant id => deleteAsset tables tenant id
  | .recordCertificate tenant certificate => database.recordCertificate tables tenant certificate
  | .upsertTarget tenant target => database.upsertTarget tables tenant target
  | .deleteTarget tenant id => deleteTarget tables tenant id
  | .upsertConnection tenant nonce connection =>
    database.upsertConnection tables tenant nonce connection
  | .deleteConnection tenant id => deleteConnection tables tenant id
  | .recordOverlayRoute tenant route => database.recordOverlayRoute tables tenant route
  | .deleteOverlayRoute tenant id => deleteOverlayRoute tables tenant id
  | .deleteOverlayRoutesForTarget tenant targetId =>
    database.deleteOverlayRoutesForTarget tables tenant targetId
  | .upsertEndpoint tenant endpoint => database.upsertEndpoint tables tenant endpoint
  | .deleteEndpoint tenant id => deleteEndpoint tables tenant id
  | .recordGraphSnapshot tenant snapshot => recordGraphSnapshot tables tenant snapshot

def run (ops : List StoreOp) : Tables := ops.foldl database.apply .empty

def query (tables : Tables) (tenant : String) : (query : StoreQuery) → query.Result
  | .listScans limit => database.listScans tables tenant limit
  | .getScan id => getScan tables tenant id
  | .findingsForScan scanId => findingsForScan tables tenant scanId
  | .allFindings => allFindings tables tenant
  | .getFinding id => getFinding tables tenant id
  | .latestPosture => latestPosture tables tenant
  | .postureHistory limit => postureHistory tables tenant limit
  | .listRemediations => listRemediations tables tenant
  | .recentAlerts limit => recentAlerts tables tenant limit
  | .listSessions limit => database.listSessions tables tenant limit
  | .listFlows => listFlows tables tenant
  | .listAssets => database.listAssets tables tenant
  | .listCertificates => database.listCertificates tables tenant
  | .getCertificate id => getCertificate tables tenant id
  | .listTargets => database.listTargets tables tenant
  | .getTarget id => getTarget tables tenant id
  | .listConnections => database.listConnections tables tenant
  | .getConnection id => database.getConnection tables tenant id
  | .listEndpoints => database.listEndpoints tables tenant
  | .getEndpoint id => getEndpoint tables tenant id
  | .findEndpointByHostname hostname => database.findEndpointByHostname tables tenant hostname
  | .graphTimeline limit => graphTimeline tables tenant limit
  | .latestGraphSnapshot => latestGraphSnapshot tables tenant

def sampleDatabase (backend : Backend) : Database where
  backend
  platform := samplePlatform
  textLe left right := left.toList ≤ right.toList
  cipher := none
  scanOrder _ rows := rows
  scanOrder_perm _ rows := .refl rows

end Database

end QuantaWatch.Store
