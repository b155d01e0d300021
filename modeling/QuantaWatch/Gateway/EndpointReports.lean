import QuantaWatch.Gateway.Endpoints
import QuantaWatch.Store.Recording
import QuantaWatch.Store.Tickets

/-!
The stored weaknesses of hosts over their reports.

A report writes the findings of the components that are not merely informational, and
removes none. A weakness of an earlier report is gone only if the new one has a finding
with its title.
-/

namespace QuantaWatch.Scanner

structure FindingContent extends FindingValues where
  description : String
  assetType : CryptoAssetType
  pqcStatus : PqcStatus
  remediation : Option String
deriving DecidableEq

def Finding.content (finding : Finding) : FindingContent :=
  ⟨finding.values, finding.description, finding.asset.assetType, finding.pqcStatus,
    finding.remediation⟩

def FindingRecord.content (record : FindingRecord) : FindingContent :=
  ⟨record.values, record.description, record.assetType, record.pqcStatus, record.remediation⟩

def FindingRecord.IsWeakness (record : FindingRecord) : Prop :=
  record.category = .weakAlgorithm ∨ record.category = .missingPqc

end QuantaWatch.Scanner

namespace QuantaWatch.Gateway

open Crypto Lib Lib.Text Lib.Transition Scanner Store

section Findings

variable {hostname : String} {seen : Nat → DateTime} {components : List EndpointComponent}
  {finding : Finding}

private theorem mem_componentsToFindings
    (member : finding ∈ componentsToFindings hostname seen components) :
    finding.asset.path = endpointPath hostname ∧
      (finding.category = .weakAlgorithm ∨ finding.category = .missingPqc) := by
  rcases List.mem_map.mp member with ⟨entry, _, rfl⟩
  refine ⟨rfl, ?_⟩
  rw [EndpointComponent.toFinding]
  split_ifs
  · exact .inl rfl
  · exact .inr rfl

private theorem endpointPath_injective : Function.Injective endpointPath := by
  intro left right same
  have texts := congrArg String.toList same
  rw [endpointPath, endpointPath, String.toList_append, String.toList_append] at texts
  exact String.toList_injective (List.append_cancel_left texts)

end Findings

section Rows

variable {database : Database} {rows after : List FindingRecord} {latest : String → List Finding}
  {hostname scanId : String} {findings : List Finding}

def weaknesses (rows : List FindingRecord) (hostname : String) : Set FindingContent :=
  { content | ∃ row ∈ rows, row.location = endpointPath hostname ∧ row.IsWeakness ∧
    row.content = content }

def implied (findings : List Finding) : Set FindingContent :=
  { content | ∃ finding ∈ findings, finding.content = content }

variable (database) in
structure Reflects (rows : List FindingRecord) (latest : String → List Finding) : Prop where
  exact : ∀ hostname, weaknesses rows hostname = implied (latest hostname)
  ids : ∀ hostname, ∀ row ∈ rows, row.location = endpointPath hostname → row.IsWeakness →
    row.id = database.stableId row.key

variable (database) in
structure Refreshes (rows : List FindingRecord) (hostname : String) (findings : List Finding) :
    Prop where
  single : ∀ finding ∈ findings,
    (database.lastUnder (database.stableId finding.key) findings).map Finding.content =
      some finding.content
  again : ∀ row ∈ rows, row.location = endpointPath hostname → row.IsWeakness →
    ∃ finding ∈ findings, finding.title = row.title
  apart : ∀ other, other ≠ hostname → ∀ row ∈ rows, row.location = endpointPath other →
    row.IsWeakness → ∀ finding ∈ findings, database.stableId finding.key ≠ row.id

private theorem refreshes_of_own (mine : ∀ row ∈ rows, row.location = endpointPath hostname)
    (single : ∀ finding ∈ findings,
      (database.lastUnder (database.stableId finding.key) findings).map Finding.content =
        some finding.content)
    (again : ∀ row ∈ rows, ∃ finding ∈ findings, finding.title = row.title) :
    Refreshes database rows hostname findings where
  single := single
  again row member _ _ := again row member
  apart _ differ row member location _ _ _ :=
    absurd (endpointPath_injective (location.symm.trans (mine row member))) differ

private theorem content_of_records {finding : Finding} {row : FindingRecord}
    (records : database.Records scanId finding row) :
    row.content = finding.content ∧ row.key = finding.key ∧ row.category = finding.category ∧
      row.location = finding.asset.path := by
  rcases records with ⟨scannerId, createdAt, previous, rfl⟩
  exact ⟨rfl, rfl, rfl, rfl⟩

private theorem reflects_stored (reflects : Reflects database rows latest)
    (refreshes : Refreshes database rows hostname findings)
    (own : ∀ finding ∈ findings, finding.asset.path = endpointPath hostname ∧
      (finding.category = .weakAlgorithm ∨ finding.category = .missingPqc))
    (stored : database.Stored scanId rows findings after) :
    Reflects database after (Function.update latest hostname findings) := by
  have unwritten : ∀ row ∈ rows, row.location = endpointPath hostname → row.IsWeakness →
      database.lastUnder row.id findings ≠ none := by
    intro row member location weak unused
    rcases refreshes.again row member location weak with ⟨finding, isFinding, title⟩
    have sameKey : finding.key = row.key :=
      Prod.ext ((own finding isFinding).1.trans location.symm) title
    apply Database.lastUnder_eq_none_iff.mp unused finding isFinding
    rw [sameKey, reflects.ids hostname row member location weak]
  have cases : ∀ other, ∀ row ∈ after, row.location = endpointPath other → row.IsWeakness →
      (other ≠ hostname ∧ row ∈ rows) ∨
        other = hostname ∧ ∃ finding ∈ findings, database.Records scanId finding row := by
    intro other row member location weak
    rcases stored.only row member with ⟨unused, isOld⟩ | ⟨finding, isLast, records⟩
    · refine .inl ⟨fun same => ?_, isOld⟩
      subst same
      exact unwritten row isOld location weak unused
    · have isFinding := (Database.mem_of_lastUnder isLast).1
      refine .inr ⟨endpointPath_injective ?_, finding, isFinding, records⟩
      rw [← location, (content_of_records records).2.2.2, (own finding isFinding).1]
  constructor
  · intro other
    by_cases same : other = hostname
    · subst same
      rw [Function.update_self]
      ext content
      constructor
      · rintro ⟨row, member, location, weak, rfl⟩
        rcases cases other row member location weak with
          ⟨differ, _⟩ | ⟨_, finding, isFinding, records⟩
        · exact absurd rfl differ
        · exact ⟨finding, isFinding, (content_of_records records).1.symm⟩
      · rintro ⟨finding, isFinding, rfl⟩
        rcases Option.map_eq_some_iff.mp (refreshes.single finding isFinding) with
          ⟨last, isLast, sameContent⟩
        rcases stored.new _ last isLast with ⟨row, member, records⟩
        rcases content_of_records records with ⟨content, _, category, location⟩
        rcases own last (Database.mem_of_lastUnder isLast).1 with ⟨path, weak⟩
        refine ⟨row, member, location.trans path, ?_, content.trans sameContent⟩
        rwa [FindingRecord.IsWeakness, category]
    · rw [Function.update_of_ne same, ← reflects.exact other]
      ext content
      constructor
      · rintro ⟨row, member, location, weak, rfl⟩
        rcases cases other row member location weak with ⟨_, isOld⟩ | ⟨isSame, _⟩
        · exact ⟨row, isOld, location, weak, rfl⟩
        · exact absurd isSame same
      · rintro ⟨row, member, location, weak, rfl⟩
        have unused := Database.lastUnder_eq_none_iff.mpr
          (refreshes.apart other same row member location weak)
        exact ⟨row, stored.old row member unused, location, weak, rfl⟩
  · intro other row member location weak
    rcases cases other row member location weak with ⟨_, isOld⟩ | ⟨_, finding, _, records⟩
    · exact reflects.ids other row isOld location weak
    · rw [records.fields.1, (content_of_records records).2.1]

end Rows

structure ReportState where
  posture : PostureState
  latest : String → List Finding

namespace EndpointGateway

variable {gateway : EndpointGateway} {state : ReportState} {request : AgentRequest}

def rows (state : ReportState) : List FindingRecord :=
  Database.allFindings state.posture.tables PostureGateway.defaultTenant

variable (gateway) in
def step (state : ReportState) (request : AgentRequest) : ReportState where
  posture := (gateway.report state.posture request).2
  latest :=
    match gateway.accepted request with
    | .error _ => state.latest
    | .ok report =>
      Function.update state.latest report.hostname (gateway.findingsOf report request.draw)

variable (gateway) in
def Fits (state : ReportState) (request : AgentRequest) : Prop :=
  ∀ report, gateway.accepted request = .ok report →
    Refreshes gateway.posture.database (rows state) report.hostname
      (gateway.findingsOf report request.draw)

variable (gateway) in
def Exact (state : ReportState) : Prop :=
  Reflects gateway.posture.database (rows state) state.latest

theorem rows_step {report : EndpointReport} (accepted : gateway.accepted request = .ok report) :
    rows (gateway.step state request) =
      gateway.posture.database.recordAll request.draw.scanId "host-agent" request.draw.clock
        (gateway.findingsOf report request.draw) (rows state) := by
  have snapshot : ∀ tables summary,
      Database.allFindings (Database.recordPosture tables PostureGateway.defaultTenant summary)
        PostureGateway.defaultTenant = Database.allFindings tables PostureGateway.defaultTenant :=
    fun tables summary => Database.allFindings_of_table
      (@Database.table_apply gateway.posture.database .findings tables
        (.recordPosture _ summary) (by simp [StoreOp.writes])) _
  have endpoint : ∀ row,
      Database.allFindings (gateway.posture.database.upsertEndpoint state.posture.tables
        PostureGateway.defaultTenant row) PostureGateway.defaultTenant = rows state :=
    fun row => Database.allFindings_of_table
      (@Database.table_apply gateway.posture.database .findings state.posture.tables
        (.upsertEndpoint _ row) (by simp [StoreOp.writes])) _
  rw [rows, step, EndpointGateway.report]
  simp only [accepted]
  rw [PostureGateway.report, PostureGateway.recomputeAndSnapshot, snapshot,
    Database.allFindings_recordScan, endpoint]
  rfl

private theorem step_exact (fits : gateway.Fits state request) (exact : gateway.Exact state) :
    gateway.Exact (gateway.step state request) := by
  cases accepted : gateway.accepted request with
  | error reply =>
    simp only [Exact, rows, step, report, accepted]
    exact exact
  | ok report =>
    rw [Exact, rows_step accepted, step, accepted]
    exact reflects_stored exact (fits report accepted)
      (fun finding member => mem_componentsToFindings member)
      (Database.stored_recordAll _ _)

/-- Where every report refreshes the rows of its host, the weaknesses stored for a host are those
of its latest report. -/
theorem weaknesses_of_latest {posture : PostureState} {requests : List AgentRequest}
    {final : ReportState}
    (clean : ∀ hostname, weaknesses
      (Database.allFindings posture.tables PostureGateway.defaultTenant) hostname = ∅)
    (run : Run gateway.step gateway.Fits ⟨posture, fun _ => []⟩ requests final)
    (hostname : String) :
    weaknesses (rows final) hostname = implied (final.latest hostname) := by
  have start : gateway.Exact ⟨posture, fun _ => []⟩ := by
    constructor
    · intro host
      show weaknesses (Database.allFindings posture.tables PostureGateway.defaultTenant) host = _
      rw [clean host, implied]
      simp
    · intro host row member location weak
      have stored : row.content ∈ weaknesses
          (Database.allFindings posture.tables PostureGateway.defaultTenant) host :=
        ⟨row, member, location, weak, rfl⟩
      rw [clean host] at stored
      exact absurd stored (Set.notMem_empty _)
  have atEnd : gateway.Exact final := run.invariant (fun _ _ fits => step_exact fits) start
  exact atEnd.exact hostname

def hostGateway : EndpointGateway where
  posture := PostureGateway.sampleGateway
  casing := asciiCase
  enrollToken := some "enrolled"

def hostReport (secureBoot : Option SecureBoot) (disk : Option DiskEncryption) : AgentRequest where
  token := some "enrolled"
  body := .ok ⟨"web-1", none, secureBoot, none, disk, [], [], []⟩
  draw := ⟨"e1", "", "t1", "s1", fun _ => ⟨0⟩, fun _ => ⟨0⟩, [], ⟨0⟩⟩

theorem accepted_hostReport (secureBoot : Option SecureBoot) (disk : Option DiskEncryption) :
    hostGateway.accepted (hostReport secureBoot disk) =
      .ok ⟨"web-1", none, secureBoot, none, disk, [], [], []⟩ := by
  have admitted : hostGateway.admits (some "enrolled") = true := by decide
  have named : (trim "web-1").isEmpty = false := by decide +kernel
  simp [accepted, hostReport, admitted, named]

def emptyGateway : ReportState := ⟨⟨.empty, [], none⟩, fun _ => []⟩

theorem unencrypted_disk_stays :
    let final := [hostReport none (some ⟨false, none, none, none⟩),
      hostReport none (some ⟨true, some "LUKS", some "AES-256-XTS", some 256⟩)].foldl
        hostGateway.step emptyGateway
    final.latest "web-1" = [] ∧
      (rows final).map (fun row => (row.location, row.category, row.description)) =
        [("endpoint/web-1", .weakAlgorithm,
          "Disk is not encrypted — data at rest is exposed if the device is lost or seized.")] := by
  refine ⟨by decide +kernel, ?_⟩
  rw [List.foldl_cons, List.foldl_cons, List.foldl_nil, rows_step (accepted_hostReport _ _),
    rows_step (accepted_hostReport _ _)]
  decide +kernel

theorem secure_boot_updated :
    let final := [hostReport (some ⟨false, none⟩) none,
      hostReport (some ⟨true, some "RSA-2048"⟩) none].foldl hostGateway.step emptyGateway
    weaknesses (rows final) "web-1" = implied (final.latest "web-1") := by
  intro final
  have run : Run hostGateway.step hostGateway.Fits emptyGateway
      [hostReport (some ⟨false, none⟩) none, hostReport (some ⟨true, some "RSA-2048"⟩) none]
      final := by
    refine .cons ?_ (.cons ?_ (.nil _))
    · intro report accepted
      rw [accepted_hostReport] at accepted
      cases accepted
      apply refreshes_of_own
      · decide +kernel
      · decide +kernel
      · decide +kernel
    · intro report accepted
      rw [accepted_hostReport] at accepted
      cases accepted
      rw [rows_step (accepted_hostReport _ _)]
      apply refreshes_of_own
      · decide +kernel
      · decide +kernel
      · decide +kernel
  refine weaknesses_of_latest (fun hostname => ?_) run "web-1"
  rw [Set.eq_empty_iff_forall_notMem]
  rintro content ⟨row, member, _⟩
  exact absurd member List.not_mem_nil

end EndpointGateway

end QuantaWatch.Gateway
