import QuantaWatch.Gateway.Clients
import QuantaWatch.Gateway.ScanSchedule
import QuantaWatch.Gateway.Webhooks

/-!
Whom the gateway contacts, and air-gapped mode (`air_gapped` in `config.rs`).

Every request and every background task that can reach an integration, a connector, a
certificate-transparency service, an alert channel or the evidence sink is an event
here. Each of them checks the mode on its own, or does not.
-/

namespace QuantaWatch.Gateway

open Crypto Lib.Text Lib.Transition Store

inductive Contact where
  | integration (id : String)
  | connector (config : ConnectorConfig)
  | ctService (base : String)
  | alertChannel (id : String)
  | evidenceSink (url : String)
deriving DecidableEq

structure EvidenceDelivery where
  intervalSecs : Nat
  sinkUrlEnv : String
  tenants : List String

def CRT_SH : String := "https://crt.sh"

structure OutboundGateway where
  database : Database
  airGapped : Bool
  alerts : AlertManager
  alerts_airGapped : alerts.airGapped = airGapped
  env : String → Option String
  integrations : List IntegrationSettings
  connectionFields : ConnectionRow → ConnectionFields
  hasAssets : Bool
  connectors : List ConnectorConfig
  accountToken : Bool
  evidenceDelivery : Option EvidenceDelivery
  publicCt : String → Bool
  crtSh_public : publicCt CRT_SH = true

abbrev OutboundOutcome := Emission Tables Contact

/-- `fire` contacts every channel whose floor the event reaches. -/
def AlertManager.contacts (manager : AlertManager) (event : AlertEvent) : List Contact :=
  if manager.enabled && !manager.airGapped then
    (manager.channels.filter fun channel =>
      severityRank (manager.floor channel) ≤ severityRank event.severity).map fun channel =>
        .alertChannel channel.id
  else []

structure Filing where
  integrationId : String
  project : Option String
  ticket : Option RemediationTicket

structure Poll where
  answer : RemediationTicket → Option TicketStatus
  moment : RemediationTicket → WebhookMoment

structure EvaluatedPolicy where
  action : String
  violations : List String

/-- A request of the admin API, a step of a background task, or an alert of either. `record`
is what the results of a scan or of a test write. -/
inductive GatewayEvent where
  | testIntegration (id : String)
  | syncIntegration (id : String)
  | registerWebhook (id : String)
  | scanIntegration (id : String) (record : Tables → Tables)
  | testConnection (tenant id : String) (record : Tables → Tables)
  | scanConnection (tenant id : String) (record : Tables → Tables)
  | remediate (tenant findingId : String) (filing : Filing)
  | remediatePath (tenant pathId : String) (paths : List String) (filing : Filing)
  | enforcePolicy (tenant : String) (policy : Option EvaluatedPolicy)
      (integrationId project : Option String) (dryRun : Bool)
      (ticket : String → Option RemediationTicket)
  | syncRemediations (tenant : String) (poll : Poll)
  | ctScan (domain : String) (record : Tables → Tables)
  | syncAssets (record : Tables → Tables)
  | alert (tenant : String) (event : AlertEvent) (deliver : AlertChannelConfig → Bool)
  | scheduledAssets (record : Tables → Tables)
  | scheduledTickets (tenant : String) (poll : Poll)
  | evidenceTick
  | other (change : Tables → Tables)

namespace OutboundGateway

variable (gateway : OutboundGateway)

def integration (id : String) : Option Integration :=
  registered gateway.env gateway.integrations id

/-- The refusal of `air_gapped_refusal`, or what the handler does. -/
def unlessAirGapped (tables : Tables) (handler : OutboundOutcome) : OutboundOutcome :=
  if gateway.airGapped then .silent tables else handler

def ask (client : Option Integration) (contacts : Integration → Bool) (record : Tables → Tables)
    (tables : Tables) : OutboundOutcome :=
  match client with
  | none => .silent tables
  | some integration =>
    if contacts integration then ⟨[.integration integration.id], record tables⟩
    else .silent tables

def connection (tables : Tables) (tenant id : String) : Option Integration :=
  (gateway.database.getConnection tables tenant id).bind fun row =>
    buildOne gateway.env (toConfig row (gateway.connectionFields row))

/-- `create_remediation`, with the ticket recorded. -/
def createRemediation (integration : Integration) (tenant : String) (project : Option String)
    (ticket : Option RemediationTicket) (tables : Tables) : OutboundOutcome :=
  ask (some integration) (Integration.files project)
    (fun tables =>
      match ticket with
      | none => tables
      | some ticket =>
        gateway.database.recordRemediation tables tenant
          { ticket with integrationId := integration.id }) tables

/-- The part of `remediate` and `remediate_path` from the look-up of the integration on. -/
def file (tenant : String) (filing : Filing) (tables : Tables) : OutboundOutcome :=
  match gateway.integration filing.integrationId with
  | none => .silent tables
  | some integration =>
    gateway.createRemediation integration tenant filing.project filing.ticket tables

/-- One violation, in `enforce_policy`. -/
def enforceViolation (integration : Integration) (tenant : String) (project : Option String)
    (dryRun : Bool) (ticket : String → Option RemediationTicket) (findingId : String)
    (tables : Tables) : OutboundOutcome :=
  if dryRun ∨ Database.getFinding tables tenant findingId = none then .silent tables
  else gateway.createRemediation integration tenant project (ticket findingId) tables

def enforcePolicy (tenant : String) (policy : Option EvaluatedPolicy)
    (integrationId project : Option String) (dryRun : Bool)
    (ticket : String → Option RemediationTicket) (tables : Tables) : OutboundOutcome :=
  match policy with
  | none => .silent tables
  | some policy =>
    -- A compliant policy and the action "alert" need no integration.
    if policy.violations = [] ∨ policy.action = "alert" then .silent tables
    else
      gateway.unlessAirGapped tables <|
        match integrationId.bind gateway.integration with
        | none => .silent tables
        | some integration =>
          Emission.each
            (gateway.enforceViolation integration tenant project dryRun ticket)
            policy.violations tables

def isTerminal (ticket : RemediationTicket) : Bool :=
  ticket.status = .resolved || ticket.status = .closed

def syncedAlert (moment : WebhookMoment) (ticket : RemediationTicket) : AlertEvent :=
  { newAlert moment.alertId moment.alertAt "remediation_resolved" .info "Remediation resolved"
      ("Ticket " ++ ticket.externalId ++ " was resolved/merged (was " ++
        ticketStatusName ticket.status ++ ").") with
    metadata := [("ticket", ticket.externalId)] }

def reconcileTicket (tenant : String) (poll : Poll) (ticket : RemediationTicket)
    (tables : Tables) : OutboundOutcome :=
  match poll.answer ticket with
  | none => .silent tables
  | some status =>
    if status ≠ ticket.status ∧ status ≠ .unknown then
      let moment := poll.moment ticket
      let recorded := gateway.database.recordRemediation tables tenant
        { ticket with status, updatedAt := moment.now }
      if status = .resolved then
        ⟨gateway.alerts.contacts (syncedAlert moment ticket),
          gateway.alerts.fire gateway.database recorded tenant (syncedAlert moment ticket)
            moment.deliver⟩
      else .silent recorded
    else .silent tables

/-- One ticket of `sync_ticket_status`. A client that does not ask says `Unknown`, which changes
nothing. -/
def syncTicket (tenant : String) (poll : Poll) (ticket : RemediationTicket) (tables : Tables) :
    OutboundOutcome :=
  if isTerminal ticket then .silent tables
  else
    match gateway.integration ticket.integrationId with
    | none => .silent tables
    | some integration =>
      if integration.polls then
        let reconciled := gateway.reconcileTicket tenant poll ticket tables
        ⟨.integration integration.id :: reconciled.output, reconciled.state⟩
      else .silent tables

def syncTicketStatus (tenant : String) (poll : Poll) (tables : Tables) : OutboundOutcome :=
  Emission.each (gateway.syncTicket tenant poll) (Database.listRemediations tables tenant) tables

/-- The base URL of `CtScanner`: `with_base_url` ignores a blank one. -/
def ctBase : String :=
  match gateway.env "QW_CT_BASE_URL" with
  | none => CRT_SH
  | some url =>
    if trim url = "" then CRT_SH
    else String.ofList (url.toList.reverse.dropWhile fun char => char = '/').reverse

/-- The connectors that `sync_assets` asks. -/
def asked : List ConnectorConfig :=
  (if gateway.airGapped then gateway.connectors.filter ConnectorConfig.isKubernetes
    else gateway.connectors.filter ConnectorConfig.isApiConnector).filter fun connector =>
      connector.reaches gateway.env gateway.accountToken

def syncAssets (record : Tables → Tables) (tables : Tables) : OutboundOutcome :=
  ⟨gateway.asked.map .connector, record tables⟩

/-- `deliver_evidence`. -/
def deliverEvidence (delivery : EvidenceDelivery) (tables : Tables) : OutboundOutcome :=
  gateway.unlessAirGapped tables <|
    match gateway.env delivery.sinkUrlEnv with
    | none => .silent tables
    | some url =>
      ⟨(if delivery.tenants = [] then [DEFAULT_TENANT] else delivery.tenants).map fun _ =>
        .evidenceSink url, tables⟩

def perform (event : GatewayEvent) (tables : Tables) : OutboundOutcome :=
  match event with
  | .testIntegration id =>
    gateway.unlessAirGapped tables
      (ask (gateway.integration id) (fun _ => true) (fun tables => tables) tables)
  | .syncIntegration id =>
    gateway.unlessAirGapped tables
      (ask (gateway.integration id) Integration.discovers (fun tables => tables) tables)
  | .registerWebhook id =>
    gateway.unlessAirGapped tables
      (ask (gateway.integration id) Integration.registers (fun tables => tables) tables)
  | .scanIntegration id record =>
    gateway.unlessAirGapped tables
      (ask (gateway.integration id) Integration.discovers record tables)
  | .testConnection tenant id record =>
    gateway.unlessAirGapped tables
      (ask (gateway.connection tables tenant id) (fun _ => true) record tables)
  | .scanConnection tenant id record =>
    gateway.unlessAirGapped tables
      (ask (gateway.connection tables tenant id) Integration.discovers record tables)
  | .remediate tenant findingId filing =>
    gateway.unlessAirGapped tables
      (if Database.getFinding tables tenant findingId = none then .silent tables
        else gateway.file tenant filing tables)
  -- No check of the mode.
  | .remediatePath tenant pathId paths filing =>
    if pathId ∈ paths then gateway.file tenant filing tables else .silent tables
  | .enforcePolicy tenant policy integrationId project dryRun ticket =>
    gateway.enforcePolicy tenant policy integrationId project dryRun ticket tables
  -- No check of the mode, neither here nor in the background tasks.
  | .syncRemediations tenant poll => gateway.syncTicketStatus tenant poll tables
  -- No check of the mode.
  | .ctScan domain record =>
    if trim domain = "" then .silent tables else ⟨[.ctService gateway.ctBase], record tables⟩
  | .syncAssets record => gateway.syncAssets record tables
  | .alert tenant event deliver =>
    ⟨gateway.alerts.contacts event,
      gateway.alerts.fire gateway.database tables tenant event deliver⟩
  | .scheduledAssets record =>
    if gateway.hasAssets ∨ gateway.connectors ≠ [] then gateway.syncAssets record tables
    else .silent tables
  | .scheduledTickets tenant poll => gateway.syncTicketStatus tenant poll tables
  | .evidenceTick =>
    match gateway.evidenceDelivery with
    | none => .silent tables
    | some delivery =>
      if delivery.intervalSecs = 0 then .silent tables
      else gateway.deliverEvidence delivery tables
  | .other change => .silent (change tables)

def history (events : List GatewayEvent) (tables : Tables) : OutboundOutcome :=
  Emission.each gateway.perform events tables

def outside : Contact → Bool
  | .integration _ => true
  | .connector config => config.isPublicCloud
  | .ctService base => gateway.publicCt base
  | .alertChannel _ => true
  | .evidenceSink _ => true

abbrev Inside (outcome : OutboundOutcome) : Prop :=
  outcome.All fun contact => gateway.outside contact = false

def Unasked (id : String) (contacts : Integration → Bool) : Prop :=
  ∀ integration ∈ gateway.integration id, contacts integration = false

def Quiet (tables : Tables) : GatewayEvent → Prop
  | .remediatePath _ pathId paths filing =>
    pathId ∈ paths → gateway.Unasked filing.integrationId (Integration.files filing.project)
  | .syncRemediations tenant _ | .scheduledTickets tenant _ =>
    ∀ ticket ∈ Database.listRemediations tables tenant,
      isTerminal ticket = false → gateway.Unasked ticket.integrationId Integration.polls
  | .ctScan domain _ => trim domain ≠ "" → gateway.publicCt gateway.ctBase = false
  | _ => True

section AirGapped

variable {gateway} {tables : Tables} {record : Tables → Tables} {tenant : String} {poll : Poll}

theorem inside_ask_iff {client : Option Integration} {contacts : Integration → Bool} :
    gateway.Inside (ask client contacts record tables) ↔
      ∀ integration ∈ client, contacts integration = false := by
  cases client with
  | none => simp [ask]
  | some integration =>
    by_cases contacted : contacts integration = true
    · simp [ask, contacted, outside]
    · simp [ask, contacted]

theorem inside_file_iff {filing : Filing} : gateway.Inside (gateway.file tenant filing tables) ↔
      gateway.Unasked filing.integrationId (Integration.files filing.project) := by
  unfold file Unasked
  cases gateway.integration filing.integrationId with
  | none => simp
  | some integration => exact inside_ask_iff

theorem inside_syncTicket_iff {ticket : RemediationTicket} :
    gateway.Inside (gateway.syncTicket tenant poll ticket tables) ↔
      (isTerminal ticket = false → gateway.Unasked ticket.integrationId Integration.polls) := by
  unfold syncTicket Unasked
  by_cases terminal : isTerminal ticket = true
  · simp [terminal]
  · cases gateway.integration ticket.integrationId with
    | none => simp [terminal]
    | some integration =>
      by_cases polled : integration.polls = true
      · simp [terminal, polled, outside]
      · simp [terminal, polled]

theorem inside_syncTicketStatus_iff : gateway.Inside (gateway.syncTicketStatus tenant poll tables) ↔
      ∀ ticket ∈ Database.listRemediations tables tenant,
        isTerminal ticket = false → gateway.Unasked ticket.integrationId Integration.polls :=
  Emission.all_each_iff fun _ _ => inside_syncTicket_iff

variable (airGapped : gateway.airGapped = true)
include airGapped

theorem unlessAirGapped_eq {handler : OutboundOutcome} :
    gateway.unlessAirGapped tables handler = .silent tables := by
  rw [unlessAirGapped, airGapped, if_pos rfl]

theorem alert_contacts_eq_nil (event : AlertEvent) : gateway.alerts.contacts event = [] := by
  simp [AlertManager.contacts, gateway.alerts_airGapped, airGapped]

theorem inside_enforcePolicy {policy : Option EvaluatedPolicy}
    {integrationId project : Option String} {dryRun : Bool}
    {ticket : String → Option RemediationTicket} : gateway.Inside
      (gateway.enforcePolicy tenant policy integrationId project dryRun ticket tables) := by
  unfold enforcePolicy
  cases policy with
  | none => exact Emission.all_silent
  | some policy =>
    dsimp only
    split
    · exact Emission.all_silent
    · rw [unlessAirGapped_eq airGapped]
      exact Emission.all_silent

theorem inside_syncAssets : gateway.Inside (gateway.syncAssets record tables) := by
  intro contact member
  simp only [syncAssets, asked, airGapped, if_true, List.mem_map, List.mem_filter] at member
  rcases member with ⟨connector, ⟨⟨_, kubernetes⟩, _⟩, rfl⟩
  exact connector.isPublicCloud_of_isKubernetes kubernetes

theorem inside_evidenceTick : gateway.Inside (gateway.perform .evidenceTick tables) := by
  simp only [perform]
  split
  · exact Emission.all_silent
  · split
    · exact Emission.all_silent
    · rw [deliverEvidence, unlessAirGapped_eq airGapped]
      exact Emission.all_silent

theorem inside_perform_iff (event : GatewayEvent) (tables : Tables) :
    gateway.Inside (gateway.perform event tables) ↔ gateway.Quiet tables event := by
  cases event with
  | testIntegration | syncIntegration | registerWebhook | scanIntegration | testConnection
  | scanConnection | remediate =>
    simp [perform, Quiet, unlessAirGapped_eq airGapped]
  | remediatePath tenant pathId paths filing =>
    by_cases found : pathId ∈ paths
    · simpa only [perform, Quiet, found, if_true, true_imp_iff] using inside_file_iff
    · simp [perform, Quiet, found]
  | enforcePolicy => exact iff_of_true (inside_enforcePolicy airGapped) trivial
  | syncRemediations => exact inside_syncTicketStatus_iff
  | ctScan domain record =>
    by_cases blank : trim domain = ""
    · simp [perform, Quiet, blank]
    · simp [perform, Quiet, blank, outside]
  | syncAssets => exact iff_of_true (inside_syncAssets airGapped) trivial
  | alert tenant event deliver =>
    simp [perform, Quiet, alert_contacts_eq_nil airGapped]
  | scheduledAssets record =>
    refine iff_of_true ?_ trivial
    simp only [perform]
    split
    · exact inside_syncAssets airGapped
    · exact Emission.all_silent
  | scheduledTickets => exact inside_syncTicketStatus_iff
  | evidenceTick => exact iff_of_true (inside_evidenceTick airGapped) trivial
  | other => simp [perform, Quiet]

/-- An air-gapped gateway contacts nobody outside in exactly those histories in which every
event is quiet in the tables it meets. -/
theorem history_inside_iff (events : List GatewayEvent) (tables : Tables) :
    gateway.Inside (gateway.history events tables) ↔
      Run (fun tables event => (gateway.perform event tables).state) gateway.Quiet tables events
        (gateway.history events tables).state :=
  Emission.all_each_iff_run (inside_perform_iff airGapped)

end AirGapped

end OutboundGateway

namespace SampleEnclave

def epoch : DateTime := ⟨0⟩

def enclave (ctBaseUrl : Option String) : OutboundGateway where
  database := Database.sampleDatabase .postgres
  airGapped := true
  alerts := ⟨true, true, [⟨"ops", none⟩], fun label => label⟩
  alerts_airGapped := rfl
  env name :=
    if name = "QW_CT_BASE_URL" then ctBaseUrl
    else if name = "JIRA_TOKEN" ∨ name = "SINK_URL" ∨ name = "AWS_ACCESS_KEY_ID" ∨
      name = "AWS_SECRET_ACCESS_KEY" then some "set"
    else none
  integrations :=
    [⟨"jira", "jira", some "https://jira.example", "JIRA_TOKEN", none, some "SEC",
      fun name => if name = "email" then some "ops@example" else none⟩]
  connectionFields _ := ⟨"github", none, none, none, none⟩
  hasAssets := false
  connectors := [⟨"aws", [], []⟩, ⟨"k8s", ["https://10.0.0.1"], []⟩]
  accountToken := true
  evidenceDelivery := some ⟨60, "SINK_URL", []⟩
  publicCt base := base = CRT_SH
  crtSh_public := by decide

def ticket : RemediationTicket :=
  ⟨"r1", "jira", "SEC-1", "https://jira.example/browse/SEC-1", .opened, "flow:bot->openai", epoch,
    epoch⟩

def noAnswer : Poll := ⟨fun _ => none, fun _ => ⟨epoch, "a1", epoch, fun _ => false⟩⟩

theorem enclave_contacts_outside :
    let gateway := enclave none
    let contacts := (gateway.history
      [.remediatePath "default" "flow:bot->openai" ["flow:bot->openai"]
          ⟨"jira", none, some ticket⟩,
        .scheduledTickets "default" noAnswer,
        .ctScan "example.com" fun tables => tables] .empty).output
    gateway.airGapped = true ∧
      contacts = [.integration "jira", .integration "jira", .ctService "https://crt.sh"] ∧
      ∀ contact ∈ contacts, gateway.outside contact = true := by
  decide +kernel

def quietDay : List GatewayEvent :=
  [.testIntegration "jira",
    .remediate "default" "f1" ⟨"jira", none, some ticket⟩,
    .alert "default" (newAlert "a1" epoch "posture_drop" .critical "Posture" "fell") fun _ => true,
    .scheduledAssets fun tables => tables,
    .scheduledTickets "default" noAnswer,
    .ctScan "example.com" fun tables => tables,
    .evidenceTick]

theorem quietDay_quiet : Run (fun tables event =>
        ((enclave (some "http://ct.internal/")).perform event tables).state)
      (enclave (some "http://ct.internal/")).Quiet .empty quietDay
      ((enclave (some "http://ct.internal/")).history quietDay .empty).state := by
  refine .cons trivial (.cons trivial (.cons trivial (.cons trivial (.cons ?_ (.cons ?_
    (.cons trivial (.nil _)))))))
  · -- The refused request recorded no ticket.
    have none : Database.listRemediations ((enclave (some "http://ct.internal/")).history
        (quietDay.take 4) .empty).state "default" = [] := by
      decide +kernel
    intro ticket member
    exact absurd (none ▸ member) List.not_mem_nil
  · intro _
    decide +kernel

theorem quietDay_inside :
    (enclave (some "http://ct.internal/")).airGapped = true ∧
      (enclave (some "http://ct.internal/")).Inside
        ((enclave (some "http://ct.internal/")).history quietDay .empty) :=
  ⟨rfl, (OutboundGateway.history_inside_iff rfl quietDay .empty).mpr quietDay_quiet⟩

end SampleEnclave

end QuantaWatch.Gateway
