import QuantaWatch.Gateway.Auth
import QuantaWatch.Gateway.Providers
import QuantaWatch.Store.Tickets

/-!
Webhooks by which GitHub, Jira and Linear report the state of tickets
(`admin/webhooks.rs`), and the alerts about it (`alerts.rs`).
-/

namespace QuantaWatch.Gateway

open Crypto Lib Lib.Encoding Lib.Json Store

/-- `Ord` of the severities. -/
def severityRank : AlertSeverity → Nat
  | .info => 0
  | .warning => 1
  | .critical => 2

def severityFromLabel (lowercase : String → String) (label : String) : AlertSeverity :=
  if lowercase label = "critical" then .critical
  else if lowercase label = "warning" then .warning
  else .info

def newAlert (id : String) (timestamp : DateTime) (kind : String) (severity : AlertSeverity)
    (title message : String) : AlertEvent where
  id
  timestamp
  kind
  severity
  title
  message
  metadata := []
  delivered := 0

structure AlertChannelConfig where
  id : String
  minSeverity : Option String

structure AlertManager where
  enabled : Bool
  airGapped : Bool
  channels : List AlertChannelConfig
  lowercase : String → String

namespace AlertManager

variable (manager : AlertManager)

def floor (channel : AlertChannelConfig) : AlertSeverity :=
  (channel.minSeverity.map (severityFromLabel manager.lowercase)).getD .info

/-- The event is recorded in any case. `deliver` says which channels take it. -/
def fire (database : Database) (tables : Tables) (tenant : String) (event : AlertEvent)
    (deliver : AlertChannelConfig → Bool) : Tables :=
  let delivered :=
    if manager.enabled && !manager.airGapped then
      UInt32.ofNat (manager.channels.countP fun channel =>
        severityRank (manager.floor channel) ≤ severityRank event.severity && deliver channel)
    else event.delivered
  database.recordAlert tables tenant { event with delivered }

end AlertManager

structure IntegrationConfig where
  id : String
  webhookSecretEnv : Option String

structure WebhookPlatform where
  hmacSha256 : Bytes → Bytes → Bytes
  floats : FloatText
  env : String → Option String

structure WebhookGateway where
  platform : WebhookPlatform
  database : Database
  alerts : AlertManager
  auth : AuthConfig
  /-- `auth.webhook_secret_env` -/
  webhookSecretEnv : Option String
  integrations : List IntegrationConfig

inductive WebhookRoute where
  | github
  | jira
  | linear
deriving DecidableEq

structure WebhookRequest where
  route : WebhookRoute
  /-- The header `x-hub-signature-256`, where it is text. -/
  signature : Option String
  /-- The header `x-github-event`, where it is text. -/
  event : Option String
  body : Body

structure WebhookMoment where
  now : DateTime
  alertId : String
  alertAt : DateTime
  deliver : AlertChannelConfig → Bool

inductive WebhookReply where
  /-- Status 401 with the error `bad signature`. -/
  | badSignature
  /-- Status 200 with `ok` and `updated`. -/
  | ok (updated : Bool)

def Body.bytes : Body → Bytes
  | .text content => utf8Chars content
  | .binary bytes => bytes

/-- `value[a][b]…`, null where a member is missing. -/
def memberAt (path : List String) (value : Value) : Value :=
  path.foldl (fun value key => (value.get key).getD .null) value

/-- `Debug` -/
def ticketStatusName : TicketStatus → String
  | .opened => "Open"
  | .inProgress => "InProgress"
  | .resolved => "Resolved"
  | .closed => "Closed"
  | .unknown => "Unknown"

def githubChange (event : Option String) (payload : Value) : Option (String × TicketStatus) :=
  if event.getD "" = "pull_request" && (memberAt ["action"] payload).asStr = some "closed" then
    let number := ((memberAt ["number"] payload).asU64 <|>
      (memberAt ["pull_request", "number"] payload).asU64).getD 0
    let merged := (memberAt ["pull_request", "merged"] payload).asBool.getD false
    some ("#" ++ toString number.toNat, if merged then .resolved else .closed)
  else none

def jiraChange (payload : Value) : Option (String × TicketStatus) :=
  let key := (memberAt ["issue", "key"] payload).asStr.getD ""
  let category :=
    (memberAt ["issue", "fields", "status", "statusCategory", "key"] payload).asStr.getD ""
  let status : TicketStatus :=
    if category = "done" then .resolved
    else if category = "indeterminate" then .inProgress
    else .opened
  if key = "" then none else some (key, status)

def linearChange (payload : Value) : Option (String × TicketStatus) :=
  let id := (memberAt ["data", "id"] payload).asStr.getD ""
  let state := (memberAt ["data", "state", "type"] payload).asStr.getD ""
  let status : TicketStatus :=
    if state = "completed" then .resolved
    else if state = "canceled" then .closed
    else if state = "started" then .inProgress
    else .opened
  if id = "" then none else some (id, status)

def isPending (change : String × TicketStatus) (ticket : RemediationTicket) : Bool :=
  ticket.externalId = change.1 && ticket.status ≠ change.2

namespace WebhookGateway

variable (gateway : WebhookGateway) (tables : Tables)

/-- `background::all_tenants`: an ordered set. -/
def allTenants : List String :=
  Collections.sortOn id
    ("default" :: Database.tenants tables ++ gateway.auth.users.map UserConfig.org ++
      gateway.auth.apiKeys.map ApiKeyConfig.org).dedup

def findTicket (change : String × TicketStatus) : Option (String × RemediationTicket) :=
  (gateway.allTenants tables).findSome? fun tenant =>
    ((Database.listRemediations tables tenant).find? (isPending change)).map (tenant, ·)

def resolvedAlert (moment : WebhookMoment) (ticket : RemediationTicket)
    (change : String × TicketStatus) : AlertEvent :=
  { newAlert moment.alertId moment.alertAt "remediation_resolved" .info
      "Remediation resolved (webhook)"
      (change.1 ++ " moved " ++ ticketStatusName ticket.status ++ " → " ++
        ticketStatusName change.2 ++ " via webhook.") with
    metadata := [("ticket", change.1)] }

def updateTicket (moment : WebhookMoment) (change : String × TicketStatus) : Bool × Tables :=
  match gateway.findTicket tables change with
  | none => (false, tables)
  | some (tenant, ticket) =>
    let recorded := gateway.database.recordRemediation tables tenant
      { ticket with status := change.2, updatedAt := moment.now }
    (true,
      if change.2 = .resolved then
        gateway.alerts.fire gateway.database recorded tenant
          (resolvedAlert moment ticket change) moment.deliver
      else recorded)

def secretEnvs : List String :=
  gateway.integrations.filterMap IntegrationConfig.webhookSecretEnv ++
    gateway.webhookSecretEnv.toList

def expectedDigest (signature : String) : String :=
  if "sha256=".toList.isPrefixOf signature.toList then
    String.ofList (signature.toList.drop 7)
  else signature

def verifyGithubSig (signature : Option String) (body : Body) : Bool :=
  if gateway.secretEnvs = [] then true
  else
    match signature with
    | none => false
    | some signature =>
      (gateway.secretEnvs.filterMap gateway.platform.env).any fun secret =>
        hexEncode (gateway.platform.hmacSha256 (utf8 secret) body.bytes) =
          expectedDigest signature

def payload (body : Body) : Value := (body.json gateway.platform.floats).getD .null

def reconcile (moment : WebhookMoment) (change : Option (String × TicketStatus)) :
    WebhookReply × Tables :=
  match change with
  | none => (.ok false, tables)
  | some change =>
    let outcome := gateway.updateTicket tables moment change
    (.ok outcome.1, outcome.2)

def github (request : WebhookRequest) (moment : WebhookMoment) : WebhookReply × Tables :=
  if gateway.verifyGithubSig request.signature request.body then
    gateway.reconcile tables moment (githubChange request.event (gateway.payload request.body))
  else (.badSignature, tables)

def jira (request : WebhookRequest) (moment : WebhookMoment) : WebhookReply × Tables :=
  gateway.reconcile tables moment (jiraChange (gateway.payload request.body))

def linear (request : WebhookRequest) (moment : WebhookMoment) : WebhookReply × Tables :=
  gateway.reconcile tables moment (linearChange (gateway.payload request.body))

def receive (request : WebhookRequest) (moment : WebhookMoment) : WebhookReply × Tables :=
  match request.route with
  | .github => gateway.github tables request moment
  | .jira => gateway.jira tables request moment
  | .linear => gateway.linear tables request moment

inductive WebhookEvent where
  | store (op : StoreOp)
  | webhook (request : WebhookRequest) (moment : WebhookMoment)

def step : WebhookEvent → Tables
  | .store op => gateway.database.apply tables op
  | .webhook request moment => (gateway.receive tables request moment).2

def run (events : List WebhookEvent) : Tables := events.foldl gateway.step .empty

def changeOf (request : WebhookRequest) : Option (String × TicketStatus) :=
  match request.route with
  | .github => githubChange request.event (gateway.payload request.body)
  | .jira => jiraChange (gateway.payload request.body)
  | .linear => linearChange (gateway.payload request.body)

def Authentic (request : WebhookRequest) : Prop :=
  ∃ signature, request.signature = some signature ∧
    ∃ name ∈ gateway.secretEnvs, ∃ secret, gateway.platform.env name = some secret ∧
      hexEncode (gateway.platform.hmacSha256 (utf8 secret) request.body.bytes) =
        expectedDigest signature

variable {gateway tables}

theorem authentic_of_verify (configured : gateway.secretEnvs ≠ []) {request : WebhookRequest}
    (verified : gateway.verifyGithubSig request.signature request.body = true) :
    gateway.Authentic request := by
  cases signature : request.signature with
  | none => simp [verifyGithubSig, configured, signature] at verified
  | some text =>
    simp only [verifyGithubSig, if_neg configured, signature, List.any_eq_true,
      List.mem_filterMap, decide_eq_true_eq] at verified
    obtain ⟨secret, ⟨name, member, isSet⟩, same⟩ := verified
    exact ⟨text, signature, name, member, secret, isSet, same⟩

theorem receive_cases (request : WebhookRequest) :
    (∀ tables moment, (gateway.receive tables request moment).2 = tables) ∨
    ∃ change, gateway.changeOf request = some change ∧
      (request.route = .github →
        gateway.verifyGithubSig request.signature request.body = true) ∧
      ∀ tables moment, (gateway.receive tables request moment).2 =
        (gateway.updateTicket tables moment change).2 := by
  have reconciles (reaches : ∀ tables moment, gateway.receive tables request moment =
      gateway.reconcile tables moment (gateway.changeOf request)) :
      (∀ tables moment, (gateway.receive tables request moment).2 = tables) ∨
      ∃ change, gateway.changeOf request = some change ∧
        ∀ tables moment, (gateway.receive tables request moment).2 =
          (gateway.updateTicket tables moment change).2 := by
    simp only [reaches]
    cases gateway.changeOf request with
    | none => exact Or.inl fun _ _ => rfl
    | some change => exact Or.inr ⟨change, rfl, fun _ _ => rfl⟩
  cases route : request.route with
  | github =>
    by_cases verified : gateway.verifyGithubSig request.signature request.body = true
    · have reached := reconciles fun tables moment => by
        simp only [receive, changeOf, route, github, verified, if_true]
      exact reached.imp_right fun ⟨change, asks, same⟩ => ⟨change, asks, fun _ => verified, same⟩
    · left
      intro tables moment
      simp only [receive, route, github, verified, Bool.false_eq_true, if_false]
  | jira =>
    have reached := reconciles fun tables moment => by
      simp only [receive, changeOf, route, jira]
    exact reached.imp_right fun ⟨change, asks, same⟩ => ⟨change, asks, nofun, same⟩
  | linear =>
    have reached := reconciles fun tables moment => by
      simp only [receive, changeOf, route, linear]
    exact reached.imp_right fun ⟨change, asks, same⟩ => ⟨change, asks, nofun, same⟩

variable {change : String × TicketStatus}

variable {tenant : String} {ticket : RemediationTicket}

theorem mem_tickets (listed : ticket ∈ Database.listRemediations tables tenant) :
    (⟨tenant, ticket⟩ : Row RemediationTicket) ∈ tables.tickets := by
  have member := List.mem_reverse.mp (List.mem_of_mem_take listed)
  rw [Tables.rows, SqlTable.Table.ordered_eq_contents, List.mem_map] at member
  obtain ⟨row, present, rfl⟩ := member
  obtain ⟨inTable, own⟩ := List.mem_filter.mp present
  obtain rfl : row.tenant = tenant := by simpa using own
  exact inTable

theorem findTicket_some (found : gateway.findTicket tables change = some (tenant, ticket)) :
    (⟨tenant, ticket⟩ : Row RemediationTicket) ∈ tables.tickets ∧
      isPending change ticket = true := by
  obtain ⟨who, -, located⟩ := List.exists_of_findSome?_eq_some found
  obtain ⟨listed, isFound, same⟩ := Option.map_eq_some_iff.mp located
  cases same
  exact ⟨mem_tickets (List.mem_of_find?_eq_some isFound), List.find?_some isFound⟩

theorem findTicket_none (settled : ∀ row ∈ tables.tickets, isPending change row.data = false) :
    gateway.findTicket tables change = none := by
  cases found : gateway.findTicket tables change with
  | none => rfl
  | some place =>
    have isTicket := findTicket_some found
    rw [settled _ isTicket.1] at isTicket
    cases isTicket.2

theorem updateTicket_of_none (absent : gateway.findTicket tables change = none)
    (moment : WebhookMoment) : gateway.updateTicket tables moment change = (false, tables) := by
  simp only [updateTicket, absent]

def withStatus (row : Row RemediationTicket) (status : TicketStatus) (now : DateTime) :
    Row RemediationTicket :=
  { row with data := { row.data with status, updatedAt := now } }

section Found

variable (row : Row RemediationTicket) (keyed : tables.Keyed)
variable (found : gateway.findTicket tables change = some (row.tenant, row.data))

include found

variable (moment : WebhookMoment)

theorem tickets_updateTicket : (gateway.updateTicket tables moment change).2.tickets =
      (gateway.database.recordRemediation tables row.tenant
        (withStatus row change.2 moment.now).data).tickets := by
  simp only [updateTicket, found]
  split_ifs
  · exact congrArg SqlTable.Table.contents (Tables.exec_of_ne (by decide))
  · rfl

include keyed

theorem own_of_found :
    ∀ other ∈ tables.tickets, other.data.id = row.data.id → other.tenant = row.tenant := by
  intro other member same
  rw [List.inj_on_of_nodup_map keyed member (findTicket_some found).1 same]

theorem tickets_of_found : (gateway.updateTicket tables moment change).2.tickets =
      tables.tickets.filter (fun other => !decide (other.data.id = row.data.id)) ++
        [withStatus row change.2 moment.now] :=
  (tickets_updateTicket row found moment).trans
    (Database.tickets_recordRemediation _ _ (own_of_found row keyed found))

theorem ticket_of_found (id : String) : (gateway.updateTicket tables moment change).2.ticket id =
      if id = row.data.id then some (withStatus row change.2 moment.now) else tables.ticket id := by
  have recorded := Database.ticket_recordRemediation gateway.database
    (withStatus row change.2 moment.now).data (own_of_found row keyed found) id
  unfold Tables.ticket at recorded ⊢
  rw [tickets_updateTicket row found moment]
  exact recorded

end Found

variable (keyed : tables.Keyed)

include keyed

theorem ticket_updateTicket (moment : WebhookMoment) {id : String}
    (changed : (gateway.updateTicket tables moment change).2.ticket id ≠ tables.ticket id) :
    ∃ row, gateway.findTicket tables change = some (row.tenant, row.data) ∧ row.data.id = id ∧
      tables.ticket id = some row ∧ isPending change row.data = true ∧
      (gateway.updateTicket tables moment change).2.ticket id =
        some (withStatus row change.2 moment.now) := by
  cases found : gateway.findTicket tables change with
  | none => exact absurd (by rw [updateTicket_of_none found]) changed
  | some place =>
    obtain ⟨tenant, ticket⟩ := place
    obtain ⟨member, pending⟩ := findTicket_some found
    have after := ticket_of_found ⟨tenant, ticket⟩ keyed found moment id
    by_cases isTicket : id = ticket.id
    · subst isTicket
      exact ⟨⟨tenant, ticket⟩, rfl, rfl, Tables.ticket_of_mem keyed member, pending,
        after.trans (if_pos rfl)⟩
    · exact absurd (after.trans (if_neg isTicket)) changed

theorem updateTicket_again (single : ∀ first ∈ tables.tickets, ∀ second ∈ tables.tickets,
      isPending change first.data = true → isPending change second.data = true →
        first.data.id = second.data.id) (moment later : WebhookMoment) :
    (gateway.updateTicket (gateway.updateTicket tables moment change).2 later change).2 =
      (gateway.updateTicket tables moment change).2 := by
  cases found : gateway.findTicket tables change with
  | none => rw [updateTicket_of_none found, updateTicket_of_none found]
  | some place =>
    obtain ⟨tenant, ticket⟩ := place
    obtain ⟨member, pending⟩ := findTicket_some found
    have after := tickets_of_found ⟨tenant, ticket⟩ keyed found moment
    have settled : ∀ row ∈ (gateway.updateTicket tables moment change).2.tickets,
        isPending change row.data = false := by
      intro row present
      rw [after] at present
      rcases List.mem_append.mp present with stays | isNew
      · obtain ⟨before, other⟩ := List.mem_filter.mp stays
        by_contra still
        simp [single row before _ member (by simpa using still) pending] at other
      · rw [List.mem_singleton.mp isNew]
        simp [isPending, withStatus]
    rw [updateTicket_of_none (findTicket_none settled)]

theorem keyed_updateTicket (moment : WebhookMoment) (change : String × TicketStatus) :
    (gateway.updateTicket tables moment change).2.Keyed := by
  cases found : gateway.findTicket tables change with
  | none =>
    rw [updateTicket_of_none found]
    exact keyed
  | some place =>
    rw [Tables.Keyed, tickets_updateTicket ⟨place.1, place.2⟩ found]
    exact Database.keyed_recordRemediation keyed

theorem keyed_step (event : WebhookEvent) : (gateway.step tables event).Keyed := by
  cases event with
  | store op => exact Database.keyed_apply keyed op
  | webhook request moment =>
    rcases receive_cases request with unchanged | ⟨change, -, -, updates⟩
    · rw [step, unchanged]
      exact keyed
    · rw [step, updates]
      exact keyed_updateTicket keyed moment change

omit keyed

theorem keyed_run (events : List WebhookEvent) : (gateway.run events).Keyed := by
  apply List.foldlRecOn (motive := Tables.Keyed) events
  · exact List.nodup_nil
  · exact fun tables keyed event _ => keyed_step keyed event

/-- A ticket changes only by a request that names it, signed under a secret where it
comes from GitHub; a request changes one ticket at most, and none when it is delivered
again, unless it names another ticket whose status differs. -/
theorem webhooks_change_named_tickets (gateway : WebhookGateway)
    (configured : gateway.secretEnvs ≠ []) (events : List WebhookEvent)
    (request : WebhookRequest) (moment : WebhookMoment) :
    let before := gateway.run events
    let after := (gateway.receive before request moment).2
    (∀ id, after.ticket id ≠ before.ticket id →
      ∃ row status, before.ticket id = some row ∧
        gateway.changeOf request = some (row.data.externalId, status) ∧
        after.ticket id = some (withStatus row status moment.now) ∧
        (request.route = .github → gateway.Authentic request)) ∧
    (∀ first second, after.ticket first ≠ before.ticket first →
      after.ticket second ≠ before.ticket second → first = second) ∧
    ((∀ change, gateway.changeOf request = some change →
        ∀ first ∈ before.tickets, ∀ second ∈ before.tickets,
          isPending change first.data = true → isPending change second.data = true →
            first.data.id = second.data.id) →
      ∀ later, (gateway.receive after request later).2 = after) := by
  intro before after
  have keyed : before.Keyed := keyed_run events
  rcases receive_cases request with unchanged | ⟨change, asks, verified, updates⟩
  · have same : after = before := unchanged before moment
    simp [same, unchanged]
  · have isAfter : after = (gateway.updateTicket before moment change).2 := updates before moment
    rw [isAfter]
    refine ⟨?_, ?_, ?_⟩
    · intro id changed
      obtain ⟨row, -, -, isRow, pending, result⟩ := ticket_updateTicket keyed moment changed
      have named : row.data.externalId = change.1 := by
        simp only [isPending, Bool.and_eq_true, decide_eq_true_eq] at pending
        exact pending.1
      exact ⟨row, change.2, isRow, by rw [asks, named], result,
        fun isGithub => authentic_of_verify configured (verified isGithub)⟩
    · intro first second firstChanged secondChanged
      obtain ⟨row, found, isFirst, -⟩ := ticket_updateTicket keyed moment firstChanged
      obtain ⟨other, alsoFound, isSecond, -⟩ := ticket_updateTicket keyed moment secondChanged
      have same := Option.some.inj (found.symm.trans alsoFound)
      rw [← isFirst, ← isSecond]
      exact congrArg RemediationTicket.id (Prod.ext_iff.mp same).2
    · intro single later
      rw [updates]
      exact updateTicket_again keyed (single change asks) moment later

def sampleMac (key message : Bytes) : Bytes := eightBytes (checksum (key ++ message))

def sampleGateway : WebhookGateway where
  platform :=
    { hmacSha256 := sampleMac
      floats := sampleFloats
      env := fun name => if name = "GITHUB_WEBHOOK_SECRET" then some "secret" else none }
  database := Database.sampleDatabase .sqlite
  alerts := ⟨false, false, [], id⟩
  auth :=
    { enabled := true, sessionTtlSecs := 3600, users := [], apiKeys := [], roles := [],
      maxFailedLogins := 5, lockoutSecs := 900, idleTimeoutSecs := 0 }
  webhookSecretEnv := none
  integrations := [⟨"github", some "GITHUB_WEBHOOK_SECRET"⟩]

def sampleMoment : WebhookMoment := ⟨⟨5⟩, "alert", ⟨5⟩, fun _ => false⟩

def pullRequest (id : String) : WebhookEvent :=
  .store (.recordRemediation "default"
    ⟨id, "github", "#7", "", .opened, "finding", ⟨0⟩, ⟨0⟩⟩)

def statusOf (tables : Tables) (id : String) : Option TicketStatus :=
  (tables.ticket id).map fun row => row.data.status

def mergedBody : Body :=
  .text ("\x7b\"action\":\"closed\",\"number\":7," ++
    "\"pull_request\":\x7b\"merged\":true\x7d\x7d").toList

def signedMerge : WebhookRequest where
  route := .github
  signature := some ("sha256=" ++ hexEncode (sampleMac (utf8 "secret") mergedBody.bytes))
  event := some "pull_request"
  body := mergedBody

theorem merge_is_authentic : sampleGateway.secretEnvs ≠ [] ∧
    sampleGateway.Authentic signedMerge := by
  have configured : sampleGateway.secretEnvs ≠ [] := by decide
  have changes := (webhooks_change_named_tickets sampleGateway configured [pullRequest "t1"]
    signedMerge sampleMoment).1 "t1"
  have resolved : (sampleGateway.receive (sampleGateway.run [pullRequest "t1"]) signedMerge
      sampleMoment).2.ticket "t1" ≠ (sampleGateway.run [pullRequest "t1"]).ticket "t1" := by
    intro same
    have statuses := congrArg (Option.map fun row => row.data.status) same
    revert statuses
    decide +kernel
  obtain ⟨-, -, -, -, -, authentic⟩ := changes resolved
  exact ⟨configured, authentic rfl⟩

def unsignedDone : WebhookRequest where
  route := .jira
  signature := none
  event := none
  body := .text
    ("\x7b\"issue\":\x7b\"key\":\"#7\",\"fields\":\x7b\"status\":\x7b\"statusCategory\":" ++
      "\x7b\"key\":\"done\"\x7d\x7d\x7d\x7d\x7d").toList

theorem unsigned_issue_resolves_pull_requests :
    sampleGateway.secretEnvs ≠ [] ∧ ¬sampleGateway.Authentic unsignedDone ∧
    let before := sampleGateway.run [pullRequest "t1", pullRequest "t2"]
    let after := (sampleGateway.receive before unsignedDone sampleMoment).2
    let again := (sampleGateway.receive after unsignedDone sampleMoment).2
    statusOf before "t2" = some .opened ∧ statusOf after "t2" = some .resolved ∧
      statusOf after "t1" = some .opened ∧ statusOf again "t1" = some .resolved := by
  refine ⟨by decide, ?_, by decide +kernel⟩
  intro ⟨signature, isSigned, _⟩
  cases isSigned

end WebhookGateway

end QuantaWatch.Gateway
