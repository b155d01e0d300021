import QuantaWatch.Crypto.Primitives
import QuantaWatch.Lib.Json.Record

/-!
Audit entries, their serialisation and the bytes that are signed
(`qw-audit/src/entry.rs`).
-/

namespace QuantaWatch.Audit

open Lib.Encoding Lib.Json Crypto

inductive AuditEvent where
  | sessionCreated (agentName provider model clientIp : String)
  | requestProcessed (provider model promptHash responseHash policyDecision : String)
      (toolsRequested toolsAllowed toolsDenied : List String)
      (threatsDetected : UInt32) (latencyMs : UInt64)
  | threatBlocked (category severity pattern : String)
  | policyViolation (rule reason agentName : String)
  | sessionClosed (totalRequests totalTokens : UInt64)
  | scanCompleted (scanId scannerId target : String) (findingCount : UInt32) (status : String)
  | findingCreated (findingId category severity pqcStatus asset : String)
  | postureChanged (previousScore newScore : F64) (trigger : String)
  | integrationSync (integrationId action detail : String)
  | loginSucceeded (principal authMethod clientIp : String)
  | loginFailed (username clientIp : String)
  | logout (principal : String)
  | accessDenied (principal method path requiredPermission : String)
  | adminAction (principal method path permission : String)
  | cryptoPolicyEnforced (provider agent action channelStatus required : String)
  | agilityPolicyEnforced (policyId severity resource action outcome : String)
  | overlayRouteProtected (routeId listen upstream mode : String)
  | certificateIssued (certId subject keyType serial notAfter : String) (renewed : Bool)
  | certificateRevoked (certId subject reason : String)
deriving DecidableEq

structure AuditEntry where
  id : String
  timestamp : DateTime
  writerId : String
  sequence : UInt64
  sessionId : String
  event : AuditEvent
  prevHash : String
  contentHash : String
  signature : String
  merkleRoot : Option String
deriving DecidableEq

def f64Value (value : F64) : Value :=
  if value.isFinite then .number (.float value) else .null

def stringsValue (texts : List String) : Value :=
  .array (texts.map .string)

def natValue (value : UInt64) : Value := .number (.posInt value)

namespace AuditEvent

def tag : AuditEvent → String
  | sessionCreated .. => "session_created"
  | requestProcessed .. => "request_processed"
  | threatBlocked .. => "threat_blocked"
  | policyViolation .. => "policy_violation"
  | sessionClosed .. => "session_closed"
  | scanCompleted .. => "scan_completed"
  | findingCreated .. => "finding_created"
  | postureChanged .. => "posture_changed"
  | integrationSync .. => "integration_sync"
  | loginSucceeded .. => "login_succeeded"
  | loginFailed .. => "login_failed"
  | logout .. => "logout"
  | accessDenied .. => "access_denied"
  | adminAction .. => "admin_action"
  | cryptoPolicyEnforced .. => "crypto_policy_enforced"
  | agilityPolicyEnforced .. => "agility_policy_enforced"
  | overlayRouteProtected .. => "overlay_route_protected"
  | certificateIssued .. => "certificate_issued"
  | certificateRevoked .. => "certificate_revoked"

def fields : AuditEvent → List (String × Value)
  | sessionCreated agentName provider model clientIp =>
    [("agent_name", .string agentName), ("provider", .string provider),
      ("model", .string model), ("client_ip", .string clientIp)]
  | requestProcessed provider model promptHash responseHash policyDecision toolsRequested
      toolsAllowed toolsDenied threatsDetected latencyMs =>
      [("provider", .string provider), ("model", .string model),
        ("prompt_hash", .string promptHash), ("response_hash", .string responseHash),
        ("policy_decision", .string policyDecision),
        ("tools_requested", stringsValue toolsRequested),
        ("tools_allowed", stringsValue toolsAllowed),
        ("tools_denied", stringsValue toolsDenied),
        ("threats_detected", natValue threatsDetected.toUInt64),
        ("latency_ms", natValue latencyMs)]
  | threatBlocked category severity pattern =>
    [("category", .string category), ("severity", .string severity),
      ("pattern", .string pattern)]
  | policyViolation rule reason agentName =>
    [("rule", .string rule), ("reason", .string reason), ("agent_name", .string agentName)]
  | sessionClosed totalRequests totalTokens =>
    [("total_requests", natValue totalRequests), ("total_tokens", natValue totalTokens)]
  | scanCompleted scanId scannerId target findingCount status =>
    [("scan_id", .string scanId), ("scanner_id", .string scannerId),
      ("target", .string target), ("finding_count", natValue findingCount.toUInt64),
      ("status", .string status)]
  | findingCreated findingId category severity pqcStatus asset =>
    [("finding_id", .string findingId), ("category", .string category),
      ("severity", .string severity), ("pqc_status", .string pqcStatus),
      ("asset", .string asset)]
  | postureChanged previousScore newScore trigger =>
    [("previous_score", f64Value previousScore), ("new_score", f64Value newScore),
      ("trigger", .string trigger)]
  | integrationSync integrationId action detail =>
    [("integration_id", .string integrationId), ("action", .string action),
      ("detail", .string detail)]
  | loginSucceeded principal authMethod clientIp =>
    [("principal", .string principal), ("auth_method", .string authMethod),
      ("client_ip", .string clientIp)]
  | loginFailed username clientIp =>
    [("username", .string username), ("client_ip", .string clientIp)]
  | logout principal => [("principal", .string principal)]
  | accessDenied principal method path requiredPermission =>
    [("principal", .string principal), ("method", .string method), ("path", .string path),
      ("required_permission", .string requiredPermission)]
  | adminAction principal method path permission =>
    [("principal", .string principal), ("method", .string method), ("path", .string path),
      ("permission", .string permission)]
  | cryptoPolicyEnforced provider agent action channelStatus required =>
    [("provider", .string provider), ("agent", .string agent), ("action", .string action),
      ("channel_status", .string channelStatus), ("required", .string required)]
  | agilityPolicyEnforced policyId severity resource action outcome =>
    [("policy_id", .string policyId), ("severity", .string severity),
      ("resource", .string resource), ("action", .string action),
      ("outcome", .string outcome)]
  | overlayRouteProtected routeId listen upstream mode =>
    [("route_id", .string routeId), ("listen", .string listen),
      ("upstream", .string upstream), ("mode", .string mode)]
  | certificateIssued certId subject keyType serial notAfter renewed =>
    [("cert_id", .string certId), ("subject", .string subject),
      ("key_type", .string keyType), ("serial", .string serial),
      ("not_after", .string notAfter), ("renewed", .bool renewed)]
  | certificateRevoked certId subject reason =>
    [("cert_id", .string certId), ("subject", .string subject), ("reason", .string reason)]

def toValue (event : AuditEvent) : Value :=
  .object (("type", .string event.tag) :: event.fields)

def FiniteScores : AuditEvent → Prop
  | postureChanged previousScore newScore _ =>
    previousScore.isFinite = true ∧ newScore.isFinite = true
  | _ => True

def ScoresReadBack (floats : FloatText) : AuditEvent → Prop
  | postureChanged previousScore newScore _ =>
    previousScore.ReadsBack floats ∧ newScore.ReadsBack floats
  | _ => True

theorem ScoresReadBack.finite {floats : FloatText} {event : AuditEvent}
    (reads : event.ScoresReadBack floats) : event.FiniteScores := by
  cases event with
  | postureChanged previousScore newScore trigger => exact ⟨reads.1.1, reads.2.1⟩
  | _ => trivial

end AuditEvent

namespace AuditEntry

variable (platform : Platform)

def contentValue (entry : AuditEntry) : Value :=
  .object [("id", .string entry.id),
    ("timestamp", .string (platform.toRfc3339 entry.timestamp)),
    ("writer_id", .string entry.writerId),
    ("sequence", natValue entry.sequence),
    ("session_id", .string entry.sessionId),
    ("event", entry.event.toValue),
    ("prev_hash", .string entry.prevHash)]

def contentBytes (entry : AuditEntry) : Bytes :=
  utf8Chars ((entry.contentValue platform).print platform.floats)

def toValue (entry : AuditEntry) : Value :=
  .object ([("id", .string entry.id),
    ("timestamp", .string (platform.serializeTime entry.timestamp)),
    ("writer_id", .string entry.writerId),
    ("sequence", natValue entry.sequence),
    ("session_id", .string entry.sessionId),
    ("event", entry.event.toValue),
    ("prev_hash", .string entry.prevHash),
    ("content_hash", .string entry.contentHash),
    ("signature", .string entry.signature)] ++
    (match entry.merkleRoot with
      | some root => [("merkle_root", .string root)]
      | none => []))

def new (id : String) (timestamp : DateTime) (writerId : String) (sequence : UInt64)
    (sessionId : String) (event : AuditEvent) (prevHash : String) : AuditEntry where
  id := id
  timestamp := timestamp
  writerId := writerId
  sequence := sequence
  sessionId := sessionId
  event := event
  prevHash := prevHash
  contentHash := ""
  signature := ""
  merkleRoot := none

def unsealed (entry : AuditEntry) : AuditEntry :=
  { entry with contentHash := "", signature := "", merkleRoot := none }

end AuditEntry

def asF64 (platform : Platform) : Value → Option F64
  | .number (.posInt value) => some (platform.f64OfInt value.toNat)
  | .number (.negInt below) => some (platform.f64OfInt (-(below.val + 1 : Int)))
  | .number (.float value) => some value
  | _ => none

namespace AuditEvent

def fromContent (platform : Platform) (tag : String) (content : Value) : Option AuditEvent :=
  let text := fun (fields : Fields) (name : String) => fields.read name Value.asStr
  match tag with
  | "session_created" => do
    let f ← recordFields ["agent_name", "provider", "model", "client_ip"] content
    some (.sessionCreated (← text f "agent_name") (← text f "provider") (← text f "model")
      (← text f "client_ip"))
  | "request_processed" => do
    let f ← recordFields ["provider", "model", "prompt_hash", "response_hash",
      "policy_decision", "tools_requested", "tools_allowed", "tools_denied",
      "threats_detected", "latency_ms"] content
    some (.requestProcessed (← text f "provider") (← text f "model") (← text f "prompt_hash")
      (← text f "response_hash") (← text f "policy_decision")
      (← f.read "tools_requested" Value.asStrings) (← f.read "tools_allowed" Value.asStrings)
      (← f.read "tools_denied" Value.asStrings) (← f.read "threats_detected" Value.asU32)
      (← f.read "latency_ms" Value.asU64))
  | "threat_blocked" => do
    let f ← recordFields ["category", "severity", "pattern"] content
    some (.threatBlocked (← text f "category") (← text f "severity") (← text f "pattern"))
  | "policy_violation" => do
    let f ← recordFields ["rule", "reason", "agent_name"] content
    some (.policyViolation (← text f "rule") (← text f "reason") (← text f "agent_name"))
  | "session_closed" => do
    let f ← recordFields ["total_requests", "total_tokens"] content
    some (.sessionClosed (← f.read "total_requests" Value.asU64)
      (← f.read "total_tokens" Value.asU64))
  | "scan_completed" => do
    let f ← recordFields ["scan_id", "scanner_id", "target", "finding_count", "status"] content
    some (.scanCompleted (← text f "scan_id") (← text f "scanner_id") (← text f "target")
      (← f.read "finding_count" Value.asU32) (← text f "status"))
  | "finding_created" => do
    let f ← recordFields ["finding_id", "category", "severity", "pqc_status", "asset"] content
    some (.findingCreated (← text f "finding_id") (← text f "category") (← text f "severity")
      (← text f "pqc_status") (← text f "asset"))
  | "posture_changed" => do
    let f ← recordFields ["previous_score", "new_score", "trigger"] content
    some (.postureChanged (← f.read "previous_score" (asF64 platform))
      (← f.read "new_score" (asF64 platform)) (← text f "trigger"))
  | "integration_sync" => do
    let f ← recordFields ["integration_id", "action", "detail"] content
    some (.integrationSync (← text f "integration_id") (← text f "action") (← text f "detail"))
  | "login_succeeded" => do
    let f ← recordFields ["principal", "auth_method", "client_ip"] content
    some (.loginSucceeded (← text f "principal") (← text f "auth_method")
      (← text f "client_ip"))
  | "login_failed" => do
    let f ← recordFields ["username", "client_ip"] content
    some (.loginFailed (← text f "username") (← text f "client_ip"))
  | "logout" => do
    let f ← recordFields ["principal"] content
    some (.logout (← text f "principal"))
  | "access_denied" => do
    let f ← recordFields ["principal", "method", "path", "required_permission"] content
    some (.accessDenied (← text f "principal") (← text f "method") (← text f "path")
      (← text f "required_permission"))
  | "admin_action" => do
    let f ← recordFields ["principal", "method", "path", "permission"] content
    some (.adminAction (← text f "principal") (← text f "method") (← text f "path")
      (← text f "permission"))
  | "crypto_policy_enforced" => do
    let f ← recordFields ["provider", "agent", "action", "channel_status", "required"] content
    some (.cryptoPolicyEnforced (← text f "provider") (← text f "agent") (← text f "action")
      (← text f "channel_status") (← text f "required"))
  | "agility_policy_enforced" => do
    let f ← recordFields ["policy_id", "severity", "resource", "action", "outcome"] content
    some (.agilityPolicyEnforced (← text f "policy_id") (← text f "severity")
      (← text f "resource") (← text f "action") (← text f "outcome"))
  | "overlay_route_protected" => do
    let f ← recordFields ["route_id", "listen", "upstream", "mode"] content
    some (.overlayRouteProtected (← text f "route_id") (← text f "listen")
      (← text f "upstream") (← text f "mode"))
  | "certificate_issued" => do
    let f ← recordFields ["cert_id", "subject", "key_type", "serial", "not_after", "renewed"]
      content
    some (.certificateIssued (← text f "cert_id") (← text f "subject") (← text f "key_type")
      (← text f "serial") (← text f "not_after") (← f.read "renewed" Value.asBool))
  | "certificate_revoked" => do
    let f ← recordFields ["cert_id", "subject", "reason"] content
    some (.certificateRevoked (← text f "cert_id") (← text f "subject") (← text f "reason"))
  | _ => none

def fromValue (platform : Platform) : Value → Option AuditEvent
  | .object fields =>
    match fields.filter fun field => field.1 = "type" with
    | [(_, .string tag)] =>
      fromContent platform tag (.object (fields.filter fun field => field.1 ≠ "type"))
    | _ => none
  | .array (.string tag :: content) => fromContent platform tag (.array content)
  | _ => none

theorem fields_nodup (event : AuditEvent) : (event.fields.map Prod.fst).Nodup := by
  cases event <;> simp [fields]

theorem type_notMem_fields (event : AuditEvent) : "type" ∉ event.fields.map Prod.fst := by
  cases event <;> simp [fields]

variable {event : AuditEvent} {floats : FloatText} {value : F64} {platform : Platform}

theorem fromContent_fields (platform : Platform) (finite : event.FiniteScores) :
    fromContent platform event.tag (.object event.fields) = some event := by
  -- plain texts, 64-bit numbers and flags read back by computation
  cases event with
  | requestProcessed provider model promptHash responseHash policyDecision toolsRequested
      toolsAllowed toolsDenied threatsDetected latencyMs =>
      change ((stringsValue toolsRequested).asStrings.bind fun requested =>
        (stringsValue toolsAllowed).asStrings.bind fun allowed =>
        (stringsValue toolsDenied).asStrings.bind fun denied =>
        (natValue threatsDetected.toUInt64).asU32.bind fun threats =>
        some (requestProcessed provider model promptHash responseHash policyDecision requested
          allowed denied threats latencyMs)) = _
      simp [stringsValue, natValue, asStrings_map_string, asU32_toUInt64]
  | scanCompleted scanId scannerId target findingCount status =>
    change ((natValue findingCount.toUInt64).asU32.bind fun count =>
      some (scanCompleted scanId scannerId target count status)) = _
    simp [natValue, asU32_toUInt64]
  | postureChanged previousScore newScore trigger =>
    obtain ⟨previousFinite, newFinite⟩ := finite
    change ((asF64 platform (f64Value previousScore)).bind fun previous =>
      (asF64 platform (f64Value newScore)).bind fun new =>
      some (postureChanged previous new trigger)) = _
    simp [f64Value, asF64, previousFinite, newFinite]
  | _ => rfl

theorem fromValue_toValue (platform : Platform) (finite : event.FiniteScores) :
    fromValue platform event.toValue = some event := by
  have untyped : ∀ field ∈ event.fields, field.1 ≠ "type" := by
    intro field member equal
    exact event.type_notMem_fields (List.mem_map.mpr ⟨field, member, equal⟩)
  have noTag : event.fields.filter (fun field => field.1 = "type") = [] := by
    simpa [List.filter_eq_nil_iff] using untyped
  have allContent : event.fields.filter (fun field => field.1 ≠ "type") = event.fields := by
    simpa [List.filter_eq_self] using untyped
  simp only [fromValue, toValue, decide_true, List.filter_cons_of_pos, noTag]
  simp only [ne_eq, not_true_eq_false, decide_false, Bool.false_eq_true, not_false_eq_true,
    List.filter_cons_of_neg]
  rw [allContent]
  exact fromContent_fields platform finite

theorem finiteNumbers_toValue (event : AuditEvent) : event.toValue.FiniteNumbers := by
  have score : ∀ value : F64, (f64Value value).FiniteNumbers := by
    intro value
    unfold f64Value
    split
    · simpa [Value.FiniteNumbers, Number.Finite]
    · trivial
  have texts : ∀ texts : List String, (stringsValue texts).FiniteNumbers := by
    intro texts
    simp [stringsValue, Value.FiniteNumbers, Value.finiteElements_iff]
  cases event <;>
    simp [toValue, fields, Value.FiniteNumbers, Value.FiniteFields, natValue, Number.Finite,
      score, texts]

theorem uniqueKeys_toValue (event : AuditEvent) : event.toValue.UniqueKeys := by
  have score : ∀ value : F64, (f64Value value).UniqueKeys := by
    intro value
    unfold f64Value
    split <;> trivial
  have texts : ∀ texts : List String, (stringsValue texts).UniqueKeys := by
    intro texts
    simp [stringsValue, Value.UniqueKeys, Value.uniqueKeysElements_iff]
  refine ⟨List.nodup_cons.mpr ⟨event.type_notMem_fields, event.fields_nodup⟩, ?_⟩
  cases event <;>
    simp [fields, Value.UniqueKeys, Value.UniqueKeysFields, natValue, score, texts]

theorem height_toValue_le (event : AuditEvent) : event.toValue.height ≤ 2 := by
  have score : ∀ value : F64, (f64Value value).height = 0 := by
    intro value
    unfold f64Value
    split <;> rfl
  have texts : ∀ texts : List String, (stringsValue texts).height ≤ 1 := by
    intro texts
    apply Nat.succ_le_succ
    apply Value.heightElements_le_iff.mpr
    simp [Value.height]
  cases event <;>
    simp [toValue, fields, Value.height, Value.heightFields, natValue, score, texts]

theorem f64Value_readBack (reads : value.ReadsBack floats) :
    (f64Value value).readBack floats = f64Value value := by
  simp [f64Value, reads.1, Value.readBack, Number.readBack, reads.2]

theorem stringsValue_readBack (floats : FloatText) (texts : List String) :
    (stringsValue texts).readBack floats = stringsValue texts := by
  simp [stringsValue, Value.readBack, Value.readBackElements_eq_map, Function.comp_def]

theorem readBack_toValue (reads : event.ScoresReadBack floats) :
    event.toValue.readBack floats = event.toValue := by
  cases event with
  | postureChanged previousScore newScore trigger =>
    simp [toValue, fields, Value.readBack, Value.readBackFields, f64Value_readBack reads.1,
      f64Value_readBack reads.2]
  | _ =>
    simp [toValue, fields, Value.readBack, Value.readBackFields, natValue, Number.readBack,
      stringsValue_readBack]

theorem readsBack_of_asF64 (lawful : platform.floats.Lawful)
    (read : asF64 platform ((f64Value value).readBack platform.floats) = some value) :
    value.ReadsBack platform.floats := by
  unfold f64Value at read
  split at read
  · rename_i finite
    obtain ⟨rounded, parsed⟩ := Option.isSome_iff_exists.mp (lawful.parses value finite)
    refine ⟨finite, ?_⟩
    simpa [Value.readBack, Number.readBack, asF64, parsed] using read
  · cases read

theorem fromValue_readBack_iff (lawful : platform.floats.Lawful) :
    fromValue platform (event.toValue.readBack platform.floats) = some event ↔
      event.ScoresReadBack platform.floats := by
  constructor
  · intro read
    cases event with
    | postureChanged previousScore newScore trigger =>
      change ((asF64 platform ((f64Value previousScore).readBack platform.floats)).bind
        fun previous =>
          (asF64 platform ((f64Value newScore).readBack platform.floats)).bind fun new =>
            some (postureChanged previous new trigger)) = _ at read
      obtain ⟨previous, previousRead, read⟩ := Option.bind_eq_some_iff.mp read
      obtain ⟨new, newRead, read⟩ := Option.bind_eq_some_iff.mp read
      cases read
      exact ⟨readsBack_of_asF64 lawful previousRead, readsBack_of_asF64 lawful newRead⟩
    | _ => trivial
  · intro reads
    rw [readBack_toValue reads]
    exact fromValue_toValue platform reads.finite

end AuditEvent

namespace AuditEntry

variable {platform : Platform}

def fieldNames : List String :=
  ["id", "timestamp", "writer_id", "sequence", "session_id", "event", "prev_hash",
    "content_hash", "signature", "merkle_root"]

def fromValue (platform : Platform) (value : Value) : Option AuditEntry := do
  let f ← recordFields fieldNames value
  let id ← f.read "id" Value.asStr
  let timestamp ← f.read "timestamp" fun text => text.asStr.bind platform.deserializeTime
  let writerId ← f.readOr "writer_id" "" Value.asStr
  let sequence ← f.read "sequence" Value.asU64
  let sessionId ← f.read "session_id" Value.asStr
  let event ← f.read "event" (AuditEvent.fromValue platform)
  let prevHash ← f.read "prev_hash" Value.asStr
  let contentHash ← f.read "content_hash" Value.asStr
  let signature ← f.read "signature" Value.asStr
  let merkleRoot ← f.readOr "merkle_root" none (optional Value.asStr)
  some ⟨id, timestamp, writerId, sequence, sessionId, event, prevHash, contentHash, signature,
    merkleRoot⟩

theorem fromValue_readBack_iff (lawful : platform.LawfulText) {entry : AuditEntry} :
    fromValue platform ((entry.toValue platform).readBack platform.floats) = some entry ↔
      entry.event.ScoresReadBack platform.floats := by
  rw [← AuditEvent.fromValue_readBack_iff lawful.floats]
  obtain ⟨id, timestamp, writerId, sequence, sessionId, event, prevHash, contentHash, signature,
    merkleRoot⟩ := entry
  have time := lawful.time timestamp
  have read : fromValue platform
      ((AuditEntry.toValue platform ⟨id, timestamp, writerId, sequence, sessionId, event, prevHash,
        contentHash, signature, merkleRoot⟩).readBack platform.floats) =
      (platform.deserializeTime (platform.serializeTime timestamp)).bind fun timestamp =>
        (AuditEvent.fromValue platform (event.toValue.readBack platform.floats)).bind fun event =>
        some (⟨id, timestamp, writerId, sequence, sessionId, event, prevHash, contentHash,
          signature, merkleRoot⟩ : AuditEntry) := by
    cases merkleRoot <;> rfl
  simp [read, time, Option.bind_eq_some_iff]

variable (entry : AuditEntry)

theorem finiteNumbers_toValue : (entry.toValue platform).FiniteNumbers := by
  cases root : entry.merkleRoot <;>
    simp [toValue, root, Value.FiniteNumbers, Value.FiniteFields, natValue, Number.Finite,
      entry.event.finiteNumbers_toValue]

theorem uniqueKeys_toValue : (entry.toValue platform).UniqueKeys := by
  cases root : entry.merkleRoot <;>
    simp [toValue, root, Value.UniqueKeys, Value.UniqueKeysFields, natValue,
      entry.event.uniqueKeys_toValue]

theorem height_toValue_le : (entry.toValue platform).height ≤ 3 := by
  have event := Nat.lt_succ_of_le entry.event.height_toValue_le
  cases root : entry.merkleRoot <;>
    simp [toValue, root, Value.height, Value.heightFields, natValue, event]

theorem finiteNumbers_contentValue : (entry.contentValue platform).FiniteNumbers := by
  simp [contentValue, Value.FiniteNumbers, Value.FiniteFields, natValue, Number.Finite,
    entry.event.finiteNumbers_toValue]

theorem readBack_contentValue {entry : AuditEntry}
    (reads : entry.event.ScoresReadBack platform.floats) :
    (entry.contentValue platform).readBack platform.floats = entry.contentValue platform := by
  simp [contentValue, Value.readBack, Value.readBackFields, natValue, Number.readBack,
    AuditEvent.readBack_toValue reads]

theorem unsealed_eq_of_contentBytes_eq (lawful : platform.LawfulText) {left right : AuditEntry}
    (leftReads : left.event.ScoresReadBack platform.floats)
    (rightReads : right.event.ScoresReadBack platform.floats)
    (equal : left.contentBytes platform = right.contentBytes platform) :
    left.unsealed = right.unsealed := by
  have values := print_injective lawful.floats left.finiteNumbers_contentValue
    right.finiteNumbers_contentValue (readBack_contentValue leftReads)
    (readBack_contentValue rightReads) (utf8Chars_injective equal)
  simp only [contentValue, natValue, Value.object.injEq, List.cons.injEq, Prod.mk.injEq,
    Value.string.injEq, Value.number.injEq, Number.posInt.injEq, true_and, and_true] at values
  obtain ⟨id, time, writer, sequence, session, event, prev⟩ := values
  have sameEvent : left.event = right.event := by
    have read := AuditEvent.fromValue_toValue platform leftReads.finite
    rw [event, AuditEvent.fromValue_toValue platform rightReads.finite] at read
    exact (Option.some.inj read).symm
  simp [unsealed, id, lawful.rfc3339 time, writer, sequence, session, sameEvent, prev]

end AuditEntry

end QuantaWatch.Audit
