import QuantaWatch.Crypto.Sample
import QuantaWatch.Gateway.Providers
import QuantaWatch.Policy.Engine

/-!
The way of a request through the proxy: `policy_layer`,
`monitor_layer` and `proxy_handler` (`qw-gateway/src/middleware`, `router.rs`).
-/

namespace QuantaWatch.Gateway

open Crypto Lib.Json Policy

def bodyLimit : Nat := 10 * 1024 * 1024

structure Proxy where
  floats : FloatText
  policy : PolicyConfig
  providers : ProviderRegistry
  scanBlocks : NormalizedRequest → Bool
  cryptoBlocks : String → Bool
  circuitOpen : String → Bool
  buildsRequest : String → String → Bool

inductive Outcome where
  | bodyTooLarge
  | policyDenied (reason : String)
  | threatDetected
  | providerNotFound (path : String)
  | cryptoBlocked (provider : String)
  | circuitOpened (provider : String)
  | requestNotBuilt
  | forwarded (provider : String) (adapter : Adapter) (body : Body)

namespace Proxy

variable (proxy : Proxy)

def requestInfo (path : String) (body : Body) : String × List String :=
  match proxy.providers.resolveFromPath path with
  | some (_, adapter) =>
    match adapter.parseRequest proxy.floats body with
    | some request => (request.model, request.tools)
    | none => ("", [])
  | none => ("", [])

def policyContext (agent path : String) (body : Body) : RequestContext where
  agentName := agent
  model := (proxy.requestInfo path body).1
  provider := ((proxy.providers.resolveFromPath path).map Prod.fst).getD ""
  toolsRequested := (proxy.requestInfo path body).2

def monitorBlocks (path : String) (body : Body) : Bool :=
  match proxy.providers.resolveFromPath path with
  | some (_, adapter) =>
    match adapter.parseRequest proxy.floats body with
    | some request => proxy.scanBlocks request
    | none => false
  | none => false

/-- `proxy_handler`: the body goes upstream as it came. -/
def proxyHandler (path : String) (body : Body) : Outcome :=
  match proxy.providers.resolveFromPath path with
  | none => .providerNotFound path
  | some (provider, adapter) =>
    if proxy.cryptoBlocks provider then .cryptoBlocked provider
    else if proxy.circuitOpen provider then .circuitOpened provider
    else if proxy.buildsRequest provider path then .forwarded provider adapter body
    else .requestNotBuilt

def monitorLayer (path : String) (body : Body) : Outcome :=
  if proxy.monitorBlocks path body then .threatDetected else proxy.proxyHandler path body

def policyLayer (agent path : String) (body : Body) : Outcome :=
  if bodyLimit < body.size then .bodyTooLarge
  else
    let decision := evaluate proxy.policy (proxy.policyContext agent path body)
    if decision.effect = .allow then proxy.monitorLayer path body
    else .policyDenied decision.reason

def ForwardsOnlyPermitted (agent path : String) (body : Body) : Prop :=
  ∀ provider adapter sent, proxy.policyLayer agent path body = .forwarded provider adapter sent →
    ∀ tool ∈ adapter.definedTools proxy.floats sent, proxy.policy.permits agent tool = true

structure PassesOtherChecks (agent path : String) (body : Body) (provider : String) : Prop where
  size : body.size ≤ bodyLimit
  policy : proxy.policy.admits agent (proxy.requestInfo path body).1 provider = true
  monitor : proxy.monitorBlocks path body = false
  crypto : proxy.cryptoBlocks provider = false
  circuit : proxy.circuitOpen provider = false
  builds : proxy.buildsRequest provider path = true

variable {proxy} {path provider : String} {body sent : Body} {adapter : Adapter}

theorem proxyHandler_forwarded_iff :
    proxy.proxyHandler path body = .forwarded provider adapter sent ↔
      proxy.providers.resolveFromPath path = some (provider, adapter) ∧
        proxy.cryptoBlocks provider = false ∧ proxy.circuitOpen provider = false ∧
        proxy.buildsRequest provider path = true ∧ sent = body := by
  unfold proxyHandler
  cases proxy.providers.resolveFromPath path with
  | none => simp
  | some found =>
    simp only [Option.some.injEq]
    constructor
    · intro handled
      split_ifs at handled with crypto circuit builds
      obtain ⟨rfl, rfl, rfl⟩ := Outcome.forwarded.inj handled
      simp [crypto, circuit, builds]
    · rintro ⟨rfl, crypto, circuit, builds, rfl⟩
      simp [crypto, circuit, builds]

theorem requestInfo_tools
    (resolved : proxy.providers.resolveFromPath path = some (provider, adapter)) :
    (proxy.requestInfo path body).2 =
      if Adapter.namesModel proxy.floats body then adapter.definedTools proxy.floats body
      else [] := by
  simp only [requestInfo, resolved, ← adapter.parseRequest_isSome body]
  cases parsed : adapter.parseRequest proxy.floats body with
  | none => rfl
  | some request => exact Adapter.tools_of_parseRequest parsed

theorem policyLayer_forwarded_iff {agent : String} :
    proxy.policyLayer agent path body = .forwarded provider adapter sent ↔
      proxy.providers.resolveFromPath path = some (provider, adapter) ∧
        proxy.PassesOtherChecks agent path body provider ∧ sent = body ∧
        (Adapter.namesModel proxy.floats body = true →
          (∀ tool ∈ adapter.definedTools proxy.floats body,
              proxy.policy.permits agent tool = true) ∨
            ∃ tool ∈ adapter.definedTools proxy.floats body,
              proxy.policy.permits agent tool = true) := by
  have decides : (provider, adapter) ∈ proxy.providers.resolveFromPath path →
      ((evaluate proxy.policy (proxy.policyContext agent path body)).effect = .allow ↔
        proxy.policy.admits agent (proxy.requestInfo path body).1 provider = true ∧
        (Adapter.namesModel proxy.floats body = true →
          (∀ tool ∈ adapter.definedTools proxy.floats body,
              proxy.policy.permits agent tool = true) ∨
            ∃ tool ∈ adapter.definedTools proxy.floats body,
              proxy.policy.permits agent tool = true)) := by
    intro resolved
    rw [evaluate_allow_iff]
    simp only [policyContext, requestInfo_tools resolved, Option.mem_def.mp resolved]
    split_ifs with named <;> simp [named]
  constructor
  · intro sends
    dsimp only [policyLayer] at sends
    split_ifs at sends with large allowed
    unfold monitorLayer at sends
    split_ifs at sends with blocks
    obtain ⟨resolved, crypto, circuit, builds, rfl⟩ := proxyHandler_forwarded_iff.mp sends
    obtain ⟨admitted, tools⟩ := (decides resolved).mp allowed
    exact ⟨resolved, ⟨not_lt.mp large, admitted, by simpa using blocks, crypto, circuit, builds⟩,
      rfl, tools⟩
  · rintro ⟨resolved, passes, rfl, tools⟩
    have allowed := (decides resolved).mpr ⟨passes.policy, tools⟩
    rw [policyLayer, if_neg (not_lt.mpr passes.size), if_pos allowed, monitorLayer,
      if_neg (by simp [passes.monitor])]
    exact proxyHandler_forwarded_iff.mpr
      ⟨resolved, passes.crypto, passes.circuit, passes.builds, rfl⟩

/-- No denied tool reaches the provider exactly when, wherever every other check
passes, all the tools that the body defines are permitted, or it names a model
and they are all denied. -/
theorem forwardsOnlyPermitted_iff (agent path : String) (body : Body) :
    proxy.ForwardsOnlyPermitted agent path body ↔
      ∀ provider adapter,
        proxy.providers.resolveFromPath path = some (provider, adapter) →
          proxy.PassesOtherChecks agent path body provider →
            (∀ tool ∈ adapter.definedTools proxy.floats body,
                proxy.policy.permits agent tool = true) ∨
              (Adapter.namesModel proxy.floats body = true ∧
                ∀ tool ∈ adapter.definedTools proxy.floats body,
                  proxy.policy.permits agent tool = false) := by
  constructor
  · intro safe provider adapter resolved passes
    by_cases named : Adapter.namesModel proxy.floats body = true
    · by_cases onePermitted : ∃ tool ∈ adapter.definedTools proxy.floats body,
          proxy.policy.permits agent tool = true
      · left
        apply safe provider adapter body
        exact policyLayer_forwarded_iff.mpr
          ⟨resolved, passes, rfl, fun _ => Or.inr onePermitted⟩
      · right
        refine ⟨named, ?_⟩
        intro tool defined
        by_contra permitted
        exact onePermitted ⟨tool, defined, by simpa using permitted⟩
    · left
      apply safe provider adapter body
      exact policyLayer_forwarded_iff.mpr
        ⟨resolved, passes, rfl, fun isNamed => absurd isNamed named⟩
  · intro condition provider adapter sent sends
    obtain ⟨resolved, passes, rfl, tools⟩ := policyLayer_forwarded_iff.mp sends
    obtain permitted | ⟨named, denied⟩ := condition provider adapter resolved passes
    · exact permitted
    · -- all denied and yet sent: there was no tool
      obtain permitted | ⟨tool, defined, permitted⟩ := tools named
      · exact permitted
      · rw [denied tool defined] at permitted
        cases permitted

end Proxy

namespace ProxySample

def policy : PolicyConfig where
  default := .deny
  agents := (∅ : AgentMap).insert "bot" ⟨"", ["*"], [], ["email_send"], false⟩

def proxy : Proxy where
  floats := sampleFloats
  policy := policy
  providers := buildRegistry [("openai", "openai")]
  scanBlocks _ := false
  cryptoBlocks _ := false
  circuitOpen _ := false
  buildsRequest _ _ := true

def tool (name : String) : Value := .object [("function", .object [("name", .string name)])]

def json : Value :=
  .object [("model", .string "gpt-4o"),
    ("tools", .array [tool "web_search", tool "email_send"])]

def body : Body := .text (json.print sampleFloats)

theorem json_print {value : Value} (finite : value.FiniteNumbers)
    (nested : value.height ≤ nestingLimit)
    (collapsed : (value.readBack sampleFloats).collapse = value) :
    (Body.text (value.print sampleFloats)).json sampleFloats = some value := by
  have read : parseDocument sampleFloats (value.print sampleFloats ++ []) =
      some (value.readBack sampleFloats) :=
    parseDocument_print sampleFloats_lawful finite nested numberEnd_nil rfl
  rw [List.append_nil] at read
  rw [Body.json, read, Option.map_some, collapsed]

theorem body_json : body.json sampleFloats = some json := by
  apply json_print
  · simp [json, tool, Value.FiniteNumbers, Value.FiniteFields, Value.FiniteElements]
  · decide
  · rfl

theorem definedTools_body :
    Adapter.openAi.definedTools sampleFloats body = ["web_search", "email_send"] := by
  rw [Adapter.definedTools, body_json]
  rfl

theorem passes : proxy.PassesOtherChecks "bot" "/v1/chat/completions" body "openai" where
  size := by decide
  policy := rfl
  monitor := by
    simp only [Proxy.monitorBlocks]
    split <;> [split; skip] <;> rfl
  crypto := rfl
  circuit := rfl
  builds := rfl

end ProxySample

theorem blocked_tool_forwarded :
    ProxySample.proxy.policyLayer "bot" "/v1/chat/completions" ProxySample.body =
        .forwarded "openai" .openAi ProxySample.body ∧
      "email_send" ∈ Adapter.openAi.definedTools sampleFloats ProxySample.body ∧
      ProxySample.policy.permits "bot" "email_send" = false ∧
      ¬ ProxySample.proxy.ForwardsOnlyPermitted "bot" "/v1/chat/completions" ProxySample.body := by
  have defined := ProxySample.definedTools_body
  have member : "email_send" ∈ Adapter.openAi.definedTools sampleFloats ProxySample.body := by
    simp [defined]
  have denied : ProxySample.policy.permits "bot" "email_send" = false := rfl
  have forwards : ProxySample.proxy.policyLayer "bot" "/v1/chat/completions" ProxySample.body =
      .forwarded "openai" .openAi ProxySample.body := by
    refine Proxy.policyLayer_forwarded_iff.mpr ⟨rfl, ProxySample.passes, rfl, ?_⟩
    intro _
    refine Or.inr ⟨"web_search", ?_, rfl⟩
    exact defined ▸ List.mem_cons_self
  refine ⟨forwards, member, denied, ?_⟩
  intro safe
  have permitted := safe _ _ _ forwards "email_send" member
  cases denied.symm.trans permitted

end QuantaWatch.Gateway
