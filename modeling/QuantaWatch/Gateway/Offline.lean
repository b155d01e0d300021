import QuantaWatch.Gateway.Proxy
import QuantaWatch.Gateway.Upstream

/-!
Agents whose policy is offline-only and the providers their requests
reach.
-/

namespace QuantaWatch.Gateway

open Crypto Lib.Json Policy

def hostedProtocols : List String := ["anthropic", "openai", "azure-openai", "azure", "cohere"]

def ProviderConfigs.hosted (configs : ProviderConfigs) (name : String) : Bool :=
  (configs.lookup name).any fun config => config.protocol ∈ hostedProtocols

namespace Proxy

variable (proxy : Proxy)

def configured (configs : ProviderConfigs) : Proxy := { proxy with providers := configs.registry }

def ReachesHosted (configs : ProviderConfigs) (agent path : String) (body : Body) : Prop :=
  ∃ provider adapter sent,
    (proxy.configured configs).policyLayer agent path body = .forwarded provider adapter sent ∧
      configs.hosted provider = true

structure PassesBesidesOffline (policy : AgentPolicy) (path : String) (body : Body)
    (provider : String) (adapter : Adapter) : Prop where
  size : body.size ≤ bodyLimit
  model : policy.permitsModel (proxy.requestInfo path body).1 = true
  tools : Adapter.namesModel proxy.floats body = true →
    (∀ tool ∈ adapter.definedTools proxy.floats body, policy.permits tool = true) ∨
      ∃ tool ∈ adapter.definedTools proxy.floats body, policy.permits tool = true
  monitor : proxy.monitorBlocks path body = false
  crypto : proxy.cryptoBlocks provider = false
  circuit : proxy.circuitOpen provider = false
  builds : proxy.buildsRequest provider path = true

variable {proxy} {agent provider : String} {policy : AgentPolicy}

theorem admits_offline {model : String} (known : proxy.policy.agents.lookup agent = some policy)
    (offline : policy.offline = true) : proxy.policy.admits agent model provider = true ↔
      policy.permitsModel model = true ∧ isCloudProvider provider = false := by
  simp [PolicyConfig.admits, known, AgentPolicy.refusesProvider, offline]

theorem forwarded_offline_iff {path : String} {adapter : Adapter} {body sent : Body}
    (known : proxy.policy.agents.lookup agent = some policy) (offline : policy.offline = true) :
    proxy.policyLayer agent path body = .forwarded provider adapter sent ↔
      proxy.providers.resolveFromPath path = some (provider, adapter) ∧ sent = body ∧
        isCloudProvider provider = false ∧
        proxy.PassesBesidesOffline policy path body provider adapter := by
  have permits : ∀ tool, proxy.policy.permits agent tool = policy.permits tool := by
    intro tool
    simp [PolicyConfig.permits, known]
  rw [policyLayer_forwarded_iff]
  simp only [permits]
  constructor
  · intro ⟨resolved, passes, same, tools⟩
    obtain ⟨model, notCloud⟩ := (admits_offline known offline).mp passes.policy
    exact ⟨resolved, same, notCloud, passes.size, model, tools, passes.monitor, passes.crypto,
      passes.circuit, passes.builds⟩
  · intro ⟨resolved, same, notCloud, passes⟩
    have admitted := (admits_offline known offline).mpr ⟨passes.model, notCloud⟩
    exact ⟨resolved, ⟨passes.size, admitted, passes.monitor, passes.crypto, passes.circuit,
      passes.builds⟩, same, passes.tools⟩

/-- A request of an offline agent is kept from hosted providers exactly when the
provider of its path is not hosted, or has one of the five names on the list of
cloud providers, or another check stops the request. -/
theorem not_reachesHosted_iff {configs : ProviderConfigs} {agent path : String} {body : Body}
    {policy : AgentPolicy} (known : proxy.policy.agents.lookup agent = some policy)
    (offline : policy.offline = true) :
    ¬ proxy.ReachesHosted configs agent path body ↔
      ∀ provider adapter, configs.registry.resolveFromPath path = some (provider, adapter) →
        configs.hosted provider = true →
          isCloudProvider provider = true ∨
            ¬ (proxy.configured configs).PassesBesidesOffline policy path body provider
              adapter := by
  have sends : ∀ {provider adapter sent},
      (proxy.configured configs).policyLayer agent path body = .forwarded provider adapter sent ↔
        configs.registry.resolveFromPath path = some (provider, adapter) ∧ sent = body ∧
          isCloudProvider provider = false ∧
          (proxy.configured configs).PassesBesidesOffline policy path body provider adapter := by
    intro provider adapter sent
    exact @forwarded_offline_iff (proxy.configured configs) agent provider policy path adapter body
      sent known offline
  constructor
  · intro kept provider adapter resolved hosted
    by_contra reaches
    rw [not_or, Bool.not_eq_true, not_not] at reaches
    exact kept ⟨provider, adapter, body, sends.mpr ⟨resolved, rfl, reaches⟩, hosted⟩
  · intro condition reaches
    obtain ⟨provider, adapter, sent, sent_eq, hosted⟩ := reaches
    obtain ⟨resolved, -, notCloud, passes⟩ := sends.mp sent_eq
    rcases condition provider adapter resolved hosted with cloud | stopped
    · rw [notCloud] at cloud
      cases cloud
    · exact stopped passes

end Proxy

namespace OfflineSample

def configs : ProviderConfigs :=
  [⟨"anthropic", ⟨"anthropic", "https://api.anthropic.com"⟩⟩,
    ⟨"cohere", ⟨"cohere", "https://api.cohere.com"⟩⟩].toAList

def policy : AgentPolicy := ⟨"", [], [], [], true⟩

def proxy : Proxy where
  floats := sampleFloats
  policy := ⟨.deny, [⟨"local-bot", policy⟩].toAList⟩
  providers := ∅
  scanBlocks _ := false
  cryptoBlocks _ := false
  circuitOpen _ := false
  buildsRequest _ _ := true

def body : Body :=
  .text "\x7b\"model\":\"command-r-plus\",\"message\":\"hi\"\x7d".toList

theorem monitorBlocks_eq (path : String) :
    (proxy.configured configs).monitorBlocks path body = false := by
  simp only [Proxy.monitorBlocks]
  split <;> [split; skip] <;> rfl

theorem passes : (proxy.configured configs).PassesBesidesOffline policy "/v1/chat" body "cohere"
    .cohere where
  size := by decide
  model := rfl
  tools := fun _ => Or.inl fun _ _ => rfl
  monitor := monitorBlocks_eq "/v1/chat"
  crypto := rfl
  circuit := rfl
  builds := rfl

end OfflineSample

theorem offline_kept_from_anthropic :
    ¬ OfflineSample.proxy.ReachesHosted OfflineSample.configs "local-bot" "/v1/messages"
      OfflineSample.body := by
  apply (@Proxy.not_reachesHosted_iff OfflineSample.proxy OfflineSample.configs "local-bot"
    "/v1/messages" OfflineSample.body OfflineSample.policy rfl rfl).mpr
  intro provider adapter resolved _
  have found : OfflineSample.configs.registry.resolveFromPath "/v1/messages" =
      some ("anthropic", .anthropic) := by decide
  obtain ⟨rfl, rfl⟩ := Prod.mk.inj (Option.some.inj (found.symm.trans resolved))
  exact Or.inl rfl

theorem offline_reaches_cohere :
    (OfflineSample.proxy.configured OfflineSample.configs).policyLayer "local-bot" "/v1/chat"
        OfflineSample.body = .forwarded "cohere" .cohere OfflineSample.body ∧
      OfflineSample.configs.hosted "cohere" = true ∧
      OfflineSample.proxy.ReachesHosted OfflineSample.configs "local-bot" "/v1/chat"
        OfflineSample.body := by
  have sends : (OfflineSample.proxy.configured OfflineSample.configs).policyLayer "local-bot"
      "/v1/chat" OfflineSample.body = .forwarded "cohere" .cohere OfflineSample.body :=
    (Proxy.forwarded_offline_iff rfl rfl).mpr
      ⟨by decide, rfl, by decide, OfflineSample.passes⟩
  exact ⟨sends, by decide, "cohere", .cohere, OfflineSample.body, sends, by decide⟩

end QuantaWatch.Gateway
