import Mathlib

/-!
The policy engine (`qw-policy/src/engine.rs`, `types.rs`, and
`validate_policy` in `yaml_parser.rs`).
-/

namespace QuantaWatch.Policy

inductive DefaultEffect where
  | allow
  | deny
deriving DecidableEq

structure AgentPolicy where
  description : String
  allowedModels : List String
  allowedTools : List String
  blockedTools : List String
  offline : Bool
deriving DecidableEq

abbrev AgentMap := AList fun _ : String => AgentPolicy

structure PolicyConfig where
  default : DefaultEffect
  agents : AgentMap

/-- What `evaluate` reads of a request. -/
structure RequestContext where
  agentName : String
  model : String
  provider : String
  toolsRequested : List String

inductive Effect where
  | allow
  | deny
deriving DecidableEq

structure PolicyDecision where
  effect : Effect
  reason : String
  toolsAllowed : List String
  toolsDenied : List String
deriving DecidableEq

namespace PolicyDecision

def allow (reason : String) : PolicyDecision := ⟨.allow, reason, [], []⟩

def deny (reason : String) : PolicyDecision := ⟨.deny, reason, [], []⟩

end PolicyDecision

def matchesGlob (pattern value : String) : Bool :=
  if pattern = "*" then true
  else
    match pattern.toList.splitOn '*' with
    | [front, back] => front.isPrefixOf value.toList && back.isSuffixOf value.toList
    | _ => pattern = value

def isCloudProvider (provider : String) : Bool :=
  provider ∈ ["anthropic", "openai", "bedrock", "gemini", "deepseek-cloud"]

namespace AgentPolicy

variable (policy : AgentPolicy)

def permits (tool : String) : Bool :=
  if policy.blockedTools.any (matchesGlob · tool) then false
  else policy.allowedTools.isEmpty || policy.allowedTools.any (matchesGlob · tool)

def permitsModel (model : String) : Bool :=
  policy.allowedModels.isEmpty || policy.allowedModels.any (matchesGlob · model)

def refusesProvider (provider : String) : Bool :=
  policy.offline && isCloudProvider provider

def sortTool (split : List String × List String) (tool : String) : List String × List String :=
  if policy.permits tool then (split.1 ++ [tool], split.2) else (split.1, split.2 ++ [tool])

def splitTools (tools : List String) : List String × List String :=
  tools.foldl policy.sortTool ([], [])

theorem splitTools_eq (tools : List String) :
    policy.splitTools tools = (tools.filter policy.permits, tools.filter (!policy.permits ·)) := by
  have folded : ∀ split : List String × List String, tools.foldl policy.sortTool split =
      (split.1 ++ tools.filter policy.permits, split.2 ++ tools.filter (!policy.permits ·)) := by
    induction tools with
    | nil => simp
    | cons tool rest ih =>
      intro split
      rw [List.foldl_cons, ih]
      cases permitted : policy.permits tool <;> simp [sortTool, permitted]
  simpa [splitTools] using folded ([], [])

end AgentPolicy

def evaluate (config : PolicyConfig) (ctx : RequestContext) : PolicyDecision :=
  match config.agents.lookup ctx.agentName with
  | none =>
    match config.default with
    | .allow => .allow "no agent policy, default allow"
    | .deny => .deny ("no policy defined for agent '" ++ ctx.agentName ++ "'")
  | some policy =>
    if policy.permitsModel ctx.model then
      let split := policy.splitTools ctx.toolsRequested
      if split.2 ≠ [] ∧ split.1 = [] then
        ⟨.deny, "all requested tools denied for agent '" ++ ctx.agentName ++ "'", split.1,
          split.2⟩
      else if policy.refusesProvider ctx.provider then
        .deny ("agent '" ++ ctx.agentName ++ "' is offline-only, cannot use cloud provider '" ++
          ctx.provider ++ "'")
      else if split.2 ≠ [] then
        ⟨.allow, "partial allow: some tools denied for agent '" ++ ctx.agentName ++ "'", split.1,
          split.2⟩
      else ⟨.allow, "all checks passed for agent '" ++ ctx.agentName ++ "'", split.1, split.2⟩
    else
      .deny ("model '" ++ ctx.model ++ "' not allowed for agent '" ++ ctx.agentName ++ "'")

theorem evaluate_congr {left right : PolicyConfig} (default : left.default = right.default)
    (agents : ∀ name, left.agents.lookup name = right.agents.lookup name) (ctx : RequestContext) :
    evaluate left ctx = evaluate right ctx := by
  rw [evaluate, evaluate, agents, default]

def PolicyConfig.permits (config : PolicyConfig) (agent tool : String) : Bool :=
  match config.agents.lookup agent with
  | none => config.default = .allow
  | some policy => policy.permits tool

/-- Everything `evaluate` asks for, apart from the tools. -/
def PolicyConfig.admits (config : PolicyConfig) (agent model provider : String) : Bool :=
  match config.agents.lookup agent with
  | none => config.default = .allow
  | some policy => policy.permitsModel model && !policy.refusesProvider provider

theorem evaluate_allow_iff {config : PolicyConfig} {ctx : RequestContext} :
    (evaluate config ctx).effect = .allow ↔
      config.admits ctx.agentName ctx.model ctx.provider = true ∧
        ((∀ tool ∈ ctx.toolsRequested, config.permits ctx.agentName tool = true) ∨
          ∃ tool ∈ ctx.toolsRequested, config.permits ctx.agentName tool = true) := by
  unfold evaluate PolicyConfig.admits PolicyConfig.permits
  cases config.agents.lookup ctx.agentName with
  | none =>
    cases config.default <;> simp [PolicyDecision.allow, PolicyDecision.deny]
  | some policy =>
    have denied : (policy.splitTools ctx.toolsRequested).2 = [] ↔
        ∀ tool ∈ ctx.toolsRequested, policy.permits tool = true := by
      simp [policy.splitTools_eq]
    have allowed : (policy.splitTools ctx.toolsRequested).1 = [] ↔
        ¬ ∃ tool ∈ ctx.toolsRequested, policy.permits tool = true := by
      simp [policy.splitTools_eq]
    simp only [Bool.and_eq_true, Bool.not_eq_true', ← denied, ← not_iff_comm.mp allowed.symm]
    split_ifs <;> simp_all [PolicyDecision.deny]

def AgentPolicy.conflict (policy : AgentPolicy) : Option String :=
  policy.allowedTools.find? fun tool => tool ∈ policy.blockedTools && tool ≠ "*"

def validatePolicy (config : PolicyConfig) : Except String Unit :=
  let conflict := config.agents.entries.findSome? fun agent =>
    agent.2.conflict.map fun tool =>
      "agent '" ++ agent.1 ++ "': tool '" ++ tool ++ "' is both allowed and blocked"
  match conflict with
  | some message => .error message
  | none => .ok ()

theorem validatePolicy_ok_iff {config : PolicyConfig} : validatePolicy config = .ok () ↔
      ∀ name policy, config.agents.lookup name = some policy → policy.conflict = none := by
  have entries : ∀ name policy,
      config.agents.lookup name = some policy ↔ ⟨name, policy⟩ ∈ config.agents.entries := by
    intro name policy
    exact AList.mem_lookup_iff
  simp only [validatePolicy]
  split
  · rename_i message found
    simp only [reduceCtorEq, false_iff, entries]
    intro clear
    obtain ⟨agent, member, conflict⟩ := List.exists_of_findSome?_eq_some found
    simp [clear agent.1 agent.2 member] at conflict
  · rename_i clear
    simp only [true_iff, entries]
    intro name policy member
    simpa using List.findSome?_eq_none_iff.mp clear ⟨name, policy⟩ member

end QuantaWatch.Policy
