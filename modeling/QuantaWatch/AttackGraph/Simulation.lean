import QuantaWatch.AttackGraph.Paths

/-!
What a simulated remediation does to the data-exposure paths.
-/

namespace QuantaWatch.AttackGraph

open Lib Lib.Binary64 Lib.Text Scanner Store

section Channels

variable {inputs : GraphInputs} {overrides : Overrides} {name : String}

def lastChannel (inputs : GraphInputs) (name : String) : Option ProviderChannel :=
  (inputs.providers.filter fun channel => channel.name = name).getLast?

theorem lookup_filterMap {groups : List (String × List ProviderChannel)}
    (nonempty : ∀ group ∈ groups, group.2 ≠ []) (info : String → ProviderChannel → ProviderInfo) :
    (groups.filterMap fun group =>
        group.2.getLast?.map fun channel => (group.1, info group.1 channel)).lookup name =
      ((groups.lookup name).bind List.getLast?).map (info name) := by
  induction groups with
  | nil => rfl
  | cons group groups ih =>
    obtain ⟨known, channels⟩ := group
    have isLast := List.getLast?_eq_some_getLast (nonempty _ List.mem_cons_self)
    have later := ih fun group isGroup =>
      nonempty group (List.mem_cons_of_mem _ isGroup)
    rw [List.filterMap_cons]
    by_cases same : name = known
    · subst same
      simp [isLast]
    · have differ : (name == known) = false := by simpa using same
      simp [isLast, List.lookup_cons, differ, later]

theorem providerInfo_eq :
    providerInfo inputs overrides name = (lastChannel inputs name).map fun channel =>
      ⟨(overrides name).getD channel.pqcStatus, channel.tlsVersion, channel.endpoint⟩ := by
  have nonempty : ∀ group ∈ Collections.groupOn ProviderChannel.name inputs.providers,
      group.2 ≠ [] := fun group isGroup => (Collections.mem_groupOn.mp isGroup).2
  refine (lookup_filterMap nonempty fun name channel =>
    ⟨(overrides name).getD channel.pqcStatus, channel.tlsVersion, channel.endpoint⟩).trans ?_
  rw [Collections.lookup_groupOn, lastChannel]
  split_ifs with empty
  · rw [empty]
    rfl
  · rfl

theorem channelStatus_eq : channelStatus inputs overrides name =
      ((lastChannel inputs name).map fun channel =>
        (overrides name).getD channel.pqcStatus).getD .unknown := by
  rw [channelStatus, providerInfo_eq, Option.map_map]
  rfl

theorem lastChannel_eq_none_iff :
    lastChannel inputs name = none ↔ name ∉ inputs.providers.map ProviderChannel.name := by
  rw [lastChannel, List.getLast?_eq_none_iff, List.filter_eq_nil_iff, List.mem_map]
  simp

def statusUnder (inputs : GraphInputs) (overrides : Overrides) (name : String) : PqcStatus :=
  (overrides name).getD (((lastChannel inputs name).map ProviderChannel.pqcStatus).getD .unknown)

def Lowers (inputs : GraphInputs) (first second : Overrides) : Prop :=
  ∀ name, second name = first name ∨ ∃ status, second name = some status ∧
    channelWeight status ≤ channelWeight (statusUnder inputs first name)

theorem channelWeight_le_of_lowers {first second : Overrides} (lowers : Lowers inputs first second)
    (name : String) : channelWeight (channelStatus inputs second name) ≤
      channelWeight (channelStatus inputs first name) := by
  rw [channelStatus_eq, channelStatus_eq]
  cases isLast : lastChannel inputs name with
  | none => exact le_refl (channelWeight .unknown).value
  | some channel =>
    obtain same | ⟨status, forced, lower⟩ := lowers name
    · rw [same]
      exact le_refl (channelWeight _).value
    · rw [forced]
      rw [statusUnder, isLast] at lower
      exact lower

end Channels

def scoreOf (data weight exposure boost : Double) : Double :=
  tenths (min (data * weight * exposure * boost) 1.0 * 100.0)

def dataClasses : List DataClass :=
  [⟨"Broad / Privileged Access", 1.0⟩, ⟨"Financial Data", 1.0⟩, ⟨"Customer PII", 0.95⟩,
    ⟨"Internal Data", 0.7⟩, ⟨"Source Code", 0.65⟩, ⟨"Public Data", 0.2⟩, ⟨"General Data", 0.5⟩]

def boosts : List Double := [1.0, 1.08, 1.2]

def statuses : List PqcStatus := [.pqcReady, .hybrid, .unknown, .classicalSecure, .classicalWeak]

theorem mem_statuses (status : PqcStatus) : status ∈ statuses := by
  cases status <;> decide

def classScore (found : DataClass) (offline : Bool) (boost weight : Double) : Double :=
  scoreOf (if offline then found.weight * 0.4 else found.weight) weight
    (if offline then 0.35 else 1.0) boost

-- the factors take finitely many values, so both facts are checked on all of them
theorem classScore_mono : ∀ found ∈ dataClasses, ∀ offline, ∀ boost ∈ boosts,
    ∀ low ∈ statuses, ∀ high ∈ statuses, channelWeight low ≤ channelWeight high →
      classScore found offline boost (channelWeight low) ≤
        classScore found offline boost (channelWeight high) := by
  decide +kernel

theorem classScore_unknown : ∀ found ∈ dataClasses, ∀ offline, ∀ boost ∈ boosts,
    (15.0 : Double) ≤ classScore found offline boost (channelWeight .unknown) ↔
      ¬ (offline = true ∨ found.label = "Public Data") := by
  decide +kernel

theorem exists_dataClass (case : CaseMapping) (tools : List String) (offline : Bool) :
    ∃ found ∈ dataClasses, dataClassFor case tools offline =
      if offline then { found with weight := found.weight * 0.4 } else found := by
  refine ⟨_, ?_, rfl⟩
  simp only
  split_ifs <;> simp [dataClasses]

section Routes

variable {case : CaseMapping} {inputs : GraphInputs} {overrides : Overrides}

def boostOf (inputs : GraphInputs) (agent : AgentInput) (provider : String) : Double :=
  let flow := flowOf inputs agent.name provider
  if 0 < flow.2 then 1.2 else if 0 < flow.1 then 1.08 else 1.0

theorem flowScore_eq (agent : AgentInput) (provider : String) :
    ∃ found ∈ dataClasses, ∃ boost ∈ boosts, (dataClass case agent).label = found.label ∧
      ∀ overrides, flowScore case inputs overrides agent provider =
        classScore found agent.offline boost
          (channelWeight (channelStatus inputs overrides provider)) := by
  obtain ⟨found, isClass, isFound⟩ := exists_dataClass case agent.allowedTools agent.offline
  have isBoost : boostOf inputs agent provider ∈ boosts := by
    simp only [boostOf]
    split_ifs <;> simp [boosts]
  have data : dataClass case agent =
      if agent.offline then { found with weight := found.weight * 0.4 } else found := isFound
  refine ⟨found, isClass, _, isBoost, ?_, fun overrides => ?_⟩
  · rw [data]
    cases agent.offline <;> rfl
  · show scoreOf (dataClass case agent).weight _ (if agent.offline then 0.35 else 1.0) _ = _
    rw [data]
    cases agent.offline <;> rfl

variable {first second : Overrides} {agent : AgentInput} {provider : String}

theorem flowScore_mono (lower : channelWeight (channelStatus inputs second provider) ≤
      channelWeight (channelStatus inputs first provider)) :
    flowScore case inputs second agent provider ≤ flowScore case inputs first agent provider := by
  obtain ⟨found, isClass, boost, isBoost, -, score⟩ := @flowScore_eq case inputs agent provider
  rw [score, score]
  exact classScore_mono found isClass agent.offline boost isBoost _ (mem_statuses _) _
    (mem_statuses _) lower

def connections (case : CaseMapping) (inputs : GraphInputs) : List (AgentInput × String) :=
  inputs.agents.flatMap fun agent => (agentProviders case inputs agent).map (agent, ·)

def routes (case : CaseMapping) (inputs : GraphInputs) (overrides : Overrides) :
    List (AgentInput × String) :=
  (connections case inputs).filter fun connection =>
    hasFlowPath case inputs overrides connection.1 connection.2

def exposures (graph : Graph) : List AttackPath :=
  graph.paths.filter fun path => path.kind = .dataExposure

theorem flowPaths_eq : inputs.agents.flatMap (flowPaths case inputs overrides) =
      (routes case inputs overrides).map fun route =>
        flowPath case inputs overrides route.1 route.2 := by
  simp only [routes, connections, List.filter_flatMap, List.filter_map, List.map_flatMap,
    List.map_map, Function.comp_def]
  rfl

theorem exposures_perm : (exposures (buildGraph case inputs overrides)).Perm
      ((routes case inputs overrides).map fun route =>
        flowPath case inputs overrides route.1 route.2) := by
  refine (paths_buildGraph.filter _).trans (.of_eq ?_)
  have agents : ∀ agent, (agentPaths case inputs overrides agent).filter
      (fun path => path.kind = .dataExposure) = flowPaths case inputs overrides agent := by
    intro agent
    simp [agentPaths, accessPaths, accessPath, flowPaths, flowPath, List.filter_map,
      Function.comp_def]
  have dependencies : ∀ entries, (dependencyPathsFrom entries).filter
      (fun path => path.kind = .dataExposure) = [] := by
    intro entries
    simp [dependencyPathsFrom, dependencyPath, List.filter_map, Function.comp_def]
  have assets : (assetPaths case inputs).filter (fun path => path.kind = .dataExposure) = [] := by
    simp [assetPaths, assetPath, List.filter_map, Function.comp_def]
  have services : ∀ target, (servicePaths case target).filter
      (fun path => path.kind = .dataExposure) = [] := by
    intro target
    simp [servicePaths, servicePath, List.filter_map, Function.comp_def]
  rw [← flowPaths_eq]
  simp [allPaths, List.filter_append, List.filter_flatMap, agents, dependencies, assets, services]

def Eased (first second : List AttackPath) : Prop :=
  ∃ kept ≤ (first : Multiset AttackPath),
    Multiset.Rel (fun path before => path.id = before.id ∧ path.score ≤ before.score)
      (second : Multiset AttackPath) kept

theorem hasFlowPath_of_lowers (lowers : Lowers inputs first second)
    (hasPath : hasFlowPath case inputs second agent provider = true) :
    hasFlowPath case inputs first agent provider = true := by
  have lower := channelWeight_le_of_lowers lowers provider
  have score := @flowScore_mono case inputs first second agent provider lower
  simp only [hasFlowPath, Bool.and_eq_true, Bool.not_eq_true', decide_eq_false_iff_not,
    Double.le_def, Double.lt_def, not_le, not_lt] at hasPath lower score ⊢
  exact ⟨hasPath.1.trans_le lower, hasPath.2.trans score⟩

theorem eased_of_lowers (lowers : Lowers inputs first second) :
    Eased (exposures (buildGraph case inputs first))
      (exposures (buildGraph case inputs second)) := by
  have fewer : (routes case inputs second).Sublist (routes case inputs first) :=
    List.monotone_filter_right _ fun route => hasFlowPath_of_lowers lowers
  rw [Eased, Multiset.coe_eq_coe.mpr exposures_perm, Multiset.coe_eq_coe.mpr exposures_perm]
  refine ⟨((routes case inputs second).map fun route =>
    flowPath case inputs first route.1 route.2 : List AttackPath), ?_, ?_⟩
  · exact Multiset.coe_le.mpr (fewer.map _).subperm
  · rw [← Multiset.map_coe, ← Multiset.map_coe, Multiset.rel_map]
    refine Multiset.rel_refl_of_refl_on fun route _ => ⟨rfl, ?_⟩
    exact flowScore_mono (channelWeight_le_of_lowers lowers route.2)

def Reaches (case : CaseMapping) (inputs : GraphInputs) (agent : AgentInput)
    (provider : String) : Prop :=
  (∃ model ∈ agent.allowedModels, provider ∈ providersForModel case model) ∨
    ∃ flow ∈ inputs.flows, flow.agent = agent.name ∧ flow.provider = provider

theorem mem_agentProviders :
    provider ∈ agentProviders case inputs agent ↔ Reaches case inputs agent provider := by
  rw [agentProviders, sortedSet, Collections.mem_groupOn_keys, List.map_id, List.mem_append,
    List.mem_flatMap, Reaches]
  simp [and_assoc]

def Simulable (case : CaseMapping) (inputs : GraphInputs) (provider : String) : Prop :=
  provider ∈ inputs.providers.map ProviderChannel.name ∨
    ∀ agent ∈ inputs.agents, Reaches case inputs agent provider →
      agent.offline = true ∨ (dataClass case agent).label = "Public Data"

theorem exists_exposure_iff :
    (∃ path ∈ exposures (buildGraph case inputs overrides), path.provider = provider) ↔
      ∃ agent ∈ inputs.agents, Reaches case inputs agent provider ∧
        hasFlowPath case inputs overrides agent provider = true := by
  simp only [exposures_perm.mem_iff, List.mem_map, routes, connections, List.mem_filter,
    List.mem_flatMap]
  constructor
  · rintro ⟨path, ⟨route, ⟨⟨agent, isAgent, other, isOther, rfl⟩, hasPath⟩, rfl⟩, rfl⟩
    exact ⟨agent, isAgent, mem_agentProviders.mp isOther, hasPath⟩
  · rintro ⟨agent, isAgent, reaches, hasPath⟩
    exact ⟨_, ⟨(agent, provider),
      ⟨⟨agent, isAgent, provider, mem_agentProviders.mpr reaches, rfl⟩, hasPath⟩, rfl⟩, rfl⟩

theorem hasFlowPath_unknown (unknown : channelStatus inputs overrides provider = .unknown) :
    hasFlowPath case inputs overrides agent provider = true ↔
      ¬ (agent.offline = true ∨ (dataClass case agent).label = "Public Data") := by
  obtain ⟨found, isClass, boost, isBoost, label, score⟩ := @flowScore_eq case inputs agent provider
  have weighs : ¬ channelWeight .unknown ≤ (0.0 : Double) := by decide +kernel
  have path : hasFlowPath case inputs overrides agent provider = true ↔
      (15.0 : Double) ≤ classScore found agent.offline boost (channelWeight .unknown) := by
    rw [hasFlowPath, score, unknown]
    simp [weighs, Double.le_def, Double.lt_def]
  rw [path, label]
  exact classScore_unknown found isClass agent.offline boost isBoost

theorem hasFlowPath_safe (safe : channelStatus inputs overrides provider = .pqcReady) :
    hasFlowPath case inputs overrides agent provider = false := by
  have weightless : channelWeight .pqcReady ≤ (0.0 : Double) := by decide +kernel
  rw [hasFlowPath, safe, decide_eq_true weightless]
  rfl

/-- Setting a provider to be quantum-safe removes all data-exposure paths through it, and lower
weights only remove paths or lower their scores, exactly if the provider was scanned or only
isolated agents and public data reach it. -/
theorem simulation_removes_iff {provider : String} :
    ((∀ overrides : Overrides, overrides provider = some .pqcReady →
        ∀ path ∈ exposures (buildGraph case inputs overrides), path.provider ≠ provider) ∧
      ∀ first second, Lowers inputs first second →
        Eased (exposures (buildGraph case inputs first))
          (exposures (buildGraph case inputs second))) ↔
      Simulable case inputs provider := by
  rw [and_iff_left fun first second => eased_of_lowers]
  have noPath : ∀ overrides : Overrides,
      (∀ path ∈ exposures (buildGraph case inputs overrides), path.provider ≠ provider) ↔
        ∀ agent ∈ inputs.agents, Reaches case inputs agent provider →
          hasFlowPath case inputs overrides agent provider = false := by
    intro overrides
    have some_iff := not_congr (@exists_exposure_iff case inputs overrides provider)
    simpa using some_iff
  simp only [noPath]
  cases isLast : lastChannel inputs provider with
  | some channel =>
    have scanned : provider ∈ inputs.providers.map ProviderChannel.name := by
      by_contra absent
      rw [lastChannel_eq_none_iff.mpr absent] at isLast
      exact nomatch isLast
    refine iff_of_true ?_ (.inl scanned)
    intro overrides forced agent _ _
    refine hasFlowPath_safe ?_
    rw [channelStatus_eq, isLast, forced]
    rfl
  | none =>
    have notScanned := lastChannel_eq_none_iff.mp isLast
    have unknown : ∀ overrides : Overrides,
        channelStatus inputs overrides provider = .unknown := by
      intro overrides
      rw [channelStatus_eq, isLast]
      rfl
    rw [Simulable, or_iff_right notScanned]
    constructor
    · intro always agent isAgent reaches
      have without := always (fun _ => some .pqcReady) rfl agent isAgent reaches
      by_contra exposed
      rw [(hasFlowPath_unknown (unknown _)).mpr exposed] at without
      exact Bool.noConfusion without
    · intro small overrides _ agent isAgent reaches
      rw [← Bool.not_eq_true, hasFlowPath_unknown (unknown overrides), not_not]
      exact small agent isAgent reaches

end Routes

def supportAgent : AgentInput where
  name := "support"
  offline := false
  allowedTools := ["crm_lookup"]
  allowedModels := ["gpt-4o"]

def unscannedInputs : GraphInputs where
  providers := []
  identities := []
  agents := [supportAgent]
  flows := []
  findings := []
  assets := []
  targets := []

theorem unscanned_provider_keeps_path :
    ∃ path ∈ exposures (buildGraph asciiCase unscannedInputs fun name =>
        if name = "openai" then some .pqcReady else none),
      path.provider = "openai" ∧ path.id = "flow:support->openai" := by
  decide +kernel

end QuantaWatch.AttackGraph
