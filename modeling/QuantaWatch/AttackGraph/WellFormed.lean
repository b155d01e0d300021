import QuantaWatch.AttackGraph.Build

/-!
Every graph that the engine returns is well formed.
-/

namespace QuantaWatch.AttackGraph

open Lib.Text Scanner

structure Graph.WellFormed (graph : Graph) : Prop where
  distinct : (graph.nodes.map Node.id).Nodup
  edges : ∀ edge ∈ graph.edges,
    edge.source ∈ graph.nodes.map Node.id ∧ edge.target ∈ graph.nodes.map Node.id
  paths : ∀ path ∈ graph.paths, ∀ id ∈ path.nodeIds, id ∈ graph.nodes.map Node.id

namespace Builder

structure WellFormed (builder : Builder) : Prop where
  distinct : (builder.nodes.map Node.id).Nodup
  seen : ∀ id, id ∈ builder.seen ↔ id ∈ builder.nodes.map Node.id
  edges : ∀ edge ∈ builder.edges, edge.source ∈ builder.seen ∧ edge.target ∈ builder.seen
  paths : ∀ path ∈ builder.paths, ∀ id ∈ path.nodeIds, id ∈ builder.seen

structure Grows (before after : Builder) : Prop where
  wellFormed : after.WellFormed
  seen : before.seen ⊆ after.seen

variable {builder before after later : Builder} {node : Node} {path : AttackPath}

private theorem wellFormed_empty : empty.WellFormed := by
  constructor <;> simp [empty]

theorem Grows.refl (wellFormed : builder.WellFormed) : Grows builder builder :=
  ⟨wellFormed, List.Subset.refl _⟩

theorem Grows.trans (first : Grows before after) (second : Grows after later) :
    Grows before later :=
  ⟨second.wellFormed, List.Subset.trans first.seen second.seen⟩

private theorem mem_seen_push : node.id ∈ (builder.push node).seen := by
  rw [push]
  split_ifs with isSeen
  · exact isSeen
  · exact List.mem_cons_self

theorem grows_push (wellFormed : builder.WellFormed) : Grows builder (builder.push node) := by
  rw [push]
  split_ifs with isSeen
  · exact .refl wellFormed
  · refine ⟨⟨?_, ?_, ?_, ?_⟩, fun _ => List.mem_cons_of_mem _⟩
    · rw [List.map_append, List.map_singleton, ← List.concat_eq_append]
      apply wellFormed.distinct.concat
      rwa [← wellFormed.seen]
    · intro id
      simp [wellFormed.seen id, or_comm]
    · intro edge member
      have ends := wellFormed.edges edge member
      exact ⟨List.mem_cons_of_mem _ ends.1, List.mem_cons_of_mem _ ends.2⟩
    · intro path member id isNode
      exact List.mem_cons_of_mem _ (wellFormed.paths path member id isNode)

theorem Grows.push (grows : Grows before builder) : Grows before (builder.push node) :=
  grows.trans (grows_push grows.wellFormed)

theorem Grows.pushEdge (edge : Edge) (grows : Grows before builder)
    (source : edge.source ∈ builder.seen) (target : edge.target ∈ builder.seen) :
    Grows before (builder.pushEdge edge) := by
  refine ⟨⟨grows.wellFormed.distinct, grows.wellFormed.seen, ?_, grows.wellFormed.paths⟩,
    grows.seen⟩
  intro other member
  rcases List.mem_append.mp member with old | new
  · exact grows.wellFormed.edges other old
  · rw [List.mem_singleton.mp new]
    exact ⟨source, target⟩

theorem Grows.pushPath (grows : Grows before builder)
    (nodes : ∀ id ∈ path.nodeIds, id ∈ builder.seen) : Grows before (builder.pushPath path) := by
  refine ⟨⟨grows.wellFormed.distinct, grows.wellFormed.seen, grows.wellFormed.edges, ?_⟩,
    grows.seen⟩
  intro other member
  rcases List.mem_append.mp member with old | new
  · exact grows.wellFormed.paths other old
  · rw [List.mem_singleton.mp new]
    exact nodes

theorem Grows.addBlast {id : String} {amount : Lib.Binary64.Double}
    (grows : Grows before builder) : Grows before (builder.addBlast id amount) :=
  ⟨⟨grows.wellFormed.distinct, grows.wellFormed.seen, grows.wellFormed.edges,
    grows.wellFormed.paths⟩, grows.seen⟩

private theorem grows_foldl {α : Type} {step : Builder → α → Builder} {items : List α}
    {needed : List String} (seen : needed ⊆ builder.seen)
    (each : ∀ item ∈ items, ∀ builder : Builder, builder.WellFormed → needed ⊆ builder.seen →
      Grows builder (step builder item))
    (wellFormed : builder.WellFormed) : Grows builder (items.foldl step builder) := by
  induction items generalizing builder with
  | nil => exact .refl wellFormed
  | cons item items ih =>
    have first := each item List.mem_cons_self builder wellFormed seen
    have rest := ih (List.Subset.trans seen first.seen)
      (fun item member => each item (List.mem_cons_of_mem _ member)) first.wellFormed
    exact first.trans rest

theorem WellFormed.finish (wellFormed : builder.WellFormed) : builder.finish.WellFormed := by
  have ids : builder.finish.nodes.map Node.id = builder.nodes.map Node.id := by
    rw [Builder.finish, List.map_map]
    apply List.map_congr_left
    intro node _
    simp only [Function.comp_apply]
    split <;> rfl
  refine ⟨ids ▸ wellFormed.distinct, ?_, ?_⟩
  · intro edge member
    rw [ids, ← wellFormed.seen, ← wellFormed.seen]
    exact wellFormed.edges edge member
  · intro path member id isNode
    rw [ids, ← wellFormed.seen]
    exact wellFormed.paths path ((List.perm_insertionSort _ _).mem_iff.mp member) id isNode

end Builder

open Builder

section Loops

variable {case : CaseMapping} {inputs : GraphInputs} {overrides : Overrides} {builder : Builder}

theorem grows_addProvider (provider : String × ProviderInfo) (wellFormed : builder.WellFormed) :
    Grows builder (addProvider inputs overrides builder provider) := by
  simp only [addProvider]
  split
  · exact grows_push wellFormed
  · refine Grows.pushEdge _ (grows_push wellFormed).push ?_ mem_seen_push
    exact (grows_push (grows_push wellFormed).wellFormed).seen mem_seen_push

private theorem grows_addIdentity (identity : IdentityInput) (wellFormed : builder.WellFormed) :
    Grows builder (addIdentity builder identity) :=
  grows_push wellFormed

theorem mem_seen_identities {identities : List IdentityInput} (wellFormed : builder.WellFormed) :
    ∀ identity ∈ identities,
      "identity:" ++ identity.label ∈ (identities.foldl addIdentity builder).seen := by
  induction identities generalizing builder with
  | nil => exact fun _ member => absurd member List.not_mem_nil
  | cons first identities ih =>
    intro identity member
    have grows := grows_addIdentity first wellFormed
    rcases List.mem_cons.mp member with rfl | later
    · have rest := grows_foldl (List.nil_subset _)
        (fun identity (_ : identity ∈ identities) _ wellFormed _ =>
          grows_addIdentity identity wellFormed) grows.wellFormed
      exact rest.seen mem_seen_push
    · exact ih grows.wellFormed identity later

variable {agent : AgentInput} {target : TargetRow}

private theorem grows_addAccess {identity : IdentityInput} (wellFormed : builder.WellFormed)
    (seen : ["identity:" ++ identity.label, agentId agent, dataId case agent] ⊆ builder.seen) :
    Grows builder (addAccess case agent builder identity) := by
  have edge := Grows.pushEdge ⟨"identity:" ++ identity.label, agentId agent, .canAccess, false⟩
    (.refl wellFormed) (seen (by simp)) (seen (by simp))
  simp only [addAccess]
  split_ifs
  · exact edge.pushPath seen
  · exact edge

private theorem grows_addRoute {provider : String} (wellFormed : builder.WellFormed)
    (seen : [dataId case agent, agentId agent] ⊆ builder.seen) :
    Grows builder (addRoute case inputs overrides agent builder provider) := by
  -- the provider is a node before the edge, by one loop or the other
  have pushed : ∃ reached, (if "provider:" ++ provider ∈ builder.seen then builder
      else builder.push <| statusNode ("provider:" ++ provider) .provider provider
        "not yet scanned" ((overrides provider).getD .unknown) (isObserved inputs provider)) =
        reached ∧ Grows builder reached ∧ "provider:" ++ provider ∈ reached.seen := by
    refine ⟨_, rfl, ?_⟩
    split_ifs with isSeen
    · exact ⟨.refl wellFormed, isSeen⟩
    · exact ⟨grows_push wellFormed, mem_seen_push⟩
  rcases pushed with ⟨reached, isReached, grows, isNode⟩
  have nodes : ∀ id ∈ [dataId case agent, agentId agent, "provider:" ++ provider],
      id ∈ reached.seen := by
    intro id member
    rcases List.mem_append.mp (show id ∈ [dataId case agent, agentId agent] ++ _ from member) with
      early | late
    · exact grows.seen (seen early)
    · rwa [List.mem_singleton.mp late]
  simp only [addRoute, isReached]
  have edge := Grows.pushEdge
    ⟨agentId agent, "provider:" ++ provider, .routesTo, 0 < (flowOf inputs agent.name provider).1⟩
    grows (nodes _ (by simp)) isNode
  by_cases hasPath : hasFlowPath case inputs overrides agent provider = true
  · rw [if_pos hasPath]
    exact edge.addBlast.pushPath nodes
  · rw [if_neg hasPath]
    exact edge

private theorem grows_addAgent (agent : AgentInput) (wellFormed : builder.WellFormed)
    (seen : inputs.identities.map (fun identity => "identity:" ++ identity.label) ⊆
      builder.seen) :
    Grows builder (addAgent case inputs overrides builder agent) := by
  -- both nodes of the agent, and the edge between them
  have nodes : Grows builder ((builder.push (agentNode agent)).push (dataNode case agent)) :=
    (grows_push wellFormed).push
  have isAgent :
      agentId agent ∈ ((builder.push (agentNode agent)).push (dataNode case agent)).seen :=
    (grows_push (grows_push wellFormed).wellFormed).seen mem_seen_push
  have isData : dataId case agent ∈
      ((builder.push (agentNode agent)).push (dataNode case agent)).seen := mem_seen_push
  have linked := Grows.pushEdge ⟨dataId case agent, agentId agent, .handles, false⟩ nodes isData
    isAgent
  have own : [dataId case agent, agentId agent] ⊆
      (((builder.push (agentNode agent)).push (dataNode case agent)).pushEdge
        ⟨dataId case agent, agentId agent, .handles, false⟩).seen := by
    simp [List.cons_subset, Builder.pushEdge, isAgent, isData]
  simp only [addAgent]
  generalize ((builder.push (agentNode agent)).push (dataNode case agent)).pushEdge
    ⟨dataId case agent, agentId agent, .handles, false⟩ = start at linked own ⊢
  have accesses : Grows start (inputs.identities.foldl (addAccess case agent) start) := by
    apply grows_foldl (List.append_subset.mpr ⟨List.Subset.trans seen linked.seen, own⟩) _
      linked.wellFormed
    intro identity member builder wellFormed needed
    apply grows_addAccess wellFormed
    have isIdentity := needed (List.mem_append_left _ (List.mem_map_of_mem member))
    exact List.cons_subset.mpr ⟨isIdentity, List.cons_subset.mpr
      ⟨needed (List.mem_append_right _ (by simp)), List.cons_subset.mpr
        ⟨needed (List.mem_append_right _ (by simp)), List.nil_subset _⟩⟩⟩
  refine linked.trans (accesses.trans ?_)
  apply grows_foldl (List.Subset.trans own accesses.seen) _ accesses.wellFormed
  intro provider _ builder wellFormed needed
  exact grows_addRoute wellFormed needed

private theorem grows_addDependency (state : Builder × List String) (finding : FindingRecord)
    (wellFormed : state.1.WellFormed) : Grows state.1 (addDependency state finding).1 := by
  simp only [addDependency]
  cases libraryOf finding with
  | none => exact .refl wellFormed
  | some library =>
    simp only
    split_ifs
    · exact .refl wellFormed
    · refine (grows_push wellFormed).pushPath fun id isNode => ?_
      rw [List.mem_singleton.mp isNode]
      exact mem_seen_push
    · exact grows_push wellFormed

private theorem grows_dependencies (findings : List FindingRecord) (state : Builder × List String)
    (wellFormed : state.1.WellFormed) : Grows state.1 (findings.foldl addDependency state).1 := by
  induction findings generalizing state with
  | nil => exact .refl wellFormed
  | cons finding findings ih =>
    have first := grows_addDependency state finding wellFormed
    exact first.trans (ih _ first.wellFormed)

private theorem grows_addAsset (asset : AssetRow) (wellFormed : builder.WellFormed) :
    Grows builder (addAsset case builder asset) := by
  simp only [addAsset]
  by_cases hasPath : hasAssetPath case asset = true
  · rw [if_pos hasPath]
    refine (grows_push wellFormed).pushPath fun id isNode => ?_
    rw [List.mem_singleton.mp isNode]
    exact mem_seen_push
  · rw [if_neg hasPath]
    exact grows_push wellFormed

private theorem grows_addService (service : ExposedService) (wellFormed : builder.WellFormed)
    (isHost : [hostId target] ⊆ builder.seen) :
    Grows builder (addService case target builder service) := by
  simp only [addService]
  generalize isNode : (⟨serviceId target service, _, _, _, _, _, _, _⟩ : Node) = node
  have isService : serviceId target service ∈ (builder.push node).seen := by
    rw [← isNode]
    exact mem_seen_push
  have pushed := @grows_push builder node wellFormed
  have host := pushed.seen (isHost List.mem_cons_self)
  have edge := Grows.pushEdge ⟨hostId target, serviceId target service, .exposes, false⟩ pushed
    host isService
  by_cases hasPath : hasServicePath case target service = true
  · rw [if_pos hasPath]
    apply edge.addBlast.pushPath
    intro id member
    rcases List.mem_pair.mp member with rfl | rfl
    · exact host
    · exact isService
  · rw [if_neg hasPath]
    exact edge

private theorem grows_addContainer (container : HostContainerRow) (wellFormed : builder.WellFormed)
    (isHost : [hostId target] ⊆ builder.seen) :
    Grows builder (addContainer target builder container) :=
  Grows.pushEdge _ (grows_push wellFormed)
    ((grows_push wellFormed).seen (isHost List.mem_cons_self)) mem_seen_push

private theorem grows_addTarget (target : TargetRow) (wellFormed : builder.WellFormed) :
    Grows builder (addTarget case builder target) := by
  have pushed := @grows_push builder (hostNode target) wellFormed
  have isHost : [hostId target] ⊆ (builder.push (hostNode target)).seen :=
    List.cons_subset.mpr ⟨mem_seen_push, List.nil_subset _⟩
  have services : Grows (builder.push (hostNode target))
      (target.exposedServices.foldl (addService case target)
        (builder.push (hostNode target))) :=
    grows_foldl isHost
      (fun service _ _ wellFormed isHost => grows_addService service wellFormed isHost)
      pushed.wellFormed
  refine pushed.trans (services.trans ?_)
  exact grows_foldl (List.Subset.trans isHost services.seen)
    (fun container _ _ wellFormed isHost => grows_addContainer container wellFormed isHost)
    services.wellFormed

end Loops

/-- The graph of any inputs under any overrides. -/
theorem buildGraph_wellFormed (case : CaseMapping) (inputs : GraphInputs) (overrides : Overrides) :
    (buildGraph case inputs overrides).WellFormed := by
  have providersAdded := grows_foldl (List.nil_subset _)
    (fun provider (_ : provider ∈ providers inputs overrides) _ wellFormed _ =>
      @grows_addProvider inputs overrides _ provider wellFormed) wellFormed_empty
  have identitiesAdded := grows_foldl (List.nil_subset _)
    (fun identity (_ : identity ∈ inputs.identities) _ wellFormed _ =>
      grows_addIdentity identity wellFormed) providersAdded.wellFormed
  have isIdentity : inputs.identities.map (fun identity => "identity:" ++ identity.label) ⊆
      (inputs.identities.foldl addIdentity
        ((providers inputs overrides).foldl (addProvider inputs overrides) .empty)).seen := by
    intro id member
    rcases List.mem_map.mp member with ⟨identity, isInput, rfl⟩
    exact mem_seen_identities providersAdded.wellFormed identity isInput
  have agentsAdded := grows_foldl isIdentity
    (fun agent (_ : agent ∈ inputs.agents) _ wellFormed seen =>
      @grows_addAgent case inputs overrides _ agent wellFormed seen) identitiesAdded.wellFormed
  have dependenciesAdded := grows_dependencies (liveFindings inputs) (_, [])
    agentsAdded.wellFormed
  have assetsAdded := grows_foldl (List.nil_subset _)
    (fun asset (_ : asset ∈ inputs.assets) _ wellFormed _ =>
      @grows_addAsset case _ asset wellFormed) dependenciesAdded.wellFormed
  have targetsAdded := grows_foldl (List.nil_subset _)
    (fun target (_ : target ∈ inputs.targets) _ wellFormed _ =>
      @grows_addTarget case _ target wellFormed) assetsAdded.wellFormed
  exact targetsAdded.wellFormed.finish

end QuantaWatch.AttackGraph
