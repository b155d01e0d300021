import QuantaWatch.AttackGraph.Build

/-!
The attack paths of a graph.
-/

namespace QuantaWatch.AttackGraph

open Lib Lib.Text Scanner Store

def newLibraries (seen : List String) : List FindingRecord → List (String × FindingRecord)
  | [] => []
  | finding :: findings =>
    match libraryOf finding with
    | none => newLibraries seen findings
    | some library =>
      if library ∈ seen then newLibraries seen findings
      else (library, finding) :: newLibraries (library :: seen) findings

section Paths

variable (case : CaseMapping) (inputs : GraphInputs) (overrides : Overrides)

def accessPaths (agent : AgentInput) : List AttackPath :=
  (inputs.identities.filter (hasAccessPath case agent)).map (accessPath case agent)

def flowPaths (agent : AgentInput) : List AttackPath :=
  ((agentProviders case inputs agent).filter (hasFlowPath case inputs overrides agent)).map
    (flowPath case inputs overrides agent)

def agentPaths (agent : AgentInput) : List AttackPath :=
  accessPaths case inputs agent ++ flowPaths case inputs overrides agent

def dependencyPathsFrom (entries : List (String × FindingRecord)) : List AttackPath :=
  (entries.filter fun entry => entry.2.pqcStatus = .classicalWeak).map fun entry =>
    dependencyPath entry.2 entry.1

def assetPaths : List AttackPath :=
  (inputs.assets.filter (hasAssetPath case)).map (assetPath case)

def servicePaths (target : TargetRow) : List AttackPath :=
  (target.exposedServices.filter (hasServicePath case target)).map (servicePath case target)

def allPaths : List AttackPath :=
  inputs.agents.flatMap (agentPaths case inputs overrides) ++
    dependencyPathsFrom (newLibraries [] (liveFindings inputs)) ++ assetPaths case inputs ++
    inputs.targets.flatMap (servicePaths case)

end Paths

namespace Builder

variable {builder : Builder}

@[simp]
theorem paths_push {node : Node} : (builder.push node).paths = builder.paths := by
  rw [push]
  split_ifs <;> rfl

@[simp]
theorem paths_pushEdge {edge : Edge} : (builder.pushEdge edge).paths = builder.paths := rfl

@[simp]
theorem paths_addBlast {id : String} {amount : Binary64.Double} :
    (builder.addBlast id amount).paths = builder.paths := rfl

@[simp]
theorem paths_pushPath {path : AttackPath} :
    (builder.pushPath path).paths = builder.paths ++ [path] := rfl

theorem paths_foldl {α : Type} {step : Builder → α → Builder} {emits : α → List AttackPath}
    (each : ∀ builder item, (step builder item).paths = builder.paths ++ emits item)
    (items : List α) (builder : Builder) :
    (items.foldl step builder).paths = builder.paths ++ items.flatMap emits := by
  induction items generalizing builder with
  | nil => simp
  | cons item items ih =>
    rw [List.foldl_cons, ih, each, List.flatMap_cons, List.append_assoc]

theorem paths_foldl_silent {α : Type} {step : Builder → α → Builder}
    (each : ∀ builder item, (step builder item).paths = builder.paths)
    (items : List α) (builder : Builder) :
    (items.foldl step builder).paths = builder.paths := by
  induction items generalizing builder with
  | nil => rfl
  | cons item items ih => rw [List.foldl_cons, ih, each]

end Builder

section Engine

open Builder

variable {case : CaseMapping} {inputs : GraphInputs} {overrides : Overrides}

theorem flatMap_if {α β : Type} {items : List α} {test : α → Bool} {value : α → β} :
    (items.flatMap fun item => if test item then [value item] else []) =
      (items.filter test).map value := by
  induction items with
  | nil => rfl
  | cons item items ih =>
    rw [List.flatMap_cons, ih, List.filter_cons]
    split_ifs <;> rfl

theorem paths_addProvider (builder : Builder) (provider : String × ProviderInfo) :
    (addProvider inputs overrides builder provider).paths = builder.paths := by
  simp only [addProvider]
  split <;> simp

theorem paths_addIdentity (builder : Builder) (identity : IdentityInput) :
    (addIdentity builder identity).paths = builder.paths := by
  simp [addIdentity]

theorem paths_addAccess {agent : AgentInput} (builder : Builder)
    (identity : IdentityInput) :
    (addAccess case agent builder identity).paths = builder.paths ++
      if hasAccessPath case agent identity then [accessPath case agent identity] else [] := by
  simp only [addAccess]
  split_ifs <;> simp

theorem paths_addRoute {agent : AgentInput} (builder : Builder) (provider : String) :
    (addRoute case inputs overrides agent builder provider).paths = builder.paths ++
      if hasFlowPath case inputs overrides agent provider then
        [flowPath case inputs overrides agent provider] else [] := by
  have reached : ∀ node, (if "provider:" ++ provider ∈ builder.seen then builder
      else builder.push node).paths = builder.paths := by
    intro node
    split_ifs <;> simp
  simp only [addRoute]
  by_cases hasPath : hasFlowPath case inputs overrides agent provider = true
  · simp [hasPath, reached]
  · simp [hasPath, reached]

theorem paths_addAgent (builder : Builder) (agent : AgentInput) :
    (addAgent case inputs overrides builder agent).paths =
      builder.paths ++ agentPaths case inputs overrides agent := by
  simp only [addAgent]
  rw [paths_foldl paths_addRoute, paths_foldl paths_addAccess, flatMap_if, flatMap_if]
  simp [agentPaths, accessPaths, flowPaths]

theorem paths_dependencies (findings : List FindingRecord)
    (state : Builder × List String) :
    (findings.foldl addDependency state).1.paths =
      state.1.paths ++ dependencyPathsFrom (newLibraries state.2 findings) := by
  induction findings generalizing state with
  | nil => simp [newLibraries, dependencyPathsFrom]
  | cons finding findings ih =>
    rw [List.foldl_cons, ih, newLibraries]
    simp only [addDependency]
    cases libraryOf finding with
    | none => rfl
    | some library =>
      simp only
      by_cases isOld : library ∈ state.2
      · simp only [if_pos isOld]
      · simp only [if_neg isOld]
        by_cases weak : finding.pqcStatus = .classicalWeak
        · simp [weak, dependencyPathsFrom]
        · simp [weak, dependencyPathsFrom]

theorem paths_addAsset (builder : Builder) (asset : AssetRow) :
    (addAsset case builder asset).paths = builder.paths ++
      if hasAssetPath case asset then [assetPath case asset] else [] := by
  simp only [addAsset]
  by_cases hasPath : hasAssetPath case asset = true
  · simp [hasPath]
  · simp [hasPath]

theorem paths_addService {target : TargetRow} (builder : Builder)
    (service : ExposedService) :
    (addService case target builder service).paths = builder.paths ++
      if hasServicePath case target service then [servicePath case target service] else [] := by
  simp only [addService]
  by_cases hasPath : hasServicePath case target service = true
  · simp [hasPath]
  · simp [hasPath]

theorem paths_addTarget (builder : Builder) (target : TargetRow) :
    (addTarget case builder target).paths = builder.paths ++ servicePaths case target := by
  have container : ∀ (builder : Builder) (container : HostContainerRow),
      (addContainer target builder container).paths = builder.paths := by
    simp [addContainer]
  simp only [addTarget]
  rw [paths_foldl_silent container, paths_foldl paths_addService, flatMap_if]
  simp [servicePaths]

theorem paths_build : (build case inputs overrides).paths = allPaths case inputs overrides := by
  simp only [build]
  rw [paths_foldl paths_addTarget, paths_foldl paths_addAsset, paths_dependencies,
    paths_foldl paths_addAgent, paths_foldl_silent paths_addIdentity,
    paths_foldl_silent paths_addProvider, flatMap_if]
  simp [allPaths, assetPaths, Builder.empty]

theorem paths_buildGraph :
    (buildGraph case inputs overrides).paths.Perm (allPaths case inputs overrides) := by
  rw [← paths_build]
  exact List.perm_insertionSort _ _

end Engine

end QuantaWatch.AttackGraph
