import QuantaWatch.AttackGraph.Paths

/-!
The ids of attack paths.
-/

namespace QuantaWatch.AttackGraph

open Lib Lib.Text Scanner

inductive Subject where
  | access (identity agent : String)
  | flow (agent provider : String)
  | dependency (library : String)
  | asset (id : String)
  | service (target : String) (port : UInt16)

def Subject.id : Subject → String
  | access identity agent => "access:" ++ identity ++ "->" ++ agent
  | flow agent provider => "flow:" ++ agent ++ "->" ++ provider
  | dependency library => "asset:" ++ library
  | asset id => "asset:" ++ id
  | service target port => "service:" ++ target ++ ":" ++ toString port.toNat

section Subjects

variable (case : CaseMapping) (inputs : GraphInputs) (overrides : Overrides)

def accessLabels (agent : AgentInput) : List String :=
  (inputs.identities.filter (hasAccessPath case agent)).map IdentityInput.label

def flowProviders (agent : AgentInput) : List String :=
  (agentProviders case inputs agent).filter (hasFlowPath case inputs overrides agent)

def weakLibraries : List String :=
  ((newLibraries [] (liveFindings inputs)).filter fun entry =>
    entry.2.pqcStatus = .classicalWeak).map Prod.fst

def assetIds : List String := (inputs.assets.filter (hasAssetPath case)).map AssetRow.id

def servicePorts (target : TargetRow) : List UInt16 :=
  (target.exposedServices.filter (hasServicePath case target)).map ExposedService.port

def agentSubjects (agent : AgentInput) : List Subject :=
  (accessLabels case inputs agent).map (.access · agent.name) ++
    (flowProviders case inputs overrides agent).map (.flow agent.name ·)

def subjects : List Subject :=
  inputs.agents.flatMap (agentSubjects case inputs overrides) ++
    (weakLibraries inputs).map .dependency ++ (assetIds case inputs).map .asset ++
    inputs.targets.flatMap fun target => (servicePorts case target).map (.service target.id)

end Subjects

def Builder.pathIds (builder : Builder) : List String := builder.paths.map AttackPath.id

section Engine

variable {case : CaseMapping} {inputs : GraphInputs} {overrides : Overrides}

private theorem ids_agentPaths (agent : AgentInput) :
    (agentPaths case inputs overrides agent).map AttackPath.id =
      (agentSubjects case inputs overrides agent).map Subject.id := by
  simp [agentPaths, accessPaths, flowPaths, agentSubjects, accessLabels, flowProviders,
    accessPath, flowPath, Subject.id, Function.comp_def]

private theorem ids_dependencyPaths :
    (dependencyPathsFrom (newLibraries [] (liveFindings inputs))).map AttackPath.id =
      ((weakLibraries inputs).map Subject.dependency).map Subject.id := by
  simp [dependencyPathsFrom, weakLibraries, dependencyPath, Subject.id, Function.comp_def]

private theorem ids_assetPaths : (assetPaths case inputs).map AttackPath.id =
      ((assetIds case inputs).map Subject.asset).map Subject.id := by
  simp [assetPaths, assetIds, assetPath, Subject.id, Function.comp_def]

theorem ids_servicePaths (target : TargetRow) : (servicePaths case target).map AttackPath.id =
      ((servicePorts case target).map (Subject.service target.id)).map Subject.id := by
  simp [servicePaths, servicePorts, servicePath, serviceId, Subject.id, Function.comp_def]

private theorem pathIds_build :
    (build case inputs overrides).pathIds = (subjects case inputs overrides).map Subject.id := by
  rw [Builder.pathIds, paths_build]
  simp only [allPaths, subjects, List.map_append, List.map_flatMap, ids_agentPaths,
    ids_dependencyPaths, ids_assetPaths, ids_servicePaths]

private theorem ids_buildGraph : ((buildGraph case inputs overrides).paths.map AttackPath.id).Perm
      ((subjects case inputs overrides).map Subject.id) := by
  rw [← pathIds_build]
  exact (List.perm_insertionSort _ _).map _

end Engine

namespace Subject

def tag : Subject → String
  | access _ _ => "access"
  | flow _ _ => "flow"
  | dependency _ => "asset"
  | asset _ => "asset"
  | service _ _ => "service"

def name : Subject → String
  | access identity agent => identity ++ "->" ++ agent
  | flow agent provider => agent ++ "->" ++ provider
  | dependency library => library
  | asset id => id
  | service target port => target ++ ":" ++ toString port.toNat

private theorem id_toList (subject : Subject) :
    subject.id.toList = subject.tag.toList ++ ':' :: subject.name.toList := by
  cases subject <;> simp [id, tag, name]

private theorem colon_notMem_tag (subject : Subject) : ':' ∉ subject.tag.toList := by
  cases subject <;> simp [tag]

private theorem id_eq_iff {left right : Subject} :
    left.id = right.id ↔ left.tag = right.tag ∧ left.name = right.name := by
  rw [← String.toList_inj, id_toList, id_toList,
    append_separator_inj (colon_notMem_tag left) (colon_notMem_tag right), String.toList_inj,
    String.toList_inj]

private theorem service_name_eq_iff {target other : String} {port otherPort : UInt16} :
    (service target port).name = (service other otherPort).name ↔
      target = other ∧ port = otherPort := by
  have digits := fun number => notMem_toDigits (show ':'.isDigit = false by decide) number
  rw [← String.toList_inj]
  simp only [name, String.toList_append, toString_toList, List.append_assoc,
    show ":".toList = [':'] from rfl, List.singleton_append]
  rw [append_lastSeparator_inj (digits _) (digits _), String.toList_inj, toDigits_inj,
    UInt16.toNat_inj]

end Subject

private theorem libraries_newLibraries (findings : List FindingRecord) (seen : List String) :
    ((newLibraries seen findings).map Prod.fst).Nodup ∧
      ∀ library ∈ (newLibraries seen findings).map Prod.fst, library ∉ seen := by
  induction findings generalizing seen with
  | nil => exact ⟨List.nodup_nil, fun library member => absurd member List.not_mem_nil⟩
  | cons finding findings ih =>
    rw [newLibraries]
    split
    · exact ih seen
    · next library _ =>
        split_ifs with isSeen
        · exact ih seen
        · obtain ⟨distinct, isNew⟩ := ih (library :: seen)
          rw [List.map_cons]
          refine ⟨List.nodup_cons.mpr ⟨fun again => isNew library again List.mem_cons_self,
            distinct⟩, ?_⟩
          intro other member
          obtain same | later := List.mem_cons.mp member
          · rw [same]
            exact isSeen
          · exact fun wasSeen => isNew other later (List.mem_cons_of_mem library wasSeen)

namespace GraphInputs

structure Distinct (inputs : GraphInputs) : Prop where
  agents : (inputs.agents.map AgentInput.name).Nodup
  identities : (inputs.identities.map IdentityInput.label).Nodup
  providers : (inputs.providers.map ProviderChannel.name).Nodup
  assets : (inputs.assets.map AssetRow.id).Nodup
  targets : (inputs.targets.map TargetRow.id).Nodup

structure Apart (case : CaseMapping) (inputs : GraphInputs) (overrides : Overrides) : Prop where
  access : ∀ agent ∈ inputs.agents, ∀ other ∈ inputs.agents,
    ∀ label ∈ accessLabels case inputs agent, ∀ otherLabel ∈ accessLabels case inputs other,
      label ++ "->" ++ agent.name = otherLabel ++ "->" ++ other.name →
        label = otherLabel ∧ agent.name = other.name
  flows : ∀ agent ∈ inputs.agents, ∀ other ∈ inputs.agents,
    ∀ provider ∈ flowProviders case inputs overrides agent,
    ∀ otherProvider ∈ flowProviders case inputs overrides other,
      agent.name ++ "->" ++ provider = other.name ++ "->" ++ otherProvider →
        agent.name = other.name ∧ provider = otherProvider
  assets : ∀ library ∈ weakLibraries inputs, library ∉ assetIds case inputs
  ports : ∀ target ∈ inputs.targets, (servicePorts case target).Nodup

end GraphInputs

section Distinctness

variable {case : CaseMapping} {inputs : GraphInputs} {overrides : Overrides}

private def Subject.owner : Subject → String
  | access _ agent => agent
  | flow agent _ => agent
  | dependency _ => ""
  | asset _ => ""
  | service target _ => target

private theorem owner_of_mem_agentSubjects {agent : AgentInput} {subject : Subject}
    (member : subject ∈ agentSubjects case inputs overrides agent) :
    subject.owner = agent.name := by
  obtain isAccess | isFlow := List.mem_append.mp member
  · obtain ⟨label, _, rfl⟩ := List.mem_map.mp isAccess
    rfl
  · obtain ⟨provider, _, rfl⟩ := List.mem_map.mp isFlow
    rfl

private theorem nodup_flatMap_owner {α : Type} {name : α → String} {emits : α → List Subject}
    {items : List α} (distinct : (items.map name).Nodup)
    (owned : ∀ item, ∀ subject ∈ emits item, subject.owner = name item)
    (each : ∀ item ∈ items, (emits item).Nodup) : (items.flatMap emits).Nodup := by
  rw [List.nodup_flatMap]
  refine ⟨each, (List.pairwise_map.mp distinct).imp ?_⟩
  intro item other differ subject inItem inOther
  exact differ ((owned item subject inItem).symm.trans (owned other subject inOther))

private theorem nodup_agentSubjects (distinct : inputs.Distinct) (agent : AgentInput) :
    (agentSubjects case inputs overrides agent).Nodup := by
  have labels : (accessLabels case inputs agent).Nodup :=
    distinct.identities.sublist (List.filter_sublist.map _)
  have routes : (flowProviders case inputs overrides agent).Nodup :=
    (Collections.groupOn_keys_nodup id _).filter _
  refine List.Nodup.append (labels.map fun label other same => (Subject.access.inj same).1)
    (routes.map fun provider other same => (Subject.flow.inj same).2) ?_
  intro subject isAccess isFlow
  obtain ⟨label, _, rfl⟩ := List.mem_map.mp isAccess
  obtain ⟨provider, _, mixed⟩ := List.mem_map.mp isFlow
  exact Subject.noConfusion mixed

private theorem nodup_services (distinct : inputs.Distinct)
    (ports : ∀ target ∈ inputs.targets, (servicePorts case target).Nodup) :
    (inputs.targets.flatMap fun target =>
      (servicePorts case target).map (Subject.service target.id)).Nodup := by
  refine nodup_flatMap_owner distinct.targets ?_ fun target member =>
    (ports target member).map fun port other same => (Subject.service.inj same).2
  intro target subject member
  obtain ⟨port, _, rfl⟩ := List.mem_map.mp member
  rfl

private theorem mem_subjects {subject : Subject} : subject ∈ subjects case inputs overrides ↔
      match subject with
      | .access label name =>
        ∃ agent ∈ inputs.agents, agent.name = name ∧ label ∈ accessLabels case inputs agent
      | .flow name provider =>
        ∃ agent ∈ inputs.agents,
          agent.name = name ∧ provider ∈ flowProviders case inputs overrides agent
      | .dependency library => library ∈ weakLibraries inputs
      | .asset id => id ∈ assetIds case inputs
      | .service id port =>
        ∃ target ∈ inputs.targets, target.id = id ∧ port ∈ servicePorts case target := by
  cases subject <;> simp [subjects, agentSubjects, and_comm]

private theorem nodup_subjects (distinct : inputs.Distinct)
    (ports : ∀ target ∈ inputs.targets, (servicePorts case target).Nodup) :
    (subjects case inputs overrides).Nodup := by
  have agents : (inputs.agents.flatMap (agentSubjects case inputs overrides)).Nodup :=
    nodup_flatMap_owner distinct.agents (fun agent subject => owner_of_mem_agentSubjects)
      fun agent _ => nodup_agentSubjects distinct agent
  have libraries : ((weakLibraries inputs).map Subject.dependency).Nodup :=
    ((libraries_newLibraries (liveFindings inputs) []).1.sublist (List.filter_sublist.map _)).map
      fun library other same => Subject.dependency.inj same
  have assets : ((assetIds case inputs).map Subject.asset).Nodup :=
    (distinct.assets.sublist (List.filter_sublist.map _)).map
      fun id other same => Subject.asset.inj same
  refine ((agents.append libraries ?_).append assets ?_).append (nodup_services distinct ports) ?_
  all_goals
    intro subject first second
    cases subject <;> simp [agentSubjects] at first second

private theorem apart_of_nodup (unique : ((subjects case inputs overrides).map Subject.id).Nodup) :
    inputs.Apart case overrides := by
  have injective {subject other : Subject} (first : subject ∈ subjects case inputs overrides)
      (second : other ∈ subjects case inputs overrides) (tags : subject.tag = other.tag)
      (names : subject.name = other.name) : subject = other :=
    List.inj_on_of_nodup_map unique first second (Subject.id_eq_iff.mpr ⟨tags, names⟩)
  constructor
  case access =>
    intro agent isAgent other isOther label hasLabel otherLabel hasOther joined
    exact Subject.access.inj (injective (mem_subjects.mpr ⟨agent, isAgent, rfl, hasLabel⟩)
      (mem_subjects.mpr ⟨other, isOther, rfl, hasOther⟩) rfl joined)
  case flows =>
    intro agent isAgent other isOther provider hasProvider otherProvider hasOther joined
    exact Subject.flow.inj (injective (mem_subjects.mpr ⟨agent, isAgent, rfl, hasProvider⟩)
      (mem_subjects.mpr ⟨other, isOther, rfl, hasOther⟩) rfl joined)
  case assets =>
    intro library isLibrary isAsset
    have mixed : Subject.dependency library = Subject.asset library :=
      injective (mem_subjects.mpr isLibrary) (mem_subjects.mpr isAsset) rfl rfl
    exact Subject.noConfusion mixed
  case ports =>
    intro target member
    have services := (List.nodup_append.mp unique.of_map).2.1
    exact ((List.nodup_flatMap.mp services).1 target member).of_map

private theorem eq_of_id_eq (apart : inputs.Apart case overrides) {subject other : Subject}
    (first : subject ∈ subjects case inputs overrides)
    (second : other ∈ subjects case inputs overrides) (same : subject.id = other.id) :
    subject = other := by
  obtain ⟨tags, names⟩ := Subject.id_eq_iff.mp same
  have weak := apart.assets
  rw [mem_subjects] at first second
  cases subject <;> cases other
  -- Only a dependency and an asset share a kind.
  any_goals (simp [Subject.tag] at tags; done)
  case access.access label agent otherLabel otherAgent =>
    obtain ⟨row, isRow, rfl, hasLabel⟩ := first
    obtain ⟨otherRow, isOther, rfl, hasOther⟩ := second
    obtain ⟨labels, agents⟩ := apart.access row isRow otherRow isOther label hasLabel otherLabel
      hasOther names
    rw [labels, agents]
  case flow.flow agent provider otherAgent otherProvider =>
    obtain ⟨row, isRow, rfl, hasProvider⟩ := first
    obtain ⟨otherRow, isOther, rfl, hasOther⟩ := second
    obtain ⟨agents, providers⟩ := apart.flows row isRow otherRow isOther provider hasProvider
      otherProvider hasOther names
    rw [agents, providers]
  case dependency.dependency => exact congrArg Subject.dependency names
  case dependency.asset library id =>
    obtain rfl : library = id := names
    exact absurd second (weak library first)
  case asset.dependency id library =>
    obtain rfl : id = library := names
    exact absurd first (weak id second)
  case asset.asset => exact congrArg Subject.asset names
  case service.service =>
    obtain ⟨targets, ports⟩ := Subject.service_name_eq_iff.mp names
    rw [targets, ports]

/-- The ids of a graph's paths are distinct exactly when the names stay apart. -/
theorem nodup_pathIds_iff (distinct : inputs.Distinct) :
    ((buildGraph case inputs overrides).paths.map AttackPath.id).Nodup ↔
      inputs.Apart case overrides := by
  rw [ids_buildGraph.nodup_iff]
  constructor
  · exact apart_of_nodup
  · intro apart
    exact (nodup_subjects distinct apart.ports).map_on fun subject first other second same =>
      eq_of_id_eq apart first second same

def scannedHost (ports : List UInt16) : TargetRow where
  id := "t1"
  name := "web"
  host := "10.0.0.5"
  kind := "server"
  environment := "production"
  tags := []
  exposedServices := ports.map fun port => ⟨port, "https", "classical_secure", true⟩
  containers := []
  hostInfo := none
  pqcStatus := "classical_secure"

def weakDependency (library : String) : FindingRecord where
  id := "f1"
  scanId := "s1"
  category := .vulnerableLibrary
  severity := .high
  title := "Crypto dependency: " ++ library
  description := ""
  assetType := .cryptoLibrary
  algorithm := none
  pqcStatus := .classicalWeak
  location := "Cargo.toml"
  remediation := none
  createdAt := ⟨0⟩
  confidence := .medium
  evidence := []
  status := .opened
  note := none

def onePerKind (ports : List UInt16) (library : String) : GraphInputs where
  providers := [⟨"openai", .classicalSecure, "TLS 1.2", "https://api"⟩]
  identities := [⟨"apikey:ci", "admin"⟩]
  agents := [⟨"ops", false, ["sql"], ["gpt"]⟩]
  flows := []
  findings := [weakDependency library]
  assets := [⟨"gw", "api", "gw:443", "production", [], "classical-weak", none⟩]
  targets := [scannedHost ports]

private theorem onePerKind_distinct (ports : List UInt16) (library : String) :
    (onePerKind ports library).Distinct := by
  constructor <;> exact List.nodup_singleton _

theorem pathIds_repeat :
    (onePerKind [443, 443] "md5").Distinct ∧
      ¬ ((buildGraph asciiCase (onePerKind [443, 443] "md5") fun _ => none).paths.map
        AttackPath.id).Nodup ∧
      (onePerKind [443] "gw").Distinct ∧
      ¬ ((buildGraph asciiCase (onePerKind [443] "gw") fun _ => none).paths.map
        AttackPath.id).Nodup :=
  ⟨onePerKind_distinct _ _, by decide +kernel, onePerKind_distinct _ _, by decide +kernel⟩

theorem onePerKind_nodup_pathIds :
    (onePerKind [443, 22] "md5").Distinct ∧
      ((buildGraph asciiCase (onePerKind [443, 22] "md5") fun _ => none).paths.map
        AttackPath.id).Nodup :=
  ⟨onePerKind_distinct _ _, (nodup_pathIds_iff (onePerKind_distinct _ _)).mpr
    (by constructor <;> decide +kernel)⟩

end Distinctness

end QuantaWatch.AttackGraph
