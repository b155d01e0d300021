import QuantaWatch.Lib.Text
import QuantaWatch.Policy.Yaml

/-!
The policy engine of a running gateway (`AppState::new` and
`build_policy_yaml` in `qw-gateway/src/state.rs`).
-/

namespace QuantaWatch.Gateway

open Lib Policy

/-- What `build_policy_yaml` reads of an agent's settings. -/
structure AgentConfig where
  description : String
  allowedModels : List String
  allowedTools : List String
  blockedTools : List String
  offline : Bool

/-- `policy.default` and `agents` of the gateway's configuration. -/
structure PolicySettings where
  default : String
  agents : AList fun _ : String => AgentConfig

def listYaml (key : String) (items : List String) : String :=
  if items = [] then ""
  else items.foldl (fun yaml item => yaml ++ ("      - \"" ++ item ++ "\"\n"))
    ("    " ++ key ++ ":\n")

def agentYaml (name : String) (agent : AgentConfig) : String :=
  "  " ++ name ++ ":\n" ++ ("    description: \"" ++ agent.description ++ "\"\n") ++
    listYaml "allowed_models" agent.allowedModels ++
    listYaml "allowed_tools" agent.allowedTools ++
    listYaml "blocked_tools" agent.blockedTools ++
    if agent.offline then "    offline: true\n" else ""

def buildPolicyYaml (settings : PolicySettings) : String :=
  if settings.agents.entries = [] then "default: allow\nagents: \x7b\x7d"
  else settings.agents.entries.foldl (fun yaml agent => yaml ++ agentYaml agent.1 agent.2)
    ("default: " ++ settings.default ++ "\nagents:\n")

/-- The engine of a new gateway. Text that is no policy is replaced by the empty
policy; without a result the gateway would panic. -/
def newPolicyEngine (read : Yaml.Reader) (settings : PolicySettings) : Option PolicyConfig :=
  match parsePolicy read (buildPolicyYaml settings) with
  | .ok config => some config
  | .error _ => (parsePolicy read "agents: \x7b\x7d").toOption

def AgentConfig.policy (agent : AgentConfig) : AgentPolicy :=
  ⟨agent.description, agent.allowedModels, agent.allowedTools, agent.blockedTools, agent.offline⟩

def PolicySettings.engine (settings : PolicySettings) (effect : DefaultEffect) : PolicyConfig :=
  ⟨effect, (settings.agents.entries.map fun agent => ⟨agent.1, agent.2.policy⟩).toAList⟩

def PolicySettings.consistent (settings : PolicySettings) : Bool :=
  settings.agents.entries.all fun agent => agent.2.policy.conflict.isNone

def denyAll : PolicyConfig := ⟨.deny, ∅⟩

/-- The policy that settings with an agent ask for, or the empty one if it is not valid. -/
def PolicySettings.inForce (settings : PolicySettings) : PolicyConfig :=
  match DefaultEffect.ofName settings.default with
  | some effect => if settings.consistent then settings.engine effect else denyAll
  | none => denyAll

def AgentConfig.quotable (agent : AgentConfig) : Bool :=
  (agent.description :: (agent.allowedModels ++ agent.allowedTools ++ agent.blockedTools)).all
    fun text => Yaml.quotedSafe text.toList

def PolicySettings.plain (settings : PolicySettings) : Bool :=
  Yaml.plainSafe settings.default.toList &&
    settings.agents.entries.all fun agent =>
      Yaml.keySafe agent.1.toList && agent.2.quotable

def listFields (key : String) (items : List String) : Yaml.Block :=
  if items = [] then []
  else [(key.toList, .sequence (items.map fun item => .quoted item.toList))]

def agentFields (agent : AgentConfig) : Yaml.Block :=
  ("description".toList, .scalar (.quoted agent.description.toList)) ::
    (listFields "allowed_models" agent.allowedModels ++
      listFields "allowed_tools" agent.allowedTools ++
      listFields "blocked_tools" agent.blockedTools ++
      if agent.offline then [("offline".toList, .scalar (.plain "true".toList))] else [])

def PolicySettings.agentsNode (settings : PolicySettings) : Yaml.Node :=
  .mapping (settings.agents.entries.map fun agent =>
    (agent.1.toList, .mapping (agentFields agent.2)))

def PolicySettings.document (settings : PolicySettings) : Yaml.Block :=
  [("default".toList, .scalar (.plain settings.default.toList)),
    ("agents".toList, settings.agentsNode)]

private theorem filter_listFields (key name : String) (items : List String) :
    ((listFields key items).filter fun field => String.ofList field.1 = name) =
      if key = name then listFields key items else [] := by
  unfold listFields
  split_ifs <;> simp_all

variable {fields : Yaml.Block} {key : String} {items : List String}

private theorem readField_list
    (found : (fields.filter fun field => String.ofList field.1 = key) = listFields key items) :
    readField fields key readStrings [] = some items := by
  rw [readField, found]
  cases items with
  | nil => rfl
  | cons item items =>
    simp [listFields, readStrings, Yaml.Scalar.text, Function.comp_def]

private theorem readField_absent {α : Type} {read : Yaml.Node → Option α} {default : α}
    (absent : (fields.filter fun field => String.ofList field.1 = key) = []) :
    readField fields key read default = some default := by
  rw [readField, absent]

private theorem filter_agentFields (agent : AgentConfig) (name : String) :
    ((agentFields agent).filter fun field => String.ofList field.1 = name) =
      (if "description" = name then
        [("description".toList, .scalar (.quoted agent.description.toList))] else []) ++
      ((if "allowed_models" = name then listFields "allowed_models" agent.allowedModels else []) ++
      (if "allowed_tools" = name then listFields "allowed_tools" agent.allowedTools else []) ++
      (if "blocked_tools" = name then listFields "blocked_tools" agent.blockedTools else []) ++
      if "offline" = name ∧ agent.offline = true then
        [("offline".toList, .scalar (.plain "true".toList))] else []) := by
  rw [agentFields, ← List.singleton_append, List.filter_append]
  congr 1
  · split_ifs <;> simp_all
  · simp only [List.filter_append, filter_listFields]
    congr 1
    cases agent.offline <;> split_ifs <;> simp_all

private theorem agentPolicy_ofNode (agent : AgentConfig) :
    AgentPolicy.ofNode (.mapping (agentFields agent)) = some agent.policy := by
  have description : readField (agentFields agent) "description" readString "" =
      some agent.description := by
    rw [readField, filter_agentFields]
    simp [readString, Yaml.Scalar.text]
  have models : readField (agentFields agent) "allowed_models" readStrings [] =
      some agent.allowedModels := readField_list (by rw [filter_agentFields]; simp)
  have tools : readField (agentFields agent) "allowed_tools" readStrings [] =
      some agent.allowedTools := readField_list (by rw [filter_agentFields]; simp)
  have blocked : readField (agentFields agent) "blocked_tools" readStrings [] =
      some agent.blockedTools := readField_list (by rw [filter_agentFields]; simp)
  have offline : readField (agentFields agent) "offline" readBool false = some agent.offline := by
    rw [readField, filter_agentFields]
    cases agent.offline <;> simp [readBool]
  have actions : readField (agentFields agent) "blocked_actions" readStrings [] = some [] :=
    readField_absent (by rw [filter_agentFields]; simp)
  have dataPolicy : readField (agentFields agent) "data_policy" (readOption readString) none =
      some none := readField_absent (by rw [filter_agentFields]; simp)
  have tokens : readField (agentFields agent) "max_tokens_per_session"
      (readOption (readUnsigned (2 ^ 64))) none = some none :=
    readField_absent (by rw [filter_agentFields]; simp)
  have requests : readField (agentFields agent) "max_requests_per_minute"
      (readOption (readUnsigned (2 ^ 32))) none = some none :=
    readField_absent (by rw [filter_agentFields]; simp)
  rw [AgentPolicy.ofNode, description, models, tools, blocked, actions, dataPolicy, tokens,
    requests, offline]
  rfl

private theorem ofBlock_document {settings : PolicySettings} {effect : DefaultEffect}
    (known : DefaultEffect.ofName settings.default = some effect) :
    ∃ config, PolicyConfig.ofBlock settings.document = some config ∧ config.default = effect ∧
      ∀ name, config.agents.lookup name = (settings.agents.lookup name).map AgentConfig.policy := by
  obtain ⟨agents, read, lookup⟩ := @AgentMap.lookup_ofNode AgentConfig settings.agents
    (fun agent => .mapping (agentFields agent)) AgentConfig.policy agentPolicy_ofNode
  refine ⟨⟨effect, agents⟩, ?_, rfl, lookup⟩
  have agentsRead : AgentMap.ofNode settings.agentsNode = some agents := read
  simp [PolicyConfig.ofBlock, PolicySettings.document, readField, readString, Yaml.Scalar.text,
    known, agentsRead]

private theorem ofBlock_document_unknown {settings : PolicySettings}
    (unknown : DefaultEffect.ofName settings.default = none) :
    PolicyConfig.ofBlock settings.document = none := by
  simp [PolicyConfig.ofBlock, PolicySettings.document, readField, readString, Yaml.Scalar.text,
    unknown]

private def listLines (key : String) (items : List String) : List Yaml.Line :=
  if items = [] then []
  else .opens 4 key.toList :: items.map fun item => .item 6 (.quoted item.toList)

private def agentLines (name : String) (agent : AgentConfig) : List Yaml.Line :=
  .opens 2 name.toList :: .field 4 "description".toList (.quoted agent.description.toList) ::
    (listLines "allowed_models" agent.allowedModels ++
      listLines "allowed_tools" agent.allowedTools ++
      listLines "blocked_tools" agent.blockedTools ++
      if agent.offline then [.field 4 "offline".toList (.plain "true".toList)] else [])

private theorem lines_listFields (key : String) (items : List String) :
    Yaml.Block.lines 4 (listFields key items) = listLines key items := by
  cases items with
  | nil => simp [listFields, listLines, Yaml.Block.lines]
  | cons item items =>
    simp [listFields, listLines, Yaml.Block.lines, Yaml.Node.lines, Function.comp_def]

private theorem lines_agentFields (name : String) (agent : AgentConfig) :
    Yaml.Node.lines 2 name.toList (.mapping (agentFields agent)) = agentLines name agent := by
  have offline : Yaml.Block.lines 4
      (if agent.offline then [("offline".toList, .scalar (.plain "true".toList))] else []) =
      if agent.offline then [.field 4 "offline".toList (.plain "true".toList)] else [] := by
    cases agent.offline <;> simp [Yaml.Block.lines, Yaml.Node.lines]
  have append : ∀ front back : Yaml.Block, Yaml.Block.lines 4 (front ++ back) =
      Yaml.Block.lines 4 front ++ Yaml.Block.lines 4 back := by
    simp [Yaml.Block.lines_eq_flatMap]
  rw [agentFields, Yaml.Node.lines, Yaml.Block.lines, append, append, append, offline,
    lines_listFields, lines_listFields, lines_listFields, Yaml.Node.lines]
  rfl

private theorem lines_document {settings : PolicySettings} (agents : settings.agents.entries ≠ []) :
    Yaml.Block.lines 0 settings.document =
      .field 0 "default".toList (.plain settings.default.toList) :: .opens 0 "agents".toList ::
        settings.agents.entries.flatMap fun agent => agentLines agent.1 agent.2 := by
  obtain ⟨first, rest, entries⟩ := List.exists_cons_of_ne_nil agents
  have inner : Yaml.Block.lines 2 (settings.agents.entries.map fun agent =>
      (agent.1.toList, .mapping (agentFields agent.2))) =
      settings.agents.entries.flatMap fun agent => agentLines agent.1 agent.2 := by
    rw [Yaml.Block.lines_eq_flatMap, List.flatMap_map]
    simp only [lines_agentFields]
  rw [entries] at inner
  rw [PolicySettings.document, PolicySettings.agentsNode, entries]
  simp only [Yaml.Block.lines, Yaml.Node.lines, List.map_cons, List.append_nil] at inner ⊢
  rw [inner]
  rfl

private theorem toList_listYaml (key : String) (items : List String) :
    (listYaml key items).toList = Yaml.printLines (listLines key items) := by
  unfold listYaml listLines
  split_ifs with empty
  · rfl
  · rw [Text.toList_foldl_append]
    simp [Yaml.printLines, List.flatMap_map, Yaml.Line.print, Yaml.Scalar.print,
      Yaml.pad, List.replicate]

private theorem toList_agentYaml (name : String) (agent : AgentConfig) :
    (agentYaml name agent).toList = Yaml.printLines (agentLines name agent) := by
  have offline : (if agent.offline then "    offline: true\n" else "").toList =
      Yaml.printLines
        (if agent.offline then [.field 4 "offline".toList (.plain "true".toList)] else []) := by
    cases agent.offline <;> rfl
  have nameLine : ("  " ++ name ++ ":\n").toList = Yaml.printLines [.opens 2 name.toList] := by
    rw [String.toList_append, String.toList_append]
    simp [Yaml.printLines, Yaml.Line.print, Yaml.pad, List.replicate]
  have descriptionLine : ("    description: \"" ++ agent.description ++ "\"\n").toList =
      Yaml.printLines [.field 4 "description".toList (.quoted agent.description.toList)] := by
    rw [String.toList_append, String.toList_append]
    simp [Yaml.printLines, Yaml.Line.print, Yaml.Scalar.print, Yaml.pad, List.replicate]
  rw [agentYaml, String.toList_append, String.toList_append, String.toList_append,
    String.toList_append, String.toList_append, nameLine, descriptionLine, toList_listYaml,
    toList_listYaml, toList_listYaml, offline]
  simp only [Yaml.printLines, agentLines, List.flatMap_cons, List.flatMap_append, List.flatMap_nil,
    List.append_nil, List.append_assoc]

theorem toList_buildPolicyYaml {settings : PolicySettings} (agents : settings.agents.entries ≠ []) :
    (buildPolicyYaml settings).toList = Yaml.render settings.document := by
  rw [buildPolicyYaml, if_neg agents, Text.toList_foldl_append, Yaml.render, lines_document agents]
  simp [toList_agentYaml, Yaml.printLines, List.flatMap_assoc, Yaml.Line.print,
    Yaml.Scalar.print, Yaml.pad]

private theorem safe_listLines (key_safe : Yaml.keySafe key.toList = true)
    (safe : ∀ item ∈ items, Yaml.quotedSafe item.toList = true) :
    ∀ line ∈ listLines key items, line.Safe := by
  intro line member
  unfold listLines at member
  split_ifs at member
  · cases member
  · rcases List.mem_cons.mp member with rfl | isItem
    · exact Yaml.Line.safe_of_indent 4 key_safe rfl (by decide) (by decide)
    · obtain ⟨item, isOne, rfl⟩ := List.mem_map.mp isItem
      exact Yaml.Line.safe_of_indent 6 (safe item isOne) rfl (by decide) (by decide)

private theorem safe_agentLines {name : String} {agent : AgentConfig}
    (name_safe : Yaml.keySafe name.toList = true) (quotable : agent.quotable = true) :
    ∀ line ∈ agentLines name agent, line.Safe := by
  simp only [AgentConfig.quotable, List.all_cons, List.all_append, Bool.and_eq_true,
    List.all_eq_true] at quotable
  obtain ⟨description, ⟨models, tools⟩, blocked⟩ := quotable
  intro line member
  simp only [agentLines, List.mem_cons, List.mem_append] at member
  rcases member with rfl | rfl | ((isModel | isTool) | isBlocked) | isOffline
  · exact Yaml.Line.safe_of_indent 2 name_safe rfl (by decide) (by decide)
  · exact Yaml.Line.safe_of_indent 4 ⟨by decide, description⟩ rfl (by decide) (by decide)
  · exact safe_listLines (by decide) models line isModel
  · exact safe_listLines (by decide) tools line isTool
  · exact safe_listLines (by decide) blocked line isBlocked
  · cases offline : agent.offline with
    | false => simp [offline] at isOffline
    | true =>
      obtain rfl := List.mem_singleton.mp (by simpa [offline] using isOffline)
      have truth : Yaml.plainSafe "true".toList = true := by decide
      exact Yaml.Line.safe_of_indent 4 ⟨by decide, truth⟩ rfl (by decide) (by decide)

private theorem safe_document {settings : PolicySettings} (plain : settings.plain = true)
    (agents : settings.agents.entries ≠ []) :
    ∀ line ∈ Yaml.Block.lines 0 settings.document, line.Safe := by
  simp only [PolicySettings.plain, Bool.and_eq_true, List.all_eq_true] at plain
  obtain ⟨default, each⟩ := plain
  have agents_safe : Yaml.keySafe "agents".toList = true := by decide
  rw [lines_document agents]
  intro line member
  rcases List.mem_cons.mp member with rfl | later
  · exact ⟨⟨by decide, default⟩, Nat.zero_le _, fun _ => by simp [Yaml.Line.print, Yaml.pad]⟩
  · rcases List.mem_cons.mp later with rfl | ofAgent
    · exact ⟨agents_safe, by decide, by decide⟩
    · obtain ⟨agent, isAgent, isLine⟩ := List.mem_flatMap.mp ofAgent
      exact safe_agentLines (each agent isAgent).1 (each agent isAgent).2 line isLine

section Running

variable {read : Yaml.Reader} {settings : PolicySettings}

private theorem parsePolicy_fixed {yaml : String} {block : Yaml.Block} {config : PolicyConfig}
    (lawful : Yaml.LawfulReader read) (text : yaml.toList = (Yaml.render block).dropLast)
    (root : block ≠ []) (safe : ∀ line ∈ Yaml.Block.lines 0 block, line.Safe)
    (parsed : PolicyConfig.ofBlock block = some config) (empty : config.agents = ∅) :
    parsePolicy read yaml = .ok config := by
  rw [parsePolicy_eq_ok_iff, text, (lawful block root safe).2]
  refine ⟨parsed, validatePolicy_ok_iff.mpr fun name policy found => ?_⟩
  rw [empty] at found
  cases found

private theorem safe_empty : (Yaml.Line.emptyMapping 0 "agents".toList).Safe :=
  ⟨(by decide : Yaml.keySafe "agents".toList = true), by decide, by decide⟩

private theorem parsePolicy_denyAll (lawful : Yaml.LawfulReader read) :
    parsePolicy read "agents: \x7b\x7d" = .ok denyAll := by
  refine parsePolicy_fixed lawful (?_ : _ = (Yaml.render [("agents".toList, .mapping [])]).dropLast)
    (by simp) ?_ rfl rfl
  · rfl
  · intro line member
    obtain rfl := List.mem_singleton.mp
      (show line ∈ [Yaml.Line.emptyMapping 0 "agents".toList] from member)
    exact safe_empty

private theorem validatePolicy_ok_iff_consistent {config : PolicyConfig}
    (lookup : ∀ name, config.agents.lookup name =
      (settings.agents.lookup name).map AgentConfig.policy) :
    validatePolicy config = .ok () ↔ settings.consistent = true := by
  simp only [validatePolicy_ok_iff, lookup, Option.map_eq_some_iff, PolicySettings.consistent,
    List.all_eq_true, Option.isNone_iff_eq_none]
  constructor
  · intro clear agent member
    exact clear agent.1 _ ⟨agent.2, AList.mem_lookup_iff.mpr member, rfl⟩
  · rintro clear name policy ⟨agent, found, rfl⟩
    exact clear ⟨name, agent⟩ (AList.mem_lookup_iff.mp found)

private theorem lookup_engine (settings : PolicySettings) (effect : DefaultEffect) (name : String) :
    (settings.engine effect).agents.lookup name =
      (settings.agents.lookup name).map AgentConfig.policy := by
  rw [PolicySettings.engine, AList.lookup_to_alist]
  exact @List.dlookup_map₂ _ _ (fun _ : String => AgentConfig) (fun _ : String => AgentPolicy)
    settings.agents.entries (fun _ => AgentConfig.policy) name

variable (lawful : Yaml.LawfulReader read)

include lawful

private theorem newPolicyEngine_fallback
    (failed : ∀ config, parsePolicy read (buildPolicyYaml settings) ≠ .ok config) :
    newPolicyEngine read settings = some denyAll := by
  unfold newPolicyEngine
  split
  · rename_i config parsed
    exact absurd parsed (failed config)
  · rw [parsePolicy_denyAll lawful]
    rfl

private theorem newPolicyEngine_inForce (plain : settings.plain = true)
    (agents : settings.agents.entries ≠ []) :
    ∃ running, newPolicyEngine read settings = some running ∧
      ∀ ctx, evaluate running ctx = evaluate settings.inForce ctx := by
  -- the text is read as the document, so only the fields' shapes and the validation decide
  have parsed : ∀ config, parsePolicy read (buildPolicyYaml settings) = .ok config ↔
      PolicyConfig.ofBlock settings.document = some config ∧ validatePolicy config = .ok () := by
    intro config
    rw [parsePolicy_eq_ok_iff, toList_buildPolicyYaml agents,
      (lawful settings.document (by simp [PolicySettings.document])
        (safe_document plain agents)).1, Option.bind_some]
  cases known : DefaultEffect.ofName settings.default with
  | none =>
    refine ⟨denyAll, newPolicyEngine_fallback lawful fun config ok => ?_,
      by simp [PolicySettings.inForce, known]⟩
    rw [parsed, ofBlock_document_unknown known] at ok
    cases ok.1
  | some effect =>
    obtain ⟨config, read, default, lookup⟩ := ofBlock_document known
    have valid := validatePolicy_ok_iff_consistent lookup
    by_cases consistent : settings.consistent = true
    · refine ⟨config, ?_, fun ctx => ?_⟩
      · rw [newPolicyEngine, (parsed config).mpr ⟨read, valid.mpr consistent⟩]
      · simp only [PolicySettings.inForce, known, consistent, ↓reduceIte]
        apply evaluate_congr default
        intro name
        rw [lookup, lookup_engine]
    · refine ⟨denyAll, newPolicyEngine_fallback lawful fun other ok => ?_,
        by simp [PolicySettings.inForce, known, consistent]⟩
      rw [parsed, read, Option.some.injEq] at ok
      obtain ⟨rfl, ok⟩ := ok
      exact consistent (valid.mp ok)

omit lawful

private theorem inForce_deny (deny : settings.default = "deny") {ctx : RequestContext}
    (unknown : settings.agents.lookup ctx.agentName = none) :
    (evaluate settings.inForce ctx).effect = .deny := by
  have known : DefaultEffect.ofName settings.default = some .deny := by rw [deny]; rfl
  by_cases consistent : settings.consistent = true
  · simp only [PolicySettings.inForce, known, consistent, ↓reduceIte, evaluate,
      lookup_engine, unknown, Option.map_none]
    rfl
  · simp only [PolicySettings.inForce, known, consistent]
    rfl

/-- A gateway with agents whose settings are plain runs the policy in force: the configured
one, or the empty one if that is not valid. -/
theorem newPolicyEngine_evaluate (lawful : Yaml.LawfulReader read)
    (plain : settings.plain = true) (agents : settings.agents.entries ≠ []) :
    ∃ running, newPolicyEngine read settings = some running ∧
      (∀ ctx, evaluate running ctx = evaluate settings.inForce ctx) ∧
      (settings.default = "deny" → ∀ ctx, settings.agents.lookup ctx.agentName = none →
        (evaluate running ctx).effect = .deny) := by
  obtain ⟨running, started, decides⟩ := newPolicyEngine_inForce lawful plain agents
  refine ⟨running, started, decides, ?_⟩
  intro deny ctx unknown
  rw [decides]
  exact inForce_deny deny unknown

end Running

namespace PolicySample

def supportBot : AgentConfig := ⟨"Customer support", ["claude-*"], ["web_search"], ["shell"], false⟩

def settings : PolicySettings := ⟨"deny", [⟨"support-bot", supportBot⟩].toAList⟩

def conflicting : PolicySettings :=
  ⟨"allow", [⟨"support-bot", { supportBot with blockedTools := ["web_search"] }⟩].toAList⟩

def request (agent : String) : RequestContext := ⟨agent, "claude-sonnet", "anthropic", ["shell"]⟩

end PolicySample

theorem supportBot_policy :
    ∃ running, newPolicyEngine Yaml.readBlock PolicySample.settings = some running ∧
      (∀ ctx, evaluate running ctx = evaluate (PolicySample.settings.engine .deny) ctx) ∧
      (evaluate running (PolicySample.request "stranger")).effect = .deny := by
  obtain ⟨running, started, decides, denies⟩ :=
    @newPolicyEngine_evaluate Yaml.readBlock PolicySample.settings Yaml.readBlock_lawful (by decide)
      (by decide)
  exact ⟨running, started, decides, denies rfl _ rfl⟩

/-- Tools that are both allowed and blocked make the whole policy invalid, and the empty one takes
its place. -/
theorem conflicting_tool_denied :
    ∃ running, newPolicyEngine Yaml.readBlock PolicySample.conflicting = some running ∧
      (evaluate running (PolicySample.request "stranger")).effect = .deny ∧
      (evaluate (PolicySample.conflicting.engine .allow)
        (PolicySample.request "stranger")).effect = .allow := by
  obtain ⟨running, started, decides⟩ := @newPolicyEngine_inForce Yaml.readBlock
    PolicySample.conflicting Yaml.readBlock_lawful (by decide) (by decide)
  refine ⟨running, started, ?_, rfl⟩
  rw [decides]
  decide

end QuantaWatch.Gateway
