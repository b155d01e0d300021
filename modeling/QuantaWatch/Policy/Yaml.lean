import QuantaWatch.Lib.Yaml
import QuantaWatch.Policy.Engine

/-!
Policies from YAML text (`parse_policy` in
`qw-policy/src/yaml_parser.rs`, and the `Deserialize` implementations that
`types.rs` derives).
-/

namespace QuantaWatch.Policy

open Lib (Yaml.Scalar Yaml.Node Yaml.Block Yaml.Reader)

inductive PolicyError where
  | invalidPolicy (message : String)
  | yamlParse
deriving DecidableEq

def readString : Yaml.Node → Option String
  | .scalar value => some (String.ofList value.text)
  | _ => none

def readStrings : Yaml.Node → Option (List String)
  | .sequence items => some (items.map fun item => String.ofList item.text)
  | _ => none

def readBool : Yaml.Node → Option Bool
  | .scalar (.plain text) =>
    match String.ofList text with
    | "true" | "True" | "TRUE" => some true
    | "false" | "False" | "FALSE" => some false
    | _ => none
  | _ => none

def isNull : Yaml.Node → Bool
  | .scalar (.plain text) => String.ofList text ∈ ["", "~", "null", "Null", "NULL"]
  | _ => false

def readOption {α : Type} (read : Yaml.Node → Option α) (node : Yaml.Node) : Option (Option α) :=
  if isNull node then some none else (read node).map some

def digitValue (char : Char) : Nat :=
  if char.isDigit then char.toNat - 48
  else if 'a' ≤ char ∧ char ≤ 'z' then char.toNat - 87
  else if 'A' ≤ char ∧ char ≤ 'Z' then char.toNat - 55
  else 36

def readDigits (radix bound : Nat) (digits : List Char) : Option Nat :=
  let value := Nat.ofDigits radix (digits.reverse.map digitValue)
  if digits ≠ [] ∧ (∀ char ∈ digits, digitValue char < radix) ∧ value < bound then some value
  else none

def readUnsigned (bound : Nat) : Yaml.Node → Option Nat
  | .scalar (.plain text) =>
    match if text.head? = some '+' then text.tail else text with
    | '0' :: 'x' :: digits => readDigits 16 bound digits
    | '0' :: 'o' :: digits => readDigits 8 bound digits
    | '0' :: 'b' :: digits => readDigits 2 bound digits
    -- YAML 1.2: digits after a leading zero are a string
    | '0' :: _ :: _ => none
    | digits => readDigits 10 bound digits
  | _ => none

def readField {α : Type} (fields : Yaml.Block) (name : String) (read : Yaml.Node → Option α)
    (default : α) : Option α :=
  match fields.filter fun field => String.ofList field.1 = name with
  | [] => some default
  | [field] => read field.2
  | _ => none

def DefaultEffect.ofName : String → Option DefaultEffect
  | "allow" => some .allow
  | "deny" => some .deny
  | _ => none

def AgentPolicy.ofNode : Yaml.Node → Option AgentPolicy
  | .mapping fields => do
    let description ← readField fields "description" readString ""
    let allowedModels ← readField fields "allowed_models" readStrings []
    let allowedTools ← readField fields "allowed_tools" readStrings []
    let blockedTools ← readField fields "blocked_tools" readStrings []
    -- the engine reads none of the next four, but a wrong shape is an error
    let _ ← readField fields "blocked_actions" readStrings []
    let _ ← readField fields "data_policy" (readOption readString) none
    let _ ← readField fields "max_tokens_per_session" (readOption (readUnsigned (2 ^ 64))) none
    let _ ← readField fields "max_requests_per_minute" (readOption (readUnsigned (2 ^ 32))) none
    let offline ← readField fields "offline" readBool false
    pure ⟨description, allowedModels, allowedTools, blockedTools, offline⟩
  | .sequence [] => some ⟨"", [], [], [], false⟩
  | .sequence [description] => some ⟨String.ofList description.text, [], [], [], false⟩
  | _ => none

def AgentMap.ofNode : Yaml.Node → Option AgentMap
  | .mapping fields => do
    let agents ← fields.mapM fun field =>
      (AgentPolicy.ofNode field.2).map fun policy =>
        (⟨String.ofList field.1, policy⟩ : (_ : String) × AgentPolicy)
    pure agents.reverse.toAList
  | _ => none

def PolicyConfig.ofBlock (fields : Yaml.Block) : Option PolicyConfig := do
  let _ ← readField fields "version" readString "1"
  let default ← readField fields "default" (fun node => (readString node).bind DefaultEffect.ofName)
    .deny
  let agents ← readField fields "agents" AgentMap.ofNode ∅
  pure ⟨default, agents⟩

def parsePolicy (read : Yaml.Reader) (yaml : String) : Except PolicyError PolicyConfig :=
  match (read yaml.toList).bind PolicyConfig.ofBlock with
  | none => .error .yamlParse
  | some config =>
    match validatePolicy config with
    | .error message => .error (.invalidPolicy message)
    | .ok () => .ok config

theorem parsePolicy_eq_ok_iff {read : Yaml.Reader} {yaml : String} {config : PolicyConfig} :
    parsePolicy read yaml = .ok config ↔
      (read yaml.toList).bind PolicyConfig.ofBlock = some config ∧
        validatePolicy config = .ok () := by
  unfold parsePolicy
  cases (read yaml.toList).bind PolicyConfig.ofBlock with
  | none => simp
  | some parsed =>
    by_cases same : parsed = config
    · subst same
      cases valid : validatePolicy parsed <;> simp [valid]
    · cases valid : validatePolicy parsed <;> simp [valid, same]

theorem AgentMap.lookup_ofNode {α : Type} {agents : AList fun _ : String => α}
    {node : α → Yaml.Node} {policy : α → AgentPolicy}
    (reads : ∀ agent, AgentPolicy.ofNode (node agent) = some (policy agent)) :
    ∃ map, AgentMap.ofNode
        (.mapping (agents.entries.map fun agent => (agent.1.toList, node agent.2))) = some map ∧
      ∀ name, map.lookup name = (agents.lookup name).map policy := by
  have read : (agents.entries.map fun agent => (agent.1.toList, node agent.2)).mapM
      (fun field => (AgentPolicy.ofNode field.2).map fun policy =>
        (⟨String.ofList field.1, policy⟩ : (_ : String) × AgentPolicy)) =
      some (agents.entries.map fun agent => ⟨agent.1, policy agent.2⟩) := by
    induction agents.entries with
    | nil => rfl
    | cons agent rest ih => simp [reads, ih]
  have distinct : (agents.entries.map fun agent =>
      (⟨agent.1, policy agent.2⟩ : (_ : String) × AgentPolicy)).NodupKeys := by
    rw [List.NodupKeys, List.keys, List.map_map]
    exact agents.nodupKeys
  refine ⟨_, by rw [AgentMap.ofNode, read]; rfl, ?_⟩
  intro name
  rw [AList.lookup_to_alist, ← List.perm_dlookup name distinct (List.reverse_perm _).symm]
  exact @List.dlookup_map₂ _ _ (fun _ : String => α) (fun _ : String => AgentPolicy)
    agents.entries (fun _ => policy) name

end QuantaWatch.Policy
