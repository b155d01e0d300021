import QuantaWatch.Lib.Json.Text

/-!
Provider adapters and their registry (`qw-gateway/src/providers`).
-/

namespace QuantaWatch.Gateway

open Lib.Encoding Lib.Json

inductive Body where
  | text (content : List Char)
  | binary (bytes : Bytes)

def Body.size : Body → Nat
  | .text content => (utf8Chars content).length
  | .binary bytes => bytes.length

/-- `serde_json::from_slice::<Value>`. -/
def Body.json (floats : FloatText) : Body → Option Value
  | .text content => (parseDocument floats content).map Value.collapse
  | .binary _ => none

structure NormalizedMessage where
  role : String
  content : String

structure NormalizedRequest where
  model : String
  systemPrompt : Option String
  messages : List NormalizedMessage
  tools : List String
  maxTokens : Option UInt32
  stream : Bool

inductive Adapter where
  | anthropic
  | openAi
  | ollama
  | azureOpenAi
  | cohere
deriving DecidableEq

section

variable (json : Value)

def stringMember (name : String) : Option String := (json.get name).bind Value.asStr

def arrayMember (name : String) : Option (List Value) := (json.get name).bind Value.asArray

def maxTokensOf : Option UInt32 := ((json.get "max_tokens").bind Value.asU64).map UInt64.toUInt32

def streamOf (fallback : Bool) : Bool := ((json.get "stream").bind Value.asBool).getD fallback

/-- The name of one tool definition: a member of the definition itself, or of
its `function` member. -/
def toolName (nested : Bool) (tool : Value) : Option String :=
  if nested then (tool.get "function").bind (stringMember · "name") else stringMember tool "name"

def toolsOf (nested : Bool) : List String :=
  ((arrayMember json "tools").getD []).filterMap (toolName nested)

end

namespace Anthropic

def blockText (block : Value) : Option String :=
  if stringMember block "type" = some "text" then stringMember block "text" else none

def message (json : Value) : Option NormalizedMessage := do
  let role ← stringMember json "role"
  let content ←
    match stringMember json "content" with
    | some text => some text
    | none => (arrayMember json "content").map fun blocks =>
      "\n".intercalate (blocks.filterMap blockText)
  some ⟨role, content⟩

def parseRequest (json : Value) : Option NormalizedRequest := do
  let model ← stringMember json "model"
  some
    { model
      systemPrompt := stringMember json "system"
      messages := ((arrayMember json "messages").getD []).filterMap message
      tools := toolsOf json false
      maxTokens := maxTokensOf json
      stream := streamOf json false }

end Anthropic

namespace OpenAi

def message (json : Value) : NormalizedMessage :=
  ⟨(stringMember json "role").getD "user", (stringMember json "content").getD ""⟩

def parseRequest (json : Value) : Option NormalizedRequest := do
  let model ← stringMember json "model"
  let messages := ((arrayMember json "messages").getD []).map message
  some
    { model
      systemPrompt :=
        ((messages.filter fun message => message.role = "system").getLast?).map
          NormalizedMessage.content
      messages
      tools := toolsOf json true
      maxTokens := maxTokensOf json
      stream := streamOf json false }

end OpenAi

namespace Ollama

def message (json : Value) : Option NormalizedMessage := do
  some ⟨← stringMember json "role", ← stringMember json "content"⟩

def parseRequest (json : Value) : Option NormalizedRequest := do
  let model ← stringMember json "model"
  some
    { model
      systemPrompt := stringMember json "system"
      messages := ((arrayMember json "messages").getD []).filterMap message
      tools := toolsOf json true
      maxTokens := none
      stream := streamOf json true }

end Ollama

namespace Cohere

def turn (json : Value) : NormalizedMessage :=
  let role :=
    match stringMember json "role" with
    | some "CHATBOT" => "assistant"
    | some "SYSTEM" => "system"
    | _ => "user"
  ⟨role, (stringMember json "message").getD ""⟩

def parseRequest (json : Value) : Option NormalizedRequest := do
  let model ← stringMember json "model"
  some
    { model
      systemPrompt := stringMember json "preamble"
      messages := ((arrayMember json "chat_history").getD []).map turn ++
        ((stringMember json "message").map (NormalizedMessage.mk "user")).toList
      tools := toolsOf json false
      maxTokens := maxTokensOf json
      stream := streamOf json false }

end Cohere

namespace Adapter

variable (floats : FloatText)

def parseRequest (adapter : Adapter) (body : Body) : Option NormalizedRequest :=
  (body.json floats).bind
    (match adapter with
    | anthropic => Anthropic.parseRequest
    | openAi => OpenAi.parseRequest
    | ollama => Ollama.parseRequest
    | azureOpenAi => OpenAi.parseRequest
    | cohere => Cohere.parseRequest)

def nestsTools : Adapter → Bool
  | anthropic => false
  | openAi => true
  | ollama => true
  | azureOpenAi => true
  | cohere => false

def definedTools (adapter : Adapter) (body : Body) : List String :=
  ((body.json floats).map (toolsOf · adapter.nestsTools)).getD []

def namesModel (body : Body) : Bool :=
  ((body.json floats).bind (stringMember · "model")).isSome

variable {floats}

theorem parseRequest_isSome (adapter : Adapter) (body : Body) :
    (adapter.parseRequest floats body).isSome = namesModel floats body := by
  cases json : body.json floats with
  | none => simp [parseRequest, namesModel, json]
  | some value =>
    cases adapter <;> cases model : stringMember value "model" <;>
      simp [parseRequest, namesModel, json, model, Anthropic.parseRequest, OpenAi.parseRequest,
        Ollama.parseRequest, Cohere.parseRequest]

theorem tools_of_parseRequest {adapter : Adapter} {body : Body} {request : NormalizedRequest}
    (parsed : adapter.parseRequest floats body = some request) :
    request.tools = adapter.definedTools floats body := by
  obtain ⟨json, isJson, parsed⟩ := Option.bind_eq_some_iff.mp parsed
  rw [definedTools, isJson]
  cases adapter <;>
    · obtain ⟨model, -, parsed⟩ := Option.bind_eq_some_iff.mp parsed
      obtain rfl := Option.some.inj parsed
      rfl

end Adapter

abbrev ProviderRegistry := AList fun _ : String => Adapter

def Adapter.ofProtocol (protocol : String) : Option Adapter :=
  match protocol with
  | "anthropic" => some .anthropic
  | "openai" => some .openAi
  | "ollama" => some .ollama
  | "openai-compat" => some .openAi
  | "azure-openai" => some .azureOpenAi
  | "azure" => some .azureOpenAi
  | "cohere" => some .cohere
  | _ => none

def buildRegistry (providers : List (String × String)) : ProviderRegistry :=
  providers.foldl (fun registry provider =>
    match Adapter.ofProtocol provider.2 with
    | some adapter => registry.insert provider.1 adapter
    | none => registry) ∅

namespace ProviderRegistry

variable (registry : ProviderRegistry)

def find (names : List String) : Option (String × Adapter) :=
  names.findSome? fun name => (registry.lookup name).map fun adapter => (name, adapter)

def firstSegment (path : String) : String :=
  String.ofList ((path.toList.dropWhile (· = '/')).takeWhile (· ≠ '/'))

def startsWithAny (fronts : List String) (path : String) : Bool :=
  fronts.any fun front => front.toList.isPrefixOf path.toList

/-- Azure goes before plain OpenAI, and `/v1/chat/completions` before `/v1/chat`;
a route whose provider is missing falls through. -/
def resolveFromPath (path : String) : Option (String × Adapter) :=
  let route (fronts names : List String) : Option (String × Adapter) :=
    if startsWithAny fronts path then find registry names else none
  route ["/v1/messages", "/claude"] ["anthropic"]
    <|> route ["/openai/deployments", "/azure"] ["azure-openai", "azure"]
    <|> route ["/v1/chat/completions", "/openai"] ["openai"]
    <|> route ["/v1/chat", "/cohere"] ["cohere"]
    <|> route ["/api/chat", "/api/generate", "/ollama"] ["ollama"]
    <|> find registry [firstSegment path]

end ProviderRegistry

end QuantaWatch.Gateway
