import QuantaWatch.Audit.Entry
import QuantaWatch.Gateway.Proxy
import QuantaWatch.Lib.Utf8
import QuantaWatch.Monitor.SecurityMonitor

/-!
What becomes of an upstream response (`proxy_handler` after sending in
`qw-gateway/src/router.rs`, and `proxy_stream.rs`).
-/

namespace QuantaWatch.Gateway

open Audit Crypto Lib Lib.Encoding Lib.Json Monitor

def Body.ofBytes (bytes : Bytes) : Body :=
  match Utf8.fromUtf8 bytes with
  | some content => .text content
  | none => .binary bytes

def joinedTexts (texts : List String) : Option String :=
  if texts.isEmpty then none else some ("\n".intercalate texts)

namespace Anthropic

def responseText (json : Value) : Option String := do
  joinedTexts ((← arrayMember json "content").filterMap blockText)

def toolUse (block : Value) : Option String :=
  if stringMember block "type" = some "tool_use" then stringMember block "name" else none

def toolCalls (json : Value) : List String :=
  ((arrayMember json "content").getD []).filterMap toolUse

end Anthropic

namespace OpenAi

def responseText (json : Value) : Option String := do
  joinedTexts ((← arrayMember json "choices").filterMap fun choice =>
    (choice.get "message").bind (stringMember · "content"))

def toolCalls (json : Value) : List String :=
  let calls := ((arrayMember json "choices").getD []).filterMap fun choice =>
    (choice.get "message").bind (arrayMember · "tool_calls")
  calls.flatten.filterMap (toolName true)

end OpenAi

namespace Ollama

def responseText (json : Value) : Option String :=
  (json.get "message").bind (stringMember · "content")

def toolCalls (json : Value) : List String :=
  (((json.get "message").bind (arrayMember · "tool_calls")).getD []).filterMap (toolName true)

end Ollama

namespace Cohere

def responseText (json : Value) : Option String := stringMember json "text"

def toolCalls (json : Value) : List String :=
  ((arrayMember json "tool_calls").getD []).filterMap (toolName false)

end Cohere

namespace Adapter

variable (floats : FloatText) (adapter : Adapter) (body : Bytes)

def extractResponseText : Option String :=
  ((Body.ofBytes body).json floats).bind
    (match adapter with
    | anthropic => Anthropic.responseText
    | openAi => OpenAi.responseText
    | ollama => Ollama.responseText
    | azureOpenAi => OpenAi.responseText
    | cohere => Cohere.responseText)

def extractToolCalls : List String :=
  (((Body.ofBytes body).json floats).map
    (match adapter with
    | anthropic => Anthropic.toolCalls
    | openAi => OpenAi.toolCalls
    | ollama => Ollama.toolCalls
    | azureOpenAi => OpenAi.toolCalls
    | cohere => Cohere.toolCalls)).getD []

end Adapter

structure MonitorConfig where
  scanResponses : Bool
  streamResponses : Bool

structure PolicyResult where
  decisionReason : String
  toolsAllowed : List String
  toolsDenied : List String

structure Exchange where
  provider : String
  adapter : Adapter
  model : String
  promptHash : String
  toolsRequested : List String
  policyResult : Option PolicyResult
  latencyMs : UInt64

structure UpstreamResponse where
  status : Nat
  chunks : List Bytes
  fails : Bool

namespace UpstreamResponse

def body (response : UpstreamResponse) : Bytes := response.chunks.flatten

def isSuccess (response : UpstreamResponse) : Bool :=
  decide (200 ≤ response.status ∧ response.status < 300)

end UpstreamResponse

inductive ClientResponse where
  | upstreamError
  | body (bytes : Bytes) (brokenOff : Bool)

structure Handled where
  client : ClientResponse
  event : Option AuditEvent
  received : Bytes

structure StreamState where
  acc : Bytes
  cut : Bool
  sent : List Bytes
  received : Bytes

def StreamState.start : StreamState := ⟨[], false, [], []⟩

section Paths

variable (platform : Platform) (monitor : SecurityMonitor) (config : MonitorConfig)
  (exchange : Exchange) (response : UpstreamResponse)

def shouldCut (accumulated : String) : Bool := (monitor.scanResponse accumulated).shouldBlock

def streamLoop (state : StreamState) : List Bytes → StreamState
  | [] => state
  | bytes :: rest =>
    if config.scanResponses then
      let acc := state.acc ++ bytes
      if shouldCut monitor (Utf8.fromUtf8Lossy acc) then
        { state with acc, cut := true, received := state.received ++ bytes }
      else
        streamLoop
          { state with acc, sent := state.sent ++ [bytes], received := state.received ++ bytes }
          rest
    else
      streamLoop
        { state with sent := state.sent ++ [bytes], received := state.received ++ bytes } rest

def Exchange.policyDecision : String :=
  (exchange.policyResult.map PolicyResult.decisionReason).getD "allowed"

def streamResponse : Handled :=
  let final := streamLoop monitor config .start response.chunks
  let decision :=
    if final.cut then exchange.policyDecision ++ "; response cut off (threat detected)"
    else exchange.policyDecision
  { client := .body final.sent.flatten final.cut
    event := some (.requestProcessed exchange.provider exchange.model exchange.promptHash
      (sha3_256Hex platform final.acc) decision exchange.toolsRequested [] []
      (if final.cut then 1 else 0) exchange.latencyMs)
    received := final.received }

def threatsDetected (body : Bytes) : UInt32 :=
  if config.scanResponses then
    match exchange.adapter.extractResponseText platform.floats body with
    | some text => UInt32.ofNat (monitor.scanResponse text).threats.length
    | none => 0
  else 0

def toolsDecided (body : Bytes) : List String × List String :=
  match exchange.policyResult with
  | some result => (result.toolsAllowed, result.toolsDenied)
  | none => (exchange.adapter.extractToolCalls platform.floats body, [])

def bufferResponse : Handled :=
  if response.fails then ⟨.upstreamError, none, response.body⟩
  else
    let body := response.body
    let tools := toolsDecided platform exchange body
    { client := .body body false
      event := some (.requestProcessed exchange.provider exchange.model exchange.promptHash
        (sha3_256Hex platform body) exchange.policyDecision exchange.toolsRequested tools.1 tools.2
        (threatsDetected platform monitor config exchange body) exchange.latencyMs)
      received := body }

def streams : Bool := config.streamResponses && response.isSuccess

def handleResponse : Handled :=
  if streams config response then streamResponse platform monitor config exchange response
  else bufferResponse platform monitor config exchange response

end Paths

section Loop

variable {monitor : SecurityMonitor} {config : MonitorConfig}

theorem streamLoop_unscanned (off : config.scanResponses = false) (state : StreamState)
    (chunks : List Bytes) : streamLoop monitor config state chunks =
      { state with
        sent := state.sent ++ chunks
        received := state.received ++ chunks.flatten } := by
  induction chunks generalizing state with
  | nil => simp [streamLoop]
  | cons bytes rest ih =>
    simp [streamLoop, off, ih]

variable {state : StreamState} {acc bytes : Bytes} {rest front : List Bytes}

theorem streamLoop_acc (on : config.scanResponses = true) (same : state.acc = state.received)
    (chunks : List Bytes) : (streamLoop monitor config state chunks).acc =
      (streamLoop monitor config state chunks).received := by
  induction chunks generalizing state with
  | nil => exact same
  | cons bytes rest ih =>
    rw [streamLoop, if_pos on]
    dsimp only
    split_ifs with cuts
    · exact congrArg (· ++ bytes) same
    · exact ih (congrArg (· ++ bytes) same)

def CutAt (monitor : SecurityMonitor) (acc : Bytes) (front : List Bytes) : Prop :=
  shouldCut monitor (Utf8.fromUtf8Lossy (acc ++ front.flatten)) = true

structure Sends (monitor : SecurityMonitor) (acc : Bytes) (chunks front : List Bytes)
    (cut : Bool) : Prop where
  isFront : front <+: chunks
  passes : ∀ earlier, earlier ≠ [] → earlier <+: front → ¬ CutAt monitor acc earlier
  complete : cut = false → front = chunks
  withheld : cut = true →
    ∃ chunk, front ++ [chunk] <+: chunks ∧ CutAt monitor acc (front ++ [chunk])

theorem Sends.nil : Sends monitor acc [] [] false where
  isFront := List.prefix_rfl
  passes := fun _ notNil isFront => absurd (List.prefix_nil.mp isFront) notNil
  complete := fun _ => rfl
  withheld := fun cut => by cases cut

theorem Sends.stop (cuts : CutAt monitor acc [bytes]) :
    Sends monitor acc (bytes :: rest) [] true where
  isFront := List.nil_prefix
  passes := fun _ notNil isFront => absurd (List.prefix_nil.mp isFront) notNil
  complete := fun cut => by cases cut
  withheld := fun _ => ⟨bytes, List.prefix_append [bytes] rest, cuts⟩

theorem cutAt_cons : CutAt monitor acc (bytes :: front) ↔ CutAt monitor (acc ++ bytes) front := by
  rw [CutAt, CutAt, List.flatten_cons, List.append_assoc]

theorem Sends.cons {cut : Bool} (passes : ¬ CutAt monitor acc [bytes])
    (sends : Sends monitor (acc ++ bytes) rest front cut) :
    Sends monitor acc (bytes :: rest) (bytes :: front) cut where
  isFront := List.cons_prefix_cons.mpr ⟨rfl, sends.isFront⟩
  passes := by
    intro earlier notNil isFront
    cases earlier with
    | nil => exact absurd rfl notNil
    | cons first later =>
      obtain ⟨rfl, laterFront⟩ := List.cons_prefix_cons.mp isFront
      by_cases last : later = []
      · rw [last]
        exact passes
      · rw [cutAt_cons]
        exact sends.passes later last laterFront
  complete := fun clean => congrArg (bytes :: ·) (sends.complete clean)
  withheld := by
    intro cuts
    obtain ⟨chunk, isFront, cutsAt⟩ := sends.withheld cuts
    exact ⟨chunk, List.cons_prefix_cons.mpr ⟨rfl, isFront⟩, cutAt_cons.mpr cutsAt⟩

theorem streamLoop_sends (on : config.scanResponses = true) (clean : state.cut = false)
    (chunks : List Bytes) :
    ∃ front, (streamLoop monitor config state chunks).sent = state.sent ++ front ∧
      Sends monitor state.acc chunks front (streamLoop monitor config state chunks).cut := by
  induction chunks generalizing state with
  | nil =>
    refine ⟨[], (List.append_nil _).symm, ?_⟩
    rw [streamLoop, clean]
    exact Sends.nil
  | cons bytes rest ih =>
    have text : (state.acc ++ [bytes].flatten) = state.acc ++ bytes := by simp
    rw [streamLoop, if_pos on]
    dsimp only
    split_ifs with cuts
    · refine ⟨[], (List.append_nil _).symm, Sends.stop ?_⟩
      rw [CutAt, text]
      exact cuts
    · obtain ⟨front, sent, sends⟩ := @ih
        ⟨state.acc ++ bytes, state.cut, state.sent ++ [bytes], state.received ++ bytes⟩ clean
      refine ⟨bytes :: front, ?_, Sends.cons ?_ sends⟩
      · rw [sent, List.append_assoc, List.singleton_append]
      · rw [CutAt, text]
        exact cuts

end Loop

def Handled.DeliversAll (handled : Handled) (response : UpstreamResponse) : Prop :=
  response.fails = false ∧ ∃ brokenOff, handled.client = .body response.body brokenOff

theorem Sends.flatten_eq_iff {monitor : SecurityMonitor} {chunks front : List Bytes} {cut : Bool}
    (sends : Sends monitor [] chunks front cut) : front.flatten = chunks.flatten ↔
      chunks.flatten = [] ∨ ∀ earlier, earlier ≠ [] → earlier <+: chunks →
        ¬ CutAt monitor [] earlier := by
  cases cut with
  | false =>
    have all := sends.complete rfl
    subst all
    exact iff_of_true rfl (Or.inr sends.passes)
  | true =>
    obtain ⟨chunk, isFront, cutsAt⟩ := sends.withheld rfl
    constructor
    · intro equal
      left
      obtain ⟨rest, split⟩ := isFront
      have nothing : chunk = [] ∧ rest.flatten = [] := by
        rw [← split, List.append_assoc, List.flatten_append] at equal
        simpa using equal
      by_cases first : front = []
      · rw [← split, first]
        simp [nothing]
      · -- the withheld chunk is empty, so the text was blocked before it
        have before : CutAt monitor [] front := by
          simpa [CutAt, nothing.1] using cutsAt
        exact absurd before (sends.passes front first List.prefix_rfl)
    · rintro (empty | passes)
      · obtain ⟨rest, split⟩ := sends.isFront
        rw [empty]
        rw [← split, List.flatten_append] at empty
        exact (List.append_eq_nil_iff.mp empty).1
      · exact absurd cutsAt (passes _ (by simp) isFront)

section Responses

variable {platform : Platform} {monitor : SecurityMonitor} {config : MonitorConfig}
  {exchange : Exchange} {response : UpstreamResponse}

theorem deliversAll_iff (scans : config.scanResponses = true) :
    (handleResponse platform monitor config exchange response).DeliversAll response ↔
      response.fails = false ∧ (streams config response = true →
        response.body = [] ∨ ∀ front, front ≠ [] → front <+: response.chunks →
          ¬ CutAt monitor [] front) := by
  rw [Handled.DeliversAll, handleResponse]
  by_cases streamed : streams config response = true
  · obtain ⟨front, sent, sends⟩ := @streamLoop_sends monitor config .start scans rfl response.chunks
    rw [if_pos streamed]
    simp only [streamResponse, sent, ClientResponse.body.injEq, exists_and_left, exists_eq',
      and_true, streamed, forall_const]
    exact and_congr_right fun _ => sends.flatten_eq_iff
  · rw [if_neg streamed, bufferResponse]
    cases fails : response.fails with
    | true => simp
    | false => simp [streamed]

def Blocked (platform : Platform) (monitor : SecurityMonitor) (exchange : Exchange)
    (response : UpstreamResponse) : Prop :=
  (monitor.scanResponse (Utf8.fromUtf8Lossy response.body)).shouldBlock = true ∨
    ∃ text ∈ exchange.adapter.extractResponseText platform.floats response.body,
      (monitor.scanResponse text).shouldBlock = true

/-- A blocked response is kept from the client exactly when it does not arrive,
or it is streamed, has a byte and its raw text up to some chunk is blocked (as it
is when the raw text of the whole body is). -/
theorem blocked_not_delivered_iff (scans : config.scanResponses = true) :
    (Blocked platform monitor exchange response →
        ¬ (handleResponse platform monitor config exchange response).DeliversAll response) ↔
      (Blocked platform monitor exchange response →
        response.fails = true ∨
          (streams config response = true ∧ response.body ≠ [] ∧
            ∃ front, front ≠ [] ∧ front <+: response.chunks ∧ CutAt monitor [] front)) := by
  apply imp_congr_right
  intro _
  rw [deliversAll_iff scans]
  cases response.fails with
  | true => simp
  | false =>
    push Not
    simp

def Handled.responseHash (handled : Handled) : Option String :=
  match handled.event with
  | some (.requestProcessed _ _ _ responseHash _ _ _ _ _ _) => some responseHash
  | _ => none

/-- The event has the hash of what was received unless a body is streamed
without scanning: then it has the hash of nothing. -/
theorem responseHash_eq_received_iff
    (distinct : sha3_256Hex platform response.body = sha3_256Hex platform [] → response.body = []) :
    (∀ hash ∈ (handleResponse platform monitor config exchange response).responseHash,
        hash = sha3_256Hex platform
          (handleResponse platform monitor config exchange response).received) ↔
      streams config response = false ∨ config.scanResponses = true ∨ response.body = [] := by
  rw [handleResponse]
  by_cases streamed : streams config response = true
  · rw [if_pos streamed]
    simp only [Handled.responseHash, streamResponse, Option.mem_some_iff, forall_eq', streamed]
    cases scans : config.scanResponses with
    | true =>
      simp [streamLoop_acc scans (show StreamState.start.acc = StreamState.start.received from rfl)]
    | false =>
      have all : StreamState.start.received ++ response.chunks.flatten = response.body := rfl
      simp only [streamLoop_unscanned scans, all]
      constructor
      · intro equal
        exact Or.inr (Or.inr (distinct equal.symm))
      · intro condition
        have empty : response.body = [] := by simpa using condition
        rw [empty]
        rfl
  · rw [if_neg streamed, bufferResponse]
    have buffered : streams config response = false := by simpa using streamed
    refine iff_of_true ?_ (Or.inl buffered)
    cases response.fails with
    | true => simp [Handled.responseHash]
    | false => simp [Handled.responseHash]

end Responses

namespace ResponseSample

def monitor : SecurityMonitor where
  injection _ := []
  exfiltration _ := []
  pii text :=
    if text.toList.contains '@' then
      [⟨.piiExposure, "email", "Email address", "a@b", .high, ⟨0⟩⟩]
    else []
  heuristics _ := []
  semantic := none
  blockingThreshold := .high

def exchange : Exchange where
  provider := "cohere"
  adapter := .cohere
  model := "command-r"
  promptHash := ""
  toolsRequested := []
  policyResult := none
  latencyMs := 0

def json : Value := .object [("text", .string "a@b")]

def body : Bytes := utf8Chars (json.print sampleFloats)

def response : UpstreamResponse := ⟨200, [body.take 11, body.drop 11], false⟩

theorem extractResponseText_body :
    Adapter.cohere.extractResponseText sampleFloats body = some "a@b" := by
  have read : (Body.text (json.print sampleFloats)).json sampleFloats = some json := by
    apply ProxySample.json_print
    · simp [json, Value.FiniteNumbers, Value.FiniteFields]
    · decide
    · rfl
  rw [Adapter.extractResponseText, Body.ofBytes, body, Utf8.fromUtf8_utf8Chars]
  dsimp only
  rw [read]
  rfl

theorem blocked : Blocked samplePlatform monitor exchange response :=
  Or.inl (by decide)

end ResponseSample

section

open ResponseSample

theorem streamed_address_withheld :
    ¬ (handleResponse samplePlatform monitor ⟨true, true⟩ exchange response).DeliversAll
      response := by
  apply (@blocked_not_delivered_iff samplePlatform monitor ⟨true, true⟩ exchange response rfl).mpr
  · intro _
    right
    exact ⟨rfl, by decide, response.chunks, by decide, List.prefix_rfl, by rw [CutAt]; decide⟩
  · exact ResponseSample.blocked

theorem buffered_address_delivered :
    exchange.adapter.extractResponseText sampleFloats response.body = some "a@b" ∧
      (monitor.scanResponse "a@b").shouldBlock = true ∧
      (handleResponse samplePlatform monitor ⟨true, false⟩ exchange response).DeliversAll
        response :=
  ⟨extractResponseText_body, by decide, rfl, false, rfl⟩

theorem scanned_stream_hashed :
    (handleResponse samplePlatform monitor ⟨true, true⟩ exchange response).responseHash =
      some (sha3_256Hex samplePlatform
        (handleResponse samplePlatform monitor ⟨true, true⟩ exchange response).received) := by
  have hashed := (@responseHash_eq_received_iff samplePlatform monitor ⟨true, true⟩ exchange
    response (fun equal => absurd equal (by decide))).mpr (Or.inr (Or.inl rfl))
  have logged : (handleResponse samplePlatform monitor ⟨true, true⟩ exchange
      response).responseHash.isSome := rfl
  rcases Option.isSome_iff_exists.mp logged with ⟨hash, isHash⟩
  rw [isHash, hashed hash isHash]

theorem unscanned_stream_not_hashed :
    (handleResponse samplePlatform monitor ⟨false, true⟩ exchange response).received = body ∧
      (handleResponse samplePlatform monitor ⟨false, true⟩ exchange response).responseHash =
        some (sha3_256Hex samplePlatform []) ∧
      sha3_256Hex samplePlatform [] ≠ sha3_256Hex samplePlatform body := by
  decide

end

end QuantaWatch.Gateway
