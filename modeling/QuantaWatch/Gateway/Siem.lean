import QuantaWatch.Audit.Entry
import QuantaWatch.Lib.Cef
import QuantaWatch.Lib.Text

/-!
The export of the audit log for event collectors (`qw-gateway/src/siem.rs`).
-/

namespace QuantaWatch.Gateway.Siem

open Audit Crypto Lib Lib.Json Lib.Text

inductive SiemFormat where
  | jsonl
  | cef
deriving DecidableEq

def cefSeverity (eventType : String) : UInt8 :=
  match eventType with
  | "threat_blocked" => 8
  | "policy_violation" => 6
  | "access_denied" => 6
  | "crypto_policy_enforced" => 6
  | "finding_created" => 5
  | "login_failed" => 5
  | "posture_changed" => 4
  | "scan_completed" => 3
  | "integration_sync" => 3
  | "admin_action" => 3
  | _ => 2

def eventName (eventType : String) : String :=
  match eventType with
  | "session_created" => "Agent session created"
  | "request_processed" => "LLM request proxied"
  | "threat_blocked" => "Threat blocked"
  | "policy_violation" => "Policy violation"
  | "session_closed" => "Agent session closed"
  | "scan_completed" => "Crypto scan completed"
  | "finding_created" => "Crypto finding created"
  | "posture_changed" => "Posture score changed"
  | "integration_sync" => "Integration sync"
  | "login_succeeded" => "Admin login succeeded"
  | "login_failed" => "Admin login failed"
  | "logout" => "Admin logout"
  | "access_denied" => "Access denied (RBAC)"
  | "admin_action" => "Admin action performed"
  | "crypto_policy_enforced" => "In-path crypto enforcement"
  | _ => "QuantaWatch event"

def cefHeaderEscape (text : String) : String :=
  replaceChars (· = '|') "\\|" (replaceChars (· = '\\') "\\\\" text)

def spaced (text : String) : String :=
  replaceChars (fun char => char = '\n' || char = '\r') " " text

def cefExtensionEscape (text : String) : String :=
  spaced (replaceChars (· = '=') "\\=" (replaceChars (· = '\\') "\\\\" text))

section Rendering

variable (floats : FloatText)

mutual

def scalarToString : Value → Option String
  | .string text => some text
  | .number number => some (String.ofList (number.print floats))
  | .bool value => some (toString value)
  | .array values => some (",".intercalate (scalarTexts values))
  | _ => none

def scalarTexts : List Value → List String
  | [] => []
  | value :: rest => (scalarToString value).toList ++ scalarTexts rest

end

def eventTypeOf (event : Value) : String := ((event.get "type").bind Value.asStr).getD "unknown"

def eventOf (entry : Value) : Value := (entry.get "event").getD .null

def eventFields : Value → List (String × Value)
  | .object fields => fields.filter fun field => field.1 ≠ "type"
  | _ => []

def cefExtensions (entry : Value) : List String :=
  let text (key label : String) : List String :=
    (((entry.get key).bind Value.asStr).map fun value => label ++ cefExtensionEscape value).toList
  text "timestamp" "rt=" ++ text "id" "externalId=" ++
    ((entry.get "sequence").map fun sequence =>
      "cn1Label=Sequence cn1=" ++ String.ofList (sequence.print floats)).toList ++
    text "session_id" "cs1Label=SessionId cs1=" ++
    text "content_hash" "cs2Label=ContentHash cs2=" ++
    (eventFields (eventOf entry)).filterMap fun field =>
      (scalarToString floats field.2).map fun value => field.1 ++ "=" ++ cefExtensionEscape value

def cefHeader (version eventType name : String) (severity : UInt8) : String :=
  "CEF:0|Dyber|QuantaWatch|" ++ cefHeaderEscape version ++ "|" ++ cefHeaderEscape eventType ++
    "|" ++ cefHeaderEscape name ++ "|" ++ toString severity.toNat ++ "|"

def toCef (entry : Value) (version : String) : String :=
  let eventType := eventTypeOf (eventOf entry)
  cefHeader version eventType (eventName eventType) (cefSeverity eventType) ++
    " ".intercalate (cefExtensions floats entry)

def ecsFields (entry : Value) (includeSignatures : Bool) : List (String × Value) :=
  let eventType := eventTypeOf (eventOf entry)
  let copied (key name : String) : List (String × Value) :=
    ((entry.get key).map fun value => (name, value)).toList
  copied "timestamp" "@timestamp" ++
    [("event.kind", .string "event"), ("event.module", .string "quantawatch"),
      ("event.dataset", .string "quantawatch.audit"), ("event.action", .string eventType),
      ("event.severity", .number (.posInt (cefSeverity eventType).toUInt64))] ++
    copied "sequence" "event.sequence" ++ copied "id" "event.id" ++
    copied "session_id" "quantawatch.session_id" ++
    copied "content_hash" "quantawatch.content_hash" ++
    copied "prev_hash" "quantawatch.prev_hash" ++
    copied "merkle_root" "quantawatch.merkle_root" ++
    (if includeSignatures then copied "signature" "quantawatch.signature"
      else ((entry.get "signature").map fun _ => ("quantawatch.signed", Value.bool true)).toList) ++
    (eventFields (eventOf entry)).map fun field => ("quantawatch." ++ field.1, field.2)

def toEcs (entry : Value) (includeSignatures : Bool) : Value :=
  .object ((ecsFields entry includeSignatures).foldl
    (fun fields field => Value.insertField field.1 field.2 fields) [])

def render (entries : List Value) (format : SiemFormat) (version : String)
    (includeSignatures : Bool) : String :=
  entries.foldl (fun out entry => out ++ ((match format with
    | .cef => toCef floats entry version
    | .jsonl => String.ofList ((toEcs entry includeSignatures).print floats)) ++ "\n")) ""

end Rendering

def packageVersion : String := "0.1.5"

def exportBody (platform : Platform) (entries : List AuditEntry) (format : SiemFormat)
    (signatures : Bool) : String :=
  render platform.floats (entries.map (AuditEntry.toValue platform)) format packageVersion
    signatures

def cefFields (platform : Platform) (entry : AuditEntry) : List (String × String) :=
  [("rt", platform.serializeTime entry.timestamp), ("externalId", entry.id),
    ("cn1Label", "Sequence"), ("cn1", toString entry.sequence.toNat),
    ("cs1Label", "SessionId"), ("cs1", entry.sessionId),
    ("cs2Label", "ContentHash"), ("cs2", entry.contentHash)] ++
    entry.event.fields.filterMap fun field =>
      (scalarToString platform.floats field.2).map fun text => (field.1, text)

def cefEvent (platform : Platform) (entry : AuditEntry) : Cef.Event where
  header := ["CEF:0", "Dyber", "QuantaWatch", packageVersion, entry.event.tag,
    eventName entry.event.tag, toString (cefSeverity entry.event.tag).toNat]
  extensions := (cefFields platform entry).map fun field => (field.1, spaced field.2)

theorem toList_replaceChars_twice {other : Char} {mark : String} (notEscape : other ≠ '\\')
    (isMark : mark.toList = ['\\', other]) (text : String) :
    (replaceChars (· = other) mark (replaceChars (· = '\\') "\\\\" text)).toList =
      Escaped.escape ['\\', other] text.toList := by
  simp only [replaceChars, String.toList_ofList, List.flatMap_assoc, Escaped.escape]
  congr 1
  funext char
  by_cases isEscape : char = '\\'
  · simp [isEscape, notEscape.symm]
  · by_cases isOther : char = other
    · simp [isOther, notEscape, isMark]
    · simp [isEscape, isOther]

variable (text : String)

theorem toList_cefHeaderEscape : (cefHeaderEscape text).toList = Cef.headerText text :=
  toList_replaceChars_twice (by decide) (by decide) text

def space (char : Char) : Char := if char = '\n' ∨ char = '\r' then ' ' else char

theorem toList_spaced : (spaced text).toList = text.toList.map space := by
  rw [spaced, replaceChars, String.toList_ofList, List.map_eq_flatMap]
  congr 1
  funext char
  by_cases isEnd : char = '\n' ∨ char = '\r'
  · simp [space, isEnd]
  · simp [space, isEnd]

theorem notMem_spaced : '\n' ∉ (spaced text).toList ∧ '\r' ∉ (spaced text).toList := by
  have isOther (char : Char) : space char ≠ '\n' ∧ space char ≠ '\r' := by
    rw [space]
    split_ifs with isEnd
    · decide
    · exact not_or.mp isEnd
  rw [toList_spaced, List.mem_map, List.mem_map]
  constructor
  · rintro ⟨char, _, same⟩
    exact (isOther char).1 same
  · rintro ⟨char, _, same⟩
    exact (isOther char).2 same

theorem map_space_escape (text : List Char) : (Escaped.escape ['\\', '='] text).map space =
      Escaped.escape ['\\', '='] (text.map space) := by
  induction text with
  | nil => rfl
  | cons char text ih =>
    rw [List.map_cons, Escaped.escape_cons, Escaped.escape_cons, List.map_append,
      ih]
    congr 1
    by_cases isEnd : char = '\n' ∨ char = '\r'
    · obtain rfl | rfl := isEnd <;> decide
    · rw [show space char = char from if_neg isEnd]
      split_ifs with isSpecial
      · rw [List.map_cons, List.map_singleton, show space char = char from if_neg isEnd]
        rfl
      · rw [List.map_singleton, show space char = char from if_neg isEnd]

theorem toList_cefExtensionEscape :
    (cefExtensionEscape text).toList = Cef.valueText (spaced text) := by
  rw [cefExtensionEscape, toList_spaced, toList_replaceChars_twice (by decide) (by decide),
    map_space_escape, Cef.valueText, toList_spaced]

variable (event : AuditEvent)

theorem eventKeys_plain : ∀ field ∈ event.fields, Cef.PlainKey field.1 ∧ field.1 ≠ "type" ∧
      '\n' ∉ field.1.toList ∧ '\r' ∉ field.1.toList := by
  cases event <;> simp [AuditEvent.fields, Cef.PlainKey]

theorem eventFields_toValue : eventFields event.toValue = event.fields := by
  rw [AuditEvent.toValue, eventFields, List.filter_cons_of_neg (by simp), List.filter_eq_self]
  intro field member
  exact decide_eq_true (eventKeys_plain event field member).2.1

theorem eventTypeOf_toValue : eventTypeOf event.toValue = event.tag := rfl

variable (platform : Platform) (entry : AuditEntry)

theorem eventOf_toValue : eventOf (entry.toValue platform) = entry.event.toValue := by
  simp [eventOf, AuditEntry.toValue, List.lookup]

theorem escape_toString {special : List Char} (noDigit : ∀ char ∈ special, char.isDigit = false)
    (number : Nat) :
    Escaped.escape special (toString number).toList = (toString number).toList := by
  refine Escaped.escape_eq_self fun char member isSpecial => ?_
  rw [toString_toList] at member
  exact notMem_toDigits (noDigit char isSpecial) number member

theorem toList_cefHeader (version eventType name : String) (severity : UInt8) :
    (cefHeader version eventType name severity).toList =
      ["CEF:0", "Dyber", "QuantaWatch", version, eventType, name,
        toString severity.toNat].flatMap fun field => Cef.headerText field ++ ['|'] := by
  have digits : Cef.headerText (toString severity.toNat) = (toString severity.toNat).toList :=
    escape_toString (by simp [Char.isDigit]) severity.toNat
  have product : "CEF:0|Dyber|QuantaWatch|".toList =
      ["CEF:0", "Dyber", "QuantaWatch"].flatMap fun field => Cef.headerText field ++ ['|'] := by
    decide
  unfold cefHeader
  simp only [String.toList_append, toList_cefHeaderEscape, product, List.flatMap_cons,
    List.flatMap_nil, digits, List.append_assoc, show "|".toList = ['|'] from rfl, List.append_nil]

theorem toList_pair (key text : String) :
    (key ++ "=" ++ cefExtensionEscape text).toList = Cef.pairText (key, spaced text) := by
  rw [String.toList_append, String.toList_append, toList_cefExtensionEscape, Cef.pairText,
    List.append_assoc, show "=".toList = ['='] from rfl, List.singleton_append]

theorem cefExtensionEscape_toString (number : Nat) :
    cefExtensionEscape (toString number) = toString number ∧
      spaced (toString number) = toString number := by
  have noEnd : spaced (toString number) = toString number := by
    rw [← String.toList_inj, toList_spaced, toString_toList]
    refine (List.map_congr_left fun char member => if_neg ?_).trans (List.map_id _)
    rintro (rfl | rfl)
    · exact notMem_toDigits (by decide) number member
    · exact notMem_toDigits (by decide) number member
  refine ⟨?_, noEnd⟩
  rw [← String.toList_inj, toList_cefExtensionEscape, noEnd]
  exact escape_toString (by simp [Char.isDigit]) number

theorem cefExtensions_toValue : cefExtensions platform.floats (entry.toValue platform) =
      ["rt=" ++ cefExtensionEscape (platform.serializeTime entry.timestamp),
        "externalId=" ++ cefExtensionEscape entry.id,
        "cn1Label=Sequence cn1=" ++ cefExtensionEscape (toString entry.sequence.toNat),
        "cs1Label=SessionId cs1=" ++ cefExtensionEscape entry.sessionId,
        "cs2Label=ContentHash cs2=" ++ cefExtensionEscape entry.contentHash] ++
      entry.event.fields.filterMap fun field => (scalarToString platform.floats field.2).map
        fun value => field.1 ++ "=" ++ cefExtensionEscape value := by
  rw [(cefExtensionEscape_toString _).1]
  simp only [cefExtensions, eventOf_toValue, eventFields_toValue]
  simp [AuditEntry.toValue, List.lookup, natValue, Value.print, Number.print]
  rw [← String.toList_inj, String.toList_ofList]
  exact (toString_toList _).symm

theorem intercalate_cefExtensions :
    (" ".intercalate (cefExtensions platform.floats (entry.toValue platform))).toList =
      [' '].intercalate ((cefEvent platform entry).extensions.map Cef.pairText) := by
  have own (key text : String) (keyText : String) (isKey : keyText = key ++ "=") :
      (keyText ++ cefExtensionEscape text).toList = Cef.pairText (key, spaced text) := by
    rw [isKey, toList_pair]
  have labelled (label name key text : String) (start : String)
      (isStart : start = label ++ "=" ++ cefExtensionEscape name ++ " " ++ key ++ "=") :
      (start ++ cefExtensionEscape text).toList =
        Cef.pairText (label, spaced name) ++ ' ' :: Cef.pairText (key, spaced text) := by
    rw [isStart, ← toList_pair, ← toList_pair]
    simp
  have fields : (entry.event.fields.filterMap fun field =>
        (scalarToString platform.floats field.2).map fun value =>
          field.1 ++ "=" ++ cefExtensionEscape value).map String.toList =
      ((entry.event.fields.filterMap fun field => (scalarToString platform.floats field.2).map
        fun text => (field.1, text)).map fun field => (field.1, spaced field.2)).map
          Cef.pairText := by
    simp only [List.map_filterMap, Option.map_map]
    congr 1
    funext field
    congr 1
    funext text
    exact toList_pair field.1 text
  rw [cefExtensions_toValue, String.toList_intercalate, List.map_append, fields]
  simp only [cefEvent, cefFields, List.map_cons, List.map_nil, List.cons_append, List.nil_append]
  rw [own "rt" _ "rt=" rfl, own "externalId" _ "externalId=" rfl,
    labelled "cn1Label" "Sequence" "cn1" _ "cn1Label=Sequence cn1=" (by decide),
    labelled "cs1Label" "SessionId" "cs1" _ "cs1Label=SessionId cs1=" (by decide),
    labelled "cs2Label" "ContentHash" "cs2" _ "cs2Label=ContentHash cs2=" (by decide)]
  show [' '].intercalate _ = _
  rw [Escaped.intercalate_cons, Escaped.intercalate_cons]
  simp only [List.flatMap_cons, List.append_assoc, List.cons_append]

theorem toCef_toValue : (toCef platform.floats (entry.toValue platform) packageVersion).toList =
      Cef.write (cefEvent platform entry) := by
  rw [Cef.write, ← intercalate_cefExtensions, toCef, eventOf_toValue, eventTypeOf_toValue,
    String.toList_append, toList_cefHeader]
  rfl

theorem cefEvent_keys {pair : String × String}
    (member : pair ∈ (cefEvent platform entry).extensions) :
    Cef.PlainKey pair.1 ∧ '\n' ∉ pair.1.toList ∧ '\r' ∉ pair.1.toList := by
  obtain ⟨field, isField, rfl⟩ := List.mem_map.mp member
  obtain standard | own := List.mem_append.mp isField
  · simp only [List.mem_cons, List.not_mem_nil, or_false] at standard
    rcases standard with rfl | rfl | rfl | rfl | rfl | rfl | rfl | rfl <;> simp [Cef.PlainKey]
  · obtain ⟨source, isSource, found⟩ := List.mem_filterMap.mp own
    obtain ⟨text, _, rfl⟩ := Option.map_eq_some_iff.mp found
    have plain := eventKeys_plain entry.event source isSource
    exact ⟨plain.1, plain.2.2⟩

theorem cefEvent_header {field : String} (member : field ∈ (cefEvent platform entry).header) :
    '\n' ∉ field.toList ∧ '\r' ∉ field.toList := by
  simp only [cefEvent, List.mem_cons, List.not_mem_nil, or_false] at member
  rcases member with rfl | rfl | rfl | rfl | rfl | rfl | rfl
  any_goals decide
  · cases entry.event <;> simp [AuditEvent.tag]
  · cases entry.event <;> simp [AuditEvent.tag, eventName]
  · rw [toString_toList]
    exact ⟨notMem_toDigits (by decide) _, notMem_toDigits (by decide) _⟩

theorem cefEvent_oneLine :
    '\n' ∉ Cef.write (cefEvent platform entry) ∧ '\r' ∉ Cef.write (cefEvent platform entry) := by
  have value {pair : String × String} (member : pair ∈ (cefEvent platform entry).extensions) :
      '\n' ∉ pair.2.toList ∧ '\r' ∉ pair.2.toList := by
    obtain ⟨field, _, rfl⟩ := List.mem_map.mp member
    exact notMem_spaced field.2
  constructor
  · exact Cef.notMem_write (by simp) (fun field member => (cefEvent_header platform entry member).1)
      fun pair member => ⟨(cefEvent_keys platform entry member).2.1, (value member).1⟩
  · exact Cef.notMem_write (by simp) (fun field member => (cefEvent_header platform entry member).2)
      fun pair member => ⟨(cefEvent_keys platform entry member).2.2, (value member).2⟩

theorem lines_exportBody (entries : List AuditEntry) (signatures : Bool) :
    lines (exportBody platform entries .cef signatures) =
      entries.map fun entry => String.ofList (Cef.write (cefEvent platform entry)) := by
  have written : (exportBody platform entries .cef signatures).toList =
      (entries.map fun entry => Cef.write (cefEvent platform entry)).flatMap
        fun line => line ++ ['\n'] := by
    rw [exportBody, render, toList_foldl_append, List.flatMap_map, List.flatMap_map]
    simp only [String.toList_append, toCef_toValue]
    exact List.nil_append _
  rw [lines, written, linesAfter_flatMap, List.map_map]
  · rfl
  · intro line member
    obtain ⟨entry, _, rfl⟩ := List.mem_map.mp member
    exact cefEvent_oneLine platform entry

end QuantaWatch.Gateway.Siem
