import QuantaWatch.Gateway.AuditApi

/-!
The offline verifier's file reader and its command
(`load_audit_export` and `Commands::Verify` in `qw-cli/src/main.rs`).
-/

namespace QuantaWatch.Cli

open Audit Crypto Lib.Encoding Lib.Json

/-- The Unicode property `White_Space`. -/
def isWhitespace (char : Char) : Bool :=
  let code := char.toNat
  (9 ≤ code && code ≤ 13) || code = 0x20 || code = 0x85 || code = 0xa0 || code = 0x1680 ||
    (0x2000 ≤ code && code ≤ 0x200a) || code = 0x2028 || code = 0x2029 || code = 0x202f ||
    code = 0x205f || code = 0x3000

def trimStart (text : List Char) : List Char := text.dropWhile isWhitespace

def stripReturn (line : List Char) : List Char :=
  if line.getLast? = some '\r' then line.dropLast else line

/-- `str::lines` with the part of the current line already read. -/
def linesFrom (current : List Char) : List Char → List (List Char)
  | [] => if current = [] then [] else [current]
  | char :: rest =>
    if char = '\n' then stripReturn current :: linesFrom [] rest
    else linesFrom (current ++ [char]) rest

def lines (text : List Char) : List (List Char) := linesFrom [] text

def isBlank (line : List Char) : Bool := line.all isWhitespace

def startsWithBrace (text : List Char) : Bool := (trimStart text).head? = some '{'

section

variable (platform : Platform)

/-- `serde_json::from_str::<Value>`. -/
def readDocument (text : List Char) : Option Value :=
  (parseDocument platform.floats text).map Value.collapse

/-- `serde_json::from_str::<AuditEntry>`. -/
def readEntry (line : List Char) : Option AuditEntry :=
  (parseDocument platform.floats line).bind (AuditEntry.fromValue platform)

def readList {α : Type} (read : Value → Option α) (value : Value) : Option (List α) :=
  value.asArray.bind fun values => values.mapM read

/-- Errors are `none`. A missing member of the document is an empty list, and a
line that is no entry is left out. -/
def loadAuditExport (content : List Char) : Option (List AuditEntry × List AuditCheckpoint) :=
  if startsWithBrace content then do
    let document ← readDocument platform content
    let entries ← readList (AuditEntry.fromValue platform)
      ((document.get "entries").getD (.array []))
    let checkpoints ← readList (AuditCheckpoint.fromValue platform)
      ((document.get "checkpoints").getD (.array []))
    some (entries, checkpoints)
  else
    some (((lines content).filter fun line => !isBlank line).filterMap (readEntry platform), [])

/-- `qw verify`: what it prints, unless it stops with an error. -/
inductive Verdict where
  | verified (result : VerificationResult)
  | failed (result : VerificationResult)
deriving DecidableEq

def verifyCommand (publicKey : Bytes) (content : List Char) : Option Verdict :=
  (loadAuditExport platform content).map fun log =>
    let result := verifySharded platform publicKey log.1 log.2
    if result.valid then .verified result else .failed result

/-- `GET /api/audit/export?format=bundle`. -/
def bundleValue (entries : List AuditEntry) (checkpoints : List AuditCheckpoint) : Value :=
  .object [("entries", .array (entries.map (AuditEntry.toValue platform))),
    ("checkpoints", .array (checkpoints.map (AuditCheckpoint.toValue platform)))]

def bundleText (entries : List AuditEntry) (checkpoints : List AuditCheckpoint) : List Char :=
  (bundleValue platform entries checkpoints).print platform.floats

/-- A JSONL file of entries: its lines that are not blank are the printed entries. Line ends may be
`\n` or `\r\n`, and the last line may go without. -/
def IsJsonl (text : List Char) (entries : List AuditEntry) : Prop :=
  (lines text).filter (!isBlank ·) =
    entries.map fun entry => (entry.toValue platform).print platform.floats

def CarriesLog (document : Value) : Prop :=
  (document.get "entries").isSome = true ∨ (document.get "checkpoints").isSome = true

structure ReadsExport (text : List Char) : Prop where
  bundle : ∀ entries checkpoints, text = bundleText platform entries checkpoints →
    loadAuditExport platform text = some (entries, checkpoints)
  jsonl : ∀ entries, IsJsonl platform text entries →
    loadAuditExport platform text = some (entries, [])
  badLine : readDocument platform text = none →
    (∃ line ∈ lines text, isBlank line = false ∧ readEntry platform line = none) →
      loadAuditExport platform text = none
  noLog : ∀ document, readDocument platform text = some document → ¬ CarriesLog document →
    loadAuditExport platform text = none

end

variable {platform : Platform}

theorem startsWithBrace_cons (rest : List Char) : startsWithBrace ('{' :: rest) = true := by
  simp [startsWithBrace, trimStart, isWhitespace]

theorem readDocument_print (lawful : platform.floats.Lawful) {value : Value}
    (finite : value.FiniteNumbers) (unique : value.UniqueKeys)
    (nested : value.height ≤ nestingLimit) {rest : List Char} (after : NumberEnd rest)
    (blank : skipSpace rest = []) : readDocument platform (value.print platform.floats ++ rest) =
      some (value.readBack platform.floats) := by
  rw [readDocument, parseDocument_print lawful finite nested after blank, Option.map_some,
    Value.collapse_of_uniqueKeys _ (Value.uniqueKeys_readBack _ _ unique)]

theorem readDocument_bundleText (lawful : platform.floats.Lawful) (entries : List AuditEntry)
    (checkpoints : List AuditCheckpoint) :
    readDocument platform (bundleText platform entries checkpoints) =
      some ((bundleValue platform entries checkpoints).readBack platform.floats) := by
  have read := @readDocument_print platform lawful (bundleValue platform entries checkpoints)
    ?_ ?_ ?_ [] numberEnd_nil rfl
  · rwa [List.append_nil] at read
  · simp [bundleValue, Value.FiniteNumbers, Value.FiniteFields, Value.finiteElements_iff,
      AuditEntry.finiteNumbers_toValue, AuditCheckpoint.finiteNumbers_toValue]
  · simp [bundleValue, Value.UniqueKeys, Value.UniqueKeysFields, Value.uniqueKeysElements_iff,
      AuditEntry.uniqueKeys_toValue, AuditCheckpoint.uniqueKeys_toValue]
  · have entriesHeight : Value.heightElements (entries.map (AuditEntry.toValue platform)) ≤ 3 := by
      apply Value.heightElements_le_iff.mpr
      simp [AuditEntry.height_toValue_le]
    have checkpointsHeight :
        Value.heightElements (checkpoints.map (AuditCheckpoint.toValue platform)) ≤ 3 := by
      apply Value.heightElements_le_iff.mpr
      simp [AuditCheckpoint.height_toValue_le]
    simp only [bundleValue, Value.height, Value.heightFields, nestingLimit]
    omega

theorem mapM_eq_self_iff {α : Type} {read : α → Option α} {values : List α} :
    values.mapM read = some values ↔ ∀ value ∈ values, read value = some value := by
  induction values with
  | nil => simp
  | cons value rest ih =>
    rw [List.forall_mem_cons, ← ih]
    cases headRead : read value <;> cases restRead : rest.mapM read <;>
      simp [List.mapM_cons, headRead, restRead]

variable {entries : List AuditEntry} {checkpoints : List AuditCheckpoint}

theorem readList_entries : readList (AuditEntry.fromValue platform)
        ((Value.array (entries.map (AuditEntry.toValue platform))).readBack platform.floats) =
      entries.mapM fun entry =>
        AuditEntry.fromValue platform ((entry.toValue platform).readBack platform.floats) := by
  simp [readList, Value.readBack, Value.readBackElements_eq_map, List.mapM_map, Function.comp_def]

theorem readList_checkpoints (lawful : platform.LawfulText) :
    readList (AuditCheckpoint.fromValue platform)
        ((Value.array (checkpoints.map (AuditCheckpoint.toValue platform))).readBack
          platform.floats) = some checkpoints := by
  simp only [readList, Value.readBack, Value.readBackElements_eq_map, List.map_map,
    Value.asArray_array, Option.bind_some, List.mapM_map, Function.comp_def,
    AuditCheckpoint.readBack_toValue, AuditCheckpoint.fromValue_toValue lawful]
  exact mapM_eq_self_iff.mpr fun _ _ => rfl

theorem loadAuditExport_bundleText_iff (lawful : platform.LawfulText) :
    loadAuditExport platform (bundleText platform entries checkpoints) =
        some (entries, checkpoints) ↔
      ∀ entry ∈ entries, entry.event.ScoresReadBack platform.floats := by
  have brace : startsWithBrace (bundleText platform entries checkpoints) = true :=
    startsWithBrace_cons _
  have read : loadAuditExport platform (bundleText platform entries checkpoints) =
      (entries.mapM fun entry =>
        AuditEntry.fromValue platform ((entry.toValue platform).readBack platform.floats)).map
          fun found => (found, checkpoints) := by
    rw [loadAuditExport, if_pos brace, readDocument_bundleText lawful.floats]
    change (readList (AuditEntry.fromValue platform)
      ((Value.array (entries.map (AuditEntry.toValue platform))).readBack platform.floats)).bind
        (fun found => (readList (AuditCheckpoint.fromValue platform)
          ((Value.array (checkpoints.map (AuditCheckpoint.toValue platform))).readBack
            platform.floats)).bind fun others => some (found, others)) = _
    rw [readList_entries, readList_checkpoints lawful, Option.map_eq_bind]
    rfl
  rw [read]
  calc
    _ ↔ (entries.mapM fun entry => AuditEntry.fromValue platform
          ((entry.toValue platform).readBack platform.floats)) = some entries := by simp
    _ ↔ ∀ entry ∈ entries, AuditEntry.fromValue platform
          ((entry.toValue platform).readBack platform.floats) = some entry := mapM_eq_self_iff
    _ ↔ _ := by simp only [AuditEntry.fromValue_readBack_iff lawful]

theorem numberEnd_of_return {char : Char} (ends : char = '\n' ∨ char = '\r') (rest : List Char) :
    NumberEnd (char :: rest) := by
  rcases ends with rfl | rfl <;>
    exact numberEnd_cons (by decide) (by decide) (by decide) (by decide)

theorem stripReturn_append (line : List Char) :
    ∃ ending, line = stripReturn line ++ ending ∧ (ending = [] ∨ ending = ['\r']) := by
  rw [stripReturn]
  split_ifs with returns
  · obtain ⟨front, rfl⟩ := List.getLast?_eq_some_iff.mp returns
    exact ⟨['\r'], by simp, .inr rfl⟩
  · exact ⟨[], by simp, .inl rfl⟩

theorem isBlank_append {left right : List Char} :
    isBlank (left ++ right) = true ↔ isBlank left = true ∧ isBlank right = true := by
  simp only [isBlank, List.all_append, Bool.and_eq_true]

/-- The text is blank, or blank up to its first line that is not. The induction is on the text, with
the part of the line already read. -/
theorem linesFrom_cases (current text : List Char) :
    isBlank (current ++ text) = true ∧ (linesFrom current text).filter (!isBlank ·) = [] ∨
      ∃ before line rest more, current ++ text = before ++ (line ++ rest) ∧
        isBlank before = true ∧ NumberEnd rest ∧
        (linesFrom current text).filter (!isBlank ·) = line :: more := by
  induction text generalizing current with
  | nil =>
    rw [List.append_nil]
    by_cases blank : isBlank current = true
    · refine .inl ⟨blank, ?_⟩
      rw [linesFrom]
      split_ifs <;> simp [blank]
    · refine .inr ⟨[], current, [], [], by simp, rfl, numberEnd_nil, ?_⟩
      have nonempty : current ≠ [] := fun empty => blank (by rw [empty]; rfl)
      simp [linesFrom, nonempty, blank]
  | cons char text ih =>
    rw [linesFrom]
    split_ifs with newline
    · subst newline
      obtain ⟨ending, whole, isEnding⟩ := stripReturn_append current
      by_cases blank : isBlank (stripReturn current) = true
      · have blankLine : isBlank (current ++ ['\n']) = true := by
          rw [isBlank_append, whole, isBlank_append]
          rcases isEnding with rfl | rfl <;> exact ⟨⟨blank, by decide⟩, by decide⟩
        rw [List.filter_cons_of_neg (by simp [blank]), List.append_cons]
        rcases ih [] with ⟨blankText, none⟩ | ⟨before, line, rest, more, shape, early, found⟩
        · exact .inl ⟨isBlank_append.mpr ⟨blankLine, blankText⟩, none⟩
        · refine .inr ⟨current ++ ['\n'] ++ before, line, rest, more, ?_,
            isBlank_append.mpr ⟨blankLine, early⟩, found⟩
          rw [List.nil_append] at shape
          rw [shape, List.append_assoc _ before]
      · refine .inr ⟨[], stripReturn current, ending ++ '\n' :: text, _, ?_, rfl, ?_,
          List.filter_cons_of_pos (by simp [blank])⟩
        · rw [List.nil_append, ← List.append_assoc, ← whole]
        · rcases isEnding with rfl | rfl
          · exact numberEnd_of_return (.inl rfl) _
          · exact numberEnd_of_return (.inr rfl) _
    · have later := ih (current ++ [char])
      rwa [List.append_assoc, List.singleton_append] at later

theorem startsWithBrace_of_blank {before rest : List Char} (blank : isBlank before = true) :
    startsWithBrace (before ++ rest) = startsWithBrace rest := by
  rw [startsWithBrace, trimStart, List.dropWhile_append_of_pos (List.all_eq_true.mp blank)]
  rfl

variable (entry : AuditEntry)

theorem height_entry_le : (entry.toValue platform).height ≤ nestingLimit :=
  entry.height_toValue_le.trans (by decide)

theorem get_readBack_toValue :
    ((entry.toValue platform).readBack platform.floats).get "entries" = none ∧
      ((entry.toValue platform).readBack platform.floats).get "checkpoints" = none := by
  obtain ⟨id, timestamp, writerId, sequence, sessionId, event, prevHash, contentHash, signature,
    merkleRoot⟩ := entry
  cases merkleRoot <;> exact ⟨rfl, rfl⟩

theorem parseValue_blank (floats : FloatText) {char : Char} (white : isWhitespace char = true)
    (visible : isSpace char = false) (fuel depth : Nat) (rest : List Char) :
    parseValue floats fuel depth (char :: rest) = none := by
  have digit : char.isDigit = false := by
    by_contra isDigit
    simp only [isWhitespace, Bool.or_eq_true, Bool.and_eq_true, decide_eq_true_eq] at white
    simp only [Bool.not_eq_false, Char.isDigit, Bool.and_eq_true, decide_eq_true_eq,
      UInt32.le_iff_toNat_le, Char.reduceVal, UInt32.reduceToNat] at isDigit
    simp only [Char.toNat] at white
    omega
  have other (mark : Char) (isMark : isWhitespace mark = false) : char ≠ mark := by
    rintro rfl
    rw [white] at isMark
    cases isMark
  cases fuel with
  | zero => rw [parseValue.eq_def]
  | succ fuel =>
    rw [parseValue.eq_def]
    simp only [skipSpace_of_head visible, if_neg (other '"' rfl), if_neg (other '[' rfl),
      if_neg (other '{' rfl), if_neg (other 'n' rfl), if_neg (other 't' rfl),
      if_neg (other 'f' rfl), parseNumber, if_neg (other '-' rfl), parseUnsigned,
      List.takeWhile_cons_of_neg (Bool.eq_false_iff.mp digit), Option.map_none]

section Jsonl

variable (lawful : platform.floats.Lawful)

include lawful

/-- White space that JSON does not know before an entry makes the text no document, and so does
anything visible behind it. -/
theorem readDocument_entry {before rest : List Char} (blank : isBlank before = true)
    (ends : NumberEnd rest) :
    let text := before ++ ((entry.toValue platform).print platform.floats ++ rest)
    readDocument platform text = none ∨
      readDocument platform text = some ((entry.toValue platform).readBack platform.floats) := by
  intro text
  have finite : (entry.toValue platform).FiniteNumbers := entry.finiteNumbers_toValue
  have enough : (entry.toValue platform).calls ≤ fuelFor text := by
    have bound := calls_le lawful _ finite
    simp only [text, fuelFor, List.length_append]
    omega
  have parsed : parseValue platform.floats (fuelFor text) nestingLimit text = none ∨
      parseValue platform.floats (fuelFor text) nestingLimit text =
        some ((entry.toValue platform).readBack platform.floats, rest) := by
    generalize fuelFor text = fuel at enough
    simp only [text]
    clear text
    induction before with
    | nil =>
      exact .inr (parseValue_print lawful _ fuel _ rest finite enough (height_entry_le entry) ends)
    | cons char before ih =>
      rw [isBlank, List.all_cons, Bool.and_eq_true] at blank
      by_cases space : isSpace char = true
      · rw [List.cons_append, parseValue_space _ space]
        exact ih blank.2
      · exact .inl (parseValue_blank _ blank.1 (Bool.eq_false_iff.mpr space) _ _ _)
  rw [readDocument, parseDocument]
  rcases parsed with none | value
  · rw [none]
    exact .inl rfl
  · rw [value]
    dsimp only
    split_ifs
    · rw [Option.map_some, Value.collapse_of_uniqueKeys _
        (Value.uniqueKeys_readBack _ _ entry.uniqueKeys_toValue)]
      exact .inr rfl
    · exact .inl rfl

theorem loadAuditExport_jsonl_iff {text : List Char} (isJsonl : IsJsonl platform text entries) :
    loadAuditExport platform text = some (entries, []) ↔ entries = [] := by
  rw [IsJsonl] at isJsonl
  rcases linesFrom_cases [] text with ⟨blank, none⟩ | ⟨before, line, rest, more, shape, blank, ends,
    found⟩
  · have brace : startsWithBrace text = false := by
      rw [← List.append_nil text]
      exact startsWithBrace_of_blank blank
    have nonBlank : (lines text).filter (!isBlank ·) = [] := none
    have empty : entries = [] := by
      rw [nonBlank] at isJsonl
      simpa using isJsonl.symm
    simp [loadAuditExport, brace, nonBlank, empty]
  · have nonBlank : (lines text).filter (!isBlank ·) = line :: more := found
    rw [nonBlank] at isJsonl
    cases entries with
    | nil => cases isJsonl
    | cons entry entries =>
      obtain ⟨rfl, -⟩ := List.cons.inj isJsonl
      rw [List.nil_append] at shape
      have brace : startsWithBrace text = true := by
        rw [shape, startsWithBrace_of_blank blank]
        exact startsWithBrace_cons _
      obtain ⟨noEntries, noCheckpoints⟩ := @get_readBack_toValue platform entry
      rw [loadAuditExport, if_pos brace, shape]
      rcases readDocument_entry entry lawful blank ends with none | document
      · simp [none]
      · simp [document, noEntries, noCheckpoints, readList]

end Jsonl

theorem loadAuditExport_noLog {text : List Char} {document : Value}
    (read : readDocument platform text = some document) (noLog : ¬ CarriesLog document) :
    loadAuditExport platform text ≠ none := by
  rw [CarriesLog, not_or, Bool.not_eq_true, Bool.not_eq_true, Option.isSome_eq_false_iff,
    Option.isSome_eq_false_iff, Option.isNone_iff_eq_none, Option.isNone_iff_eq_none] at noLog
  unfold loadAuditExport
  split
  · simp [read, noLog, readList]
  · exact Option.some_ne_none _

def sampleEntry : AuditEntry :=
  AuditEntry.new "a" ⟨1⟩ "gw-0" 0 "s" (.logout "root") ""

def sampleLine : List Char := (sampleEntry.toValue samplePlatform).print samplePlatform.floats

/-- The body of the answer to `GET /api/audit/export?format=bundle`. -/
def exportAudit (platform : Platform) (limit : Option Nat) (store : Store.AuditStore) : List Char :=
  let bundle := Gateway.exportBundle limit store
  bundleText platform bundle.1 bundle.2

end QuantaWatch.Cli
