import QuantaWatch.Lib.Text
import QuantaWatch.Monitor.SecurityMonitor

/-!
The heuristic detector (`qw-monitor/src/heuristics.rs`).
-/

namespace QuantaWatch.Monitor

open Lib Lib.Json Lib.Runs Lib.Text

structure HeuristicUnicode where
  casing : CaseMapping
  isAlphanumeric : Char → Bool

structure HeuristicUnicode.Lawful (unicode : HeuristicUnicode) : Prop where
  lines : ∀ left right, unicode.casing.toLowercase (left ++ "\n" ++ right) =
    unicode.casing.toLowercase left ++ "\n" ++ unicode.casing.toLowercase right
  lineBreak : unicode.isAlphanumeric '\n' = false

structure HeuristicDetector where
  overrideThreshold : UInt32
  encodedRunLen : Nat

def HeuristicDetector.default : HeuristicDetector where
  overrideThreshold := 1
  encodedRunLen := 64

def overrideVerbs : List String :=
  ["ignore", "disregard", "forget", "override", "bypass", "skip", "discard", "abandon", "suspend",
    "reset"]

def instructionNouns : List String :=
  ["instructions", "instruction", "rules", "rule", "prompt", "prompts", "guidelines", "guardrails",
    "policy", "policies", "directives", "constraints", "restrictions"]

def isInvisible (char : Char) : Bool :=
  let code := char.toNat
  code == 0x200B || code == 0x200C || code == 0x200D || code == 0x2060 || code == 0xFEFF ||
    code == 0x200E || code == 0x200F || (0x202A ≤ code && code ≤ 0x202E) || code == 0xAD

def isCyrillicOrGreek (char : Char) : Bool :=
  let code := char.toNat
  (0x370 ≤ code && code ≤ 0x3FF) || (0x400 ≤ code && code ≤ 0x4FF)

def isBase64ish (char : Char) : Bool :=
  char.isAlphanum || char == '+' || char == '/' || char == '='

/-- `text.chars().take(count).collect()` -/
def excerpt (count : Nat) (text : String) : String := String.ofList (text.toList.take count)

def invisibleChars (text : String) : Option DetectedThreat :=
  let count := text.toList.countP isInvisible
  if count = 0 then none
  else some
    { category := .promptInjection
      patternName := "invisible-characters"
      description := toString count ++
        " zero-width/bidi control character(s) — often used to hide injected instructions"
      matchedText := toString count ++ " invisible char(s)"
      severity := .high
      confidence := ⟨0x3feccccccccccccd⟩ }  -- 0.9

def isMixed (word : List Char) : Bool := word.any Char.isAlpha && word.any isCyrillicOrGreek

def mixedScript (text : String) : Option DetectedThreat :=
  ((text.toList.splitOnP isWhitespace).find? isMixed).map fun word =>
    { category := .promptInjection
      patternName := "homoglyph-obfuscation"
      description := "Word mixes Latin with Cyrillic/Greek homoglyphs to evade keyword filters"
      matchedText := String.ofList (word.take 32)
      severity := .medium
      confidence := ⟨0x3fe999999999999a⟩ }  -- 0.8

structure RunScan where
  bestStart : Nat
  bestLen : Nat
  curStart : Nat
  curLen : Nat

def RunScan.step (scan : RunScan) (position : Nat) (char : Char) : RunScan :=
  if isBase64ish char then
    let curStart := if scan.curLen = 0 then position else scan.curStart
    let curLen := scan.curLen + 1
    if scan.bestLen < curLen then ⟨curStart, curLen, curStart, curLen⟩
    else ⟨scan.bestStart, scan.bestLen, curStart, curLen⟩
  else { scan with curLen := 0 }

/-- The loop over `char_indices`, from a position in bytes on. -/
def scanRuns : Nat → RunScan → List Char → RunScan
  | _, scan, [] => scan
  | position, scan, char :: rest =>
    scanRuns (position + char.utf8Size) (scan.step position char) rest

def distinctChars (run : List Char) : Nat := run.dedup.length

def payloadThreat (length : Nat) (run : List Char) : DetectedThreat where
  category := .dataExfiltration
  patternName := "encoded-payload"
  description := toString length ++ "-char high-density base64/hex run — " ++
    "possible encoded instruction or exfiltrated data"
  matchedText := String.ofList (run.take 48)
  severity := .medium
  confidence := ⟨0x3fe6666666666666⟩  -- 0.7

def encodedPayload (detector : HeuristicDetector) (text : String) :
    Option (Option DetectedThreat) :=
  let best := scanRuns 0 ⟨0, 0, 0, 0⟩ text.toList
  if best.bestLen < detector.encodedRunLen then some none
  else
    (sliceFrom text.toList best.bestStart).map fun back =>
      let run := back.takeWhile isBase64ish
      if distinctChars run < 16 then none else some (payloadThreat best.bestLen run)

def tokensOf (unicode : HeuristicUnicode) (text : String) : List String :=
  (((unicode.casing.toLowercase text).toList.splitOnP fun char =>
    !unicode.isAlphanumeric char).map String.ofList).filter (· ≠ "")

/-- The nouns are counted as `u32`. -/
def nounCount (unicode : HeuristicUnicode) (text : String) : Nat :=
  (tokensOf unicode text).countP (· ∈ instructionNouns)

/-- `(0.6 + 0.1 * hits as f64).min(0.95)` -/
def overrideConfidence (hits : UInt32) : F64 :=
  match hits.toNat with
  | 0 => ⟨0x3fe3333333333333⟩
  | 1 => ⟨0x3fe6666666666666⟩
  | 2 => ⟨0x3fe999999999999a⟩
  | 3 => ⟨0x3feccccccccccccd⟩
  | _ => ⟨0x3fee666666666666⟩

def semanticOverride (unicode : HeuristicUnicode) (detector : HeuristicDetector)
    (text : String) : Option DetectedThreat :=
  let hasVerb := (tokensOf unicode text).any (· ∈ overrideVerbs)
  let nounHits := UInt32.ofNat (nounCount unicode text)
  if !hasVerb || nounHits < detector.overrideThreshold then none
  else some
    { category := .promptInjection
      patternName := "semantic-override"
      description := "Override verb co-occurs with instruction/rule references — " ++
        "likely a prompt-override attempt"
      matchedText := excerpt 64 text
      severity := .high
      confidence := overrideConfidence nounHits }

/-- `HeuristicDetector::scan`. None stands for a panic. -/
def heuristicScan (unicode : HeuristicUnicode) (detector : HeuristicDetector) (text : String) :
    Option (List DetectedThreat) := do
  let payload ← encodedPayload detector text
  return [invisibleChars text, mixedScript text, payload,
    semanticOverride unicode detector text].flatMap Option.toList

def RunScan.startAt (scan : RunScan) (position : Nat) : Nat :=
  if scan.curLen = 0 then position else scan.curStart

def RunScan.extend (scan : RunScan) (position count : Nat) : RunScan :=
  ⟨if scan.bestLen < scan.curLen + count then scan.startAt position else scan.bestStart,
    max scan.bestLen (scan.curLen + count), scan.startAt position, scan.curLen + count⟩

theorem extend_extend (scan : RunScan) (position next count : Nat) :
    (scan.extend position 1).extend next count = scan.extend position (count + 1) := by
  have inside : (scan.extend position 1).startAt next = scan.startAt position :=
    if_neg (Nat.succ_ne_zero _)
  have start : (if max scan.bestLen (scan.curLen + 1) < scan.curLen + 1 + count then
        scan.startAt position
      else if scan.bestLen < scan.curLen + 1 then scan.startAt position else scan.bestStart) =
      if scan.bestLen < scan.curLen + (count + 1) then scan.startAt position
      else scan.bestStart := by
    split_ifs <;> first | rfl | omega
  have best : max (max scan.bestLen (scan.curLen + 1)) (scan.curLen + 1 + count) =
      max scan.bestLen (scan.curLen + (count + 1)) := by
    omega
  have twice : (scan.extend position 1).extend next count =
      ⟨if max scan.bestLen (scan.curLen + 1) < scan.curLen + 1 + count then scan.startAt position
        else if scan.bestLen < scan.curLen + 1 then scan.startAt position else scan.bestStart,
        max (max scan.bestLen (scan.curLen + 1)) (scan.curLen + 1 + count), scan.startAt position,
        scan.curLen + 1 + count⟩ := by
    rw [RunScan.extend, inside]
    rfl
  rw [twice, start, best, Nat.add_assoc, Nat.add_comm 1 count]
  rfl

variable {run : List Char}

theorem scanRuns_run (nonempty : run ≠ []) (all : ∀ char ∈ run, isBase64ish char = true)
    (position : Nat) (scan : RunScan) (rest : List Char) : scanRuns position scan (run ++ rest) =
      scanRuns (position + byteLength run) (scan.extend position run.length) rest := by
  induction run generalizing position scan with
  | nil => exact absurd rfl nonempty
  | cons char run ih =>
    have passes := all char List.mem_cons_self
    have stepped : scan.step position char = scan.extend position 1 := by
      rw [RunScan.step, if_pos passes, RunScan.extend, RunScan.startAt]
      by_cases better : scan.bestLen < scan.curLen + 1
      · simp [better, max_eq_right better.le]
      · simp [better, max_eq_left (Nat.not_lt.mp better)]
    rw [List.cons_append, scanRuns, stepped, byteLength_cons]
    cases run with
    | nil => rfl
    | cons next run =>
      rw [ih (List.cons_ne_nil _ _)
        (fun other member => all other (List.mem_cons_of_mem char member)), extend_extend,
        Nat.add_assoc]
      rfl

def RunScan.Found (before after : RunScan) (position : Nat) (text : List Char) : Prop :=
  let run := longestRun isBase64ish text
  if before.bestLen < run.length then
    after.bestLen = run.length ∧ ∃ front back, text = front ++ back ∧
      after.bestStart = position + byteLength front ∧ back.takeWhile isBase64ish = run
  else after.bestLen = before.bestLen ∧ after.bestStart = before.bestStart

theorem found_nil (scan : RunScan) (position : Nat) : scan.Found scan position [] := by
  rw [RunScan.Found, if_neg]
  · exact ⟨rfl, rfl⟩
  · rw [longestRun_of_all (by simp)]
    exact Nat.not_lt_zero _

variable (all : ∀ char ∈ run, isBase64ish char = true)

include all

theorem scanRuns_run_separator {separator : Char} (ends : isBase64ish separator = false)
    (position : Nat) (scan : RunScan) (idle : scan.curLen = 0) (rest : List Char) :
    ∃ next, scanRuns position scan (run ++ separator :: rest) =
        scanRuns (position + byteLength (run ++ [separator])) next rest ∧
      next.curLen = 0 ∧ next.bestLen = max scan.bestLen run.length ∧
      next.bestStart = if scan.bestLen < run.length then position else scan.bestStart := by
  have stepped : ∀ (before : RunScan) (at_ : Nat),
      before.step at_ separator = { before with curLen := 0 } := by
    intro before at_
    rw [RunScan.step, ends]
    rfl
  rw [byteLength_append, byteLength_cons, ← Nat.add_assoc]
  by_cases empty : run = []
  · subst empty
    exact ⟨_, by rw [List.nil_append, scanRuns, stepped]; rfl, rfl, by simp, by simp⟩
  · refine ⟨{ scan.extend position run.length with curLen := 0 }, ?_, rfl, ?_, ?_⟩
    · rw [scanRuns_run empty all, scanRuns, stepped]
      rfl
    · simp [RunScan.extend, idle]
    · simp [RunScan.extend, RunScan.startAt, idle]

theorem found_run (position : Nat) (scan : RunScan) (idle : scan.curLen = 0) :
    scan.Found (scanRuns position scan run) position run := by
  by_cases empty : run = []
  · subst empty
    exact found_nil scan position
  · have looped := scanRuns_run empty all position scan []
    rw [List.append_nil, scanRuns] at looped
    rw [RunScan.Found, looped, longestRun_of_all all]
    simp only [RunScan.extend, RunScan.startAt, idle, if_true, Nat.zero_add]
    split_ifs with better
    · exact ⟨max_eq_right better.le, [], run, rfl, rfl, List.takeWhile_eq_self_iff.mpr all⟩
    · exact ⟨max_eq_left (Nat.not_lt.mp better), rfl⟩

omit all

theorem scanRuns_found (text : List Char) (position : Nat) (scan : RunScan)
    (idle : scan.curLen = 0) : scan.Found (scanRuns position scan text) position text := by
  induction size : text.length using Nat.strong_induction_on generalizing text position scan with
  | _ bound ih =>
    have split : text.takeWhile isBase64ish ++ text.dropWhile isBase64ish = text :=
      List.takeWhile_append_dropWhile
    have all : ∀ char ∈ text.takeWhile isBase64ish, isBase64ish char = true :=
      fun char member => List.mem_takeWhile_imp member
    obtain ⟨run, isRun⟩ : ∃ run, text.takeWhile isBase64ish = run := ⟨_, rfl⟩
    rw [isRun] at split all
    cases tail : text.dropWhile isBase64ish with
    | nil =>
      rw [tail, List.append_nil] at split
      subst split
      exact found_run all position scan idle
    | cons separator rest =>
      have ends : isBase64ish separator = false := by
        have head := List.head?_dropWhile_not isBase64ish text
        rw [tail] at head
        simpa using head
      rw [tail] at split
      obtain ⟨next, looped, nextIdle, nextBest, nextStart⟩ :=
        scanRuns_run_separator all ends position scan idle rest
      have shorter : rest.length < bound := by
        rw [← size, ← split, List.length_append, List.length_cons]
        omega
      have later := ih rest.length shorter rest
        (position + byteLength (run ++ [separator])) next nextIdle rfl
      rw [split] at looped
      rw [RunScan.Found] at later ⊢
      rw [looped]
      have longest := longestRun_run_append all ends rest
      rw [split] at longest
      simp only [longest]
      by_cases overtaken : run.length < (longestRun isBase64ish rest).length
      · -- a longer run follows
        rw [if_pos overtaken]
        by_cases better : scan.bestLen < (longestRun isBase64ish rest).length
        · rw [if_pos better]
          rw [if_pos (by rw [nextBest]; exact max_lt better overtaken)] at later
          obtain ⟨isBest, front, back, isRest, isStart, isLongest⟩ := later
          refine ⟨isBest, run ++ separator :: front, back, ?_, ?_, isLongest⟩
          · rw [← split, isRest, List.append_assoc, List.cons_append]
          · rw [isStart, Nat.add_assoc, ← byteLength_append, List.append_assoc,
              List.singleton_append]
        · rw [if_neg better]
          rw [if_neg (by rw [nextBest]; omega), nextBest, nextStart] at later
          rw [if_neg (by omega)] at later
          exact ⟨by omega, later.2⟩
      · rw [if_neg overtaken]
        rw [if_neg (by rw [nextBest]; omega), nextBest, nextStart] at later
        by_cases better : scan.bestLen < run.length
        · rw [if_pos better]
          rw [if_pos better] at later
          exact ⟨by omega, [], text, rfl, later.2, isRun⟩
        · rw [if_neg better]
          rw [if_neg better] at later
          exact ⟨by omega, later.2⟩

def payloadRun (text : String) : List Char := longestRun isBase64ish text.toList

theorem encodedPayload_eq (text : String) : encodedPayload .default text =
      some (if 64 ≤ (payloadRun text).length ∧ 16 ≤ distinctChars (payloadRun text) then
        some (payloadThreat (payloadRun text).length (payloadRun text)) else none) := by
  have found := scanRuns_found text.toList 0 ⟨0, 0, 0, 0⟩ rfl
  rw [RunScan.Found] at found
  rw [encodedPayload]
  generalize scanRuns 0 ⟨0, 0, 0, 0⟩ text.toList = best at found ⊢
  have limit : HeuristicDetector.default.encodedRunLen = 64 := rfl
  rw [limit]
  by_cases long : 64 ≤ (payloadRun text).length
  · have nonempty : 0 < (longestRun isBase64ish text.toList).length :=
      Nat.lt_of_lt_of_le (by decide) long
    rw [if_pos nonempty] at found
    obtain ⟨isBest, front, back, split, isStart, sameRun⟩ := found
    rw [Nat.zero_add] at isStart
    have slice : sliceFrom text.toList best.bestStart = some back := by
      rw [split, isStart, sliceFrom_append]
    change best.bestLen = (payloadRun text).length at isBest
    change back.takeWhile isBase64ish = payloadRun text at sameRun
    rw [if_neg (by omega), slice, Option.map_some, sameRun, isBest]
    by_cases varied : 16 ≤ distinctChars (payloadRun text)
    · rw [if_neg (Nat.not_lt.mpr varied), if_pos ⟨long, varied⟩]
    · rw [if_pos (Nat.not_le.mp varied), if_neg fun both => varied both.2]
  · have short : best.bestLen < 64 := by
      split_ifs at found
      · exact found.1 ▸ Nat.not_le.mp long
      · exact found.1 ▸ by decide
    rw [if_pos short, if_neg fun both => long both.1]

inductive Heuristic where
  | invisible
  | mixed
  | encoded
  | override
deriving DecidableEq

namespace Heuristic

def category : Heuristic → ThreatCategory
  | invisible => .promptInjection
  | mixed => .promptInjection
  | encoded => .dataExfiltration
  | override => .promptInjection

def name : Heuristic → String
  | invisible => "invisible-characters"
  | mixed => "homoglyph-obfuscation"
  | encoded => "encoded-payload"
  | override => "semantic-override"

def Fires (unicode : HeuristicUnicode) (text : String) : Heuristic → Prop
  | invisible => ∃ char ∈ text.toList, isInvisible char = true
  | mixed => ∃ word ∈ text.toList.splitOnP isWhitespace, isMixed word = true
  | encoded => 64 ≤ (payloadRun text).length ∧ 16 ≤ distinctChars (payloadRun text)
  | override => (∃ token ∈ tokensOf unicode text, token ∈ overrideVerbs) ∧
      nounCount unicode text % 2 ^ 32 ≠ 0

def report (unicode : HeuristicUnicode) (text : String) : Heuristic → Option DetectedThreat
  | invisible => invisibleChars text
  | mixed => mixedScript text
  | encoded => (encodedPayload .default text).join
  | override => semanticOverride unicode .default text

variable {unicode : HeuristicUnicode} {text : String}

theorem isSome_report_iff (heuristic : Heuristic) :
    (heuristic.report unicode text).isSome = true ↔ heuristic.Fires unicode text := by
  cases heuristic with
  | invisible =>
    simp only [report, invisibleChars, Fires]
    rw [← List.countP_pos_iff]
    split_ifs with none
    · simp [none]
    · simp [Nat.pos_of_ne_zero none]
  | mixed => simp only [report, mixedScript, Fires, Option.isSome_map, List.find?_isSome]
  | encoded =>
    simp only [report, encodedPayload_eq, Fires, Option.join_some]
    split_ifs with both
    · exact iff_of_true rfl both
    · exact iff_of_false Bool.false_ne_true both
  | override =>
    have hits : UInt32.ofNat (nounCount unicode text) <
        HeuristicDetector.default.overrideThreshold ↔ nounCount unicode text % 2 ^ 32 = 0 := by
      rw [UInt32.lt_iff_toNat_lt, UInt32.toNat_ofNat']
      exact Nat.lt_one_iff
    have verbs : (tokensOf unicode text).any (· ∈ overrideVerbs) = true ↔
        ∃ token ∈ tokensOf unicode text, token ∈ overrideVerbs := by
      simp only [List.any_eq_true, decide_eq_true_eq]
    simp only [report, semanticOverride, Fires]
    rw [← verbs, Ne, ← hits]
    split_ifs with silent
    · refine iff_of_false Bool.false_ne_true fun both => ?_
      rw [Bool.or_eq_true, Bool.not_eq_true', decide_eq_true_eq] at silent
      exact silent.elim (fun noVerb => Bool.false_ne_true (noVerb ▸ both.1)) both.2
    · refine iff_of_true rfl ?_
      rw [Bool.or_eq_true, Bool.not_eq_true', decide_eq_true_eq, not_or,
        Bool.not_eq_false] at silent
      exact silent

theorem named_report {heuristic : Heuristic} {threat : DetectedThreat}
    (isReport : heuristic.report unicode text = some threat) :
    threat.category = heuristic.category ∧ threat.patternName = heuristic.name := by
  cases heuristic with
  | invisible =>
    simp only [report, invisibleChars] at isReport
    split_ifs at isReport
    cases isReport
    exact ⟨rfl, rfl⟩
  | mixed =>
    obtain ⟨word, _, rfl⟩ := Option.map_eq_some_iff.mp isReport
    exact ⟨rfl, rfl⟩
  | encoded =>
    rw [report, encodedPayload_eq, Option.join_some] at isReport
    split_ifs at isReport
    cases isReport
    exact ⟨rfl, rfl⟩
  | override =>
    simp only [report, semanticOverride] at isReport
    split_ifs at isReport
    cases isReport
    exact ⟨rfl, rfl⟩

theorem name_injective : Function.Injective name := by
  intro left right same
  cases left <;> cases right <;> first | rfl | simp [name] at same

end Heuristic

def Reports (unicode : HeuristicUnicode) (text : String) (category : ThreatCategory)
    (name : String) : Prop :=
  ∃ threats, heuristicScan unicode .default text = some threats ∧
    ∃ threat ∈ threats, threat.category = category ∧ threat.patternName = name

section Reports

open Heuristic

variable {unicode : HeuristicUnicode} {text : String}

theorem heuristicScan_eq : heuristicScan unicode .default text =
      some ([invisible, mixed, encoded, override].flatMap fun heuristic =>
        (heuristic.report unicode text).toList) := by
  rw [heuristicScan, encodedPayload_eq]
  simp only [report, encodedPayload_eq, Option.join_some]
  rfl

theorem reports_iff {category : ThreatCategory} {name : String} :
    Reports unicode text category name ↔
      ∃ heuristic : Heuristic, heuristic.Fires unicode text ∧ heuristic.category = category ∧
        heuristic.name = name := by
  simp only [Reports, heuristicScan_eq, Option.some.injEq, exists_eq_left', List.mem_flatMap,
    Option.mem_toList]
  constructor
  · rintro ⟨threat, ⟨heuristic, _, isReport⟩, rfl, rfl⟩
    obtain ⟨sameCategory, sameName⟩ := named_report isReport
    refine ⟨heuristic, (isSome_report_iff heuristic).mp ?_, sameCategory.symm, sameName.symm⟩
    rw [isReport]
    rfl
  · rintro ⟨heuristic, fires, rfl, rfl⟩
    obtain ⟨threat, isReport⟩ :=
      Option.isSome_iff_exists.mp ((isSome_report_iff heuristic).mpr fires)
    exact ⟨threat, ⟨heuristic, by cases heuristic <;> simp, isReport⟩, named_report isReport⟩

theorem reports_name_iff (heuristic : Heuristic) :
    Reports unicode text heuristic.category heuristic.name ↔ heuristic.Fires unicode text := by
  rw [reports_iff]
  constructor
  · rintro ⟨other, fires, -, sameName⟩
    exact name_injective sameName ▸ fires
  · exact fun fires => ⟨heuristic, fires, rfl, rfl⟩

end Reports

section Padding

open Heuristic

variable {unicode : HeuristicUnicode} {left right : String}

theorem joined_toList (left right : String) :
    (left ++ "\n" ++ right).toList = left.toList ++ '\n' :: right.toList := by
  simp

theorem tokensOf_joined (lawful : unicode.Lawful) (left right : String) :
    tokensOf unicode (left ++ "\n" ++ right) = tokensOf unicode left ++ tokensOf unicode right := by
  rw [tokensOf, lawful.lines, joined_toList,
    List.splitOnP_append_cons _ _ (by rw [lawful.lineBreak]; rfl), List.map_append,
    List.filter_append]
  rfl

theorem nounCount_joined (lawful : unicode.Lawful) (left right : String) :
    nounCount unicode (left ++ "\n" ++ right) =
      nounCount unicode left + nounCount unicode right := by
  rw [nounCount, tokensOf_joined lawful, List.countP_append]
  rfl

theorem payloadRun_joined (left right : String) : payloadRun (left ++ "\n" ++ right) =
      if (payloadRun left).length < (payloadRun right).length then payloadRun right
      else payloadRun left := by
  rw [payloadRun, joined_toList, longestRun_append (by decide)]
  rfl

theorem fires_joined (lawful : unicode.Lawful) {heuristic : Heuristic}
    (notEncoded : heuristic ≠ .encoded)
    (few : heuristic = .override → nounCount unicode (left ++ "\n" ++ right) < 2 ^ 32)
    (fires : heuristic.Fires unicode left ∨ heuristic.Fires unicode right) :
    heuristic.Fires unicode (left ++ "\n" ++ right) := by
  cases heuristic with
  | invisible =>
    simp only [Fires, joined_toList, List.mem_append, List.mem_cons] at fires ⊢
    obtain ⟨char, member, isInvisible⟩ | ⟨char, member, isInvisible⟩ := fires
    · exact ⟨char, .inl member, isInvisible⟩
    · exact ⟨char, .inr (.inr member), isInvisible⟩
  | mixed =>
    simp only [Fires, joined_toList] at fires ⊢
    rw [List.splitOnP_append_cons _ _ (by decide)]
    simp only [List.mem_append]
    obtain ⟨word, member, isMixed⟩ | ⟨word, member, isMixed⟩ := fires
    · exact ⟨word, .inl member, isMixed⟩
    · exact ⟨word, .inr member, isMixed⟩
  | encoded => exact absurd rfl notEncoded
  | override =>
    have bound := few rfl
    simp only [Fires, tokensOf_joined lawful, List.mem_append] at fires ⊢
    rw [nounCount_joined lawful] at bound ⊢
    obtain ⟨⟨token, member, isVerb⟩, some⟩ | ⟨⟨token, member, isVerb⟩, some⟩ := fires
    · exact ⟨⟨token, .inl member, isVerb⟩, by omega⟩
    · exact ⟨⟨token, .inr member, isVerb⟩, by omega⟩

def Stays (unicode : HeuristicUnicode) (text padded : String) : Prop :=
  ∀ category name, Reports unicode text category name → name ≠ "encoded-payload" →
    (name = "semantic-override" → nounCount unicode padded < 2 ^ 32) →
      Reports unicode padded category name

theorem stays_of_fires {text padded : String}
    (keeps : ∀ heuristic : Heuristic, heuristic ≠ .encoded →
      (heuristic = .override → nounCount unicode padded < 2 ^ 32) →
        heuristic.Fires unicode text → heuristic.Fires unicode padded) :
    Stays unicode text padded := by
  intro category name reports notEncoded few
  obtain ⟨heuristic, fires, rfl, rfl⟩ := reports_iff.mp reports
  refine (reports_name_iff heuristic).mpr (keeps heuristic ?_ ?_ fires)
  · rintro rfl
    exact notEncoded rfl
  · rintro rfl
    exact few rfl

/-- Padding hides no report but that of a payload, and hides that exactly if the run of the
padding takes the place of the payload's and is not varied. -/
theorem padded_reports (lawful : unicode.Lawful) (text other : String) :
    Stays unicode text (text ++ "\n" ++ other) ∧ Stays unicode text (other ++ "\n" ++ text) ∧
      (Reports unicode text .dataExfiltration "encoded-payload" →
        (Reports unicode (text ++ "\n" ++ other) .dataExfiltration "encoded-payload" ↔
          (payloadRun other).length ≤ (payloadRun text).length ∨
            16 ≤ distinctChars (payloadRun other)) ∧
        (Reports unicode (other ++ "\n" ++ text) .dataExfiltration "encoded-payload" ↔
          (payloadRun other).length < (payloadRun text).length ∨
            16 ≤ distinctChars (payloadRun other))) := by
  refine ⟨stays_of_fires fun heuristic notEncoded few fires =>
      fires_joined lawful notEncoded few (.inl fires),
    stays_of_fires fun heuristic notEncoded few fires =>
      fires_joined lawful notEncoded few (.inr fires), ?_⟩
  have encodedIff := fun text => @reports_name_iff unicode text .encoded
  simp only [category, name, Fires] at encodedIff
  simp only [encodedIff, payloadRun_joined]
  rintro ⟨long, varied⟩
  constructor
  · split_ifs with longer
    · exact ⟨fun both => .inr both.2, fun either => ⟨by omega, either.resolve_left (by omega)⟩⟩
    · exact iff_of_true ⟨long, varied⟩ (.inl (by omega))
  · split_ifs with longer
    · exact iff_of_true ⟨long, varied⟩ (.inl longer)
    · exact ⟨fun both => .inr both.2, fun either => ⟨by omega, either.resolve_left longer⟩⟩

end Padding

def asciiUnicode : HeuristicUnicode := ⟨asciiCase, Char.isAlphanum⟩

theorem asciiUnicode_lawful : asciiUnicode.Lawful where
  lines left right := by
    rw [← String.toList_inj]
    simp [asciiUnicode, asciiCase]
  lineBreak := by decide

def samplePayload : String :=
  "QWxsIHlvdXIgYmFzZTY0IGFyZSBiZWxvbmcgdG8gdXMgYW5kIHRoaXMgaXMgYSBsb25nZXIgc3RyaW5n"

theorem samplePayload_reported :
    Reports asciiUnicode samplePayload .dataExfiltration "encoded-payload" :=
  (reports_name_iff .encoded).mpr (by unfold Heuristic.Fires; decide +kernel)

theorem payload_stays_before_text :
    asciiUnicode.Lawful ∧
      Reports asciiUnicode (samplePayload ++ "\n" ++ "hello") .dataExfiltration
        "encoded-payload" := by
  have padded :=
    (padded_reports asciiUnicode_lawful samplePayload "hello").2.2 samplePayload_reported
  exact ⟨asciiUnicode_lawful, padded.1.mpr (.inl (by decide +kernel))⟩

/-- A hundred letters `A` after the payload hide it. -/
theorem payload_hidden_by_repeated_char :
    Reports asciiUnicode samplePayload .dataExfiltration "encoded-payload" ∧
      ¬ Reports asciiUnicode
        (samplePayload ++ "\n" ++ String.ofList (List.replicate 100 'A')) .dataExfiltration
        "encoded-payload" := by
  refine ⟨samplePayload_reported, mt (reports_name_iff .encoded).mp ?_⟩
  unfold Heuristic.Fires
  decide +kernel

end QuantaWatch.Monitor
