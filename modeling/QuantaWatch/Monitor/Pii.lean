import QuantaWatch.Lib.Regex
import QuantaWatch.Lib.Text
import QuantaWatch.Monitor.SecurityMonitor

/-!
The detector of personal data (`qw-monitor/src/pii.rs`, `patterns.rs`).
-/

namespace QuantaWatch.Monitor

open Lib Lib.Json Lib.Text

structure PiiUnicode where
  /-- `\d` -/
  isDigit : Char → Bool
  /-- The characters of words, for `\b`. -/
  isWord : Char → Bool

structure PatternRule where
  name : String
  regex : Regex
  category : ThreatCategory
  severity : Severity
  description : String
  confidence : F64

def asciiAlphanumeric (char : Char) : Bool :=
  ('a' ≤ char && char ≤ 'z') || ('A' ≤ char && char ≤ 'Z') || ('0' ≤ char && char ≤ '9')

def asciiAlphabetic (char : Char) : Bool :=
  ('a' ≤ char && char ≤ 'z') || ('A' ≤ char && char ≤ 'Z')

section Patterns

variable (unicode : PiiUnicode)

/-- `\d{count}` -/
def digits (count : Nat) : Regex := .exactly unicode.isDigit count

def separator (others : List Char) : Regex :=
  .opt (.oneOf fun char => isWhitespace char || Regex.within others char)

def dash : Regex := .oneOf (· = '-')

/-- `\b\d{3}-\d{2}-\d{4}\b` -/
def ssnRegex : Regex :=
  .seq (.boundary unicode.isWord) <| .seq (digits unicode 3) <| .seq dash <|
    .seq (digits unicode 2) <| .seq dash <| .seq (digits unicode 4) (.boundary unicode.isWord)

/-- `\d{4}[\s-]?\d{4}[\s-]?\d{4}[\s-]?\d{4}` -/
def creditCardRegex : Regex :=
  .seq (digits unicode 4) <| .seq (separator ['-']) <| .seq (digits unicode 4) <|
    .seq (separator ['-']) <| .seq (digits unicode 4) <| .seq (separator ['-']) (digits unicode 4)

/-- `[a-zA-Z0-9._%+-]+@[a-zA-Z0-9.-]+\.[a-zA-Z]{2,}` -/
def emailRegex : Regex :=
  .seq (.atLeast (fun char => asciiAlphanumeric char || Regex.within ['.', '_', '%', '+', '-'] char)
    1) <| .seq (.oneOf (· = '@')) <|
    .seq (.atLeast (fun char => asciiAlphanumeric char || Regex.within ['.', '-'] char) 1) <|
      .seq (.oneOf (· = '.')) (.atLeast asciiAlphabetic 2)

/-- `\d{3}[-.\s]?\d{3}[-.\s]?\d{4}` -/
def phoneRegex : Regex :=
  .seq (digits unicode 3) <| .seq (separator ['-', '.']) <| .seq (digits unicode 3) <|
    .seq (separator ['-', '.']) (digits unicode 4)

def ssnRule : PatternRule where
  name := "ssn"
  regex := ssnRegex unicode
  category := .piiExposure
  severity := .critical
  description := "Social Security Number detected"
  confidence := ⟨0x3feccccccccccccd⟩  -- 0.9

def creditCardRule : PatternRule where
  name := "credit_card"
  regex := creditCardRegex unicode
  category := .piiExposure
  severity := .critical
  description := "Credit card number detected"
  confidence := ⟨0x3feb333333333333⟩  -- 0.85

def emailRule : PatternRule where
  name := "email"
  regex := emailRegex
  category := .piiExposure
  severity := .low
  description := "Email address detected"
  confidence := ⟨0x3fe999999999999a⟩  -- 0.8

def phoneRule : PatternRule where
  name := "phone_us"
  regex := phoneRegex unicode
  category := .piiExposure
  severity := .medium
  description := "US phone number detected"
  confidence := ⟨0x3fe6666666666666⟩  -- 0.7

def piiPatterns : List PatternRule :=
  [ssnRule unicode, creditCardRule unicode, emailRule, phoneRule unicode]

end Patterns

def redactMatch (found : List Char) : Option String :=
  if byteLength found ≤ 4 then some "****"
  else do
    let front ← sliceTo found 2
    let back ← sliceFrom found (byteLength found - 2)
    return String.ofList (front ++ List.replicate (byteLength found - 4) '*' ++ back)

def PatternRule.scan (rule : PatternRule) (text : String) : Option (List DetectedThreat) :=
  match rule.regex.find text.toList with
  | none => some []
  | some found =>
    (redactMatch found).map fun matched =>
      [{ category := rule.category
         patternName := rule.name
         description := rule.description
         matchedText := matched
         severity := rule.severity
         confidence := rule.confidence }]

def scanRules (text : String) : List PatternRule → Option (List DetectedThreat)
  | [] => some []
  | rule :: rules => do
    let threats ← rule.scan text
    let others ← scanRules text rules
    return threats ++ others

/-- `PiiDetector::scan`. None stands for a panic. -/
def piiScan (unicode : PiiUnicode) (text : String) : Option (List DetectedThreat) :=
  scanRules text (piiPatterns unicode)

def TwoBytes : List Char → Prop
  | [] => False
  | [char] => char.utf8Size = 2
  | first :: second :: _ => first.utf8Size = 2 ∨ first.utf8Size = 1 ∧ second.utf8Size = 1

def Cuttable (found : List Char) : Prop := TwoBytes found ∧ TwoBytes found.reverse

def Covers (found : List Char) (shown : String) : Prop :=
  ∃ front back count, shown.toList = front ++ List.replicate count '*' ++ back ∧
    front <+: found.take 2 ∧ back <:+ found.drop (found.length - 2)

theorem length_le_two {piece : List Char} (size : byteLength piece = 2) : piece.length ≤ 2 :=
  size ▸ length_le_byteLength piece

variable {found : List Char} {rules : List PatternRule}

theorem exists_piece_iff :
    (∃ front rest, byteLength front = 2 ∧ found = front ++ rest) ↔ TwoBytes found := by
  constructor
  · rintro ⟨front, rest, size, rfl⟩
    have short := length_le_two size
    rcases front with _ | ⟨first, _ | ⟨second, _ | ⟨third, front⟩⟩⟩
    · simp [byteLength] at size
    · have isTwo : first.utf8Size = 2 := by simpa [byteLength] using size
      cases rest with
      | nil => exact isTwo
      | cons next rest => exact .inl isTwo
    · have firstPositive := Char.utf8Size_pos first
      have secondPositive := Char.utf8Size_pos second
      have both : first.utf8Size + second.utf8Size = 2 := by simpa [byteLength] using size
      exact .inr ⟨by omega, by omega⟩
    · simp at short
  · intro starts
    rcases found with _ | ⟨first, _ | ⟨second, rest⟩⟩
    · exact starts.elim
    · exact ⟨[first], [], by simpa [byteLength, TwoBytes] using starts, rfl⟩
    · obtain isTwo | ⟨firstOne, secondOne⟩ := starts
      · exact ⟨[first], second :: rest, by simpa [byteLength] using isTwo, rfl⟩
      · exact ⟨[first, second], rest, by simp [byteLength, firstOne, secondOne], rfl⟩

theorem isSome_redactMatch_iff (long : 4 < byteLength found) :
    (redactMatch found).isSome = true ↔ Cuttable found := by
  have front : (∃ front, sliceTo found 2 = some front) ↔ TwoBytes found := by
    simp only [sliceTo_eq_some_iff]
    rw [← exists_piece_iff]
    exact ⟨fun ⟨front, size, rest, split⟩ => ⟨front, rest, size, split⟩,
      fun ⟨front, rest, size, split⟩ => ⟨front, size, rest, split⟩⟩
  have back : (∃ back, sliceFrom found (byteLength found - 2) = some back) ↔
      TwoBytes found.reverse := by
    simp only [sliceFrom_eq_some_iff]
    rw [← exists_piece_iff]
    constructor
    · rintro ⟨back, front, size, split⟩
      refine ⟨back.reverse, front.reverse, ?_, by rw [split, List.reverse_append]⟩
      rw [split, byteLength_append] at size long
      rw [byteLength_reverse]
      omega
    · rintro ⟨piece, rest, size, split⟩
      have turned : found = rest.reverse ++ piece.reverse := by
        rw [← List.reverse_append, ← split, List.reverse_reverse]
      refine ⟨piece.reverse, rest.reverse, ?_, turned⟩
      rw [turned, byteLength_append, byteLength_reverse piece, size, Nat.add_sub_cancel]
  rw [Cuttable, ← front, ← back, redactMatch, if_neg (by omega)]
  simp [Option.isSome_iff_exists, Option.bind_eq_some_iff]

theorem covers_of_redactMatch {shown : String} (long : 4 < byteLength found)
    (isShown : redactMatch found = some shown) : Covers found shown := by
  rw [redactMatch, if_neg (by omega)] at isShown
  simp only [bind, Option.bind_eq_some_iff, pure, Option.some.injEq] at isShown
  obtain ⟨front, isFront, back, isBack, rfl⟩ := isShown
  obtain ⟨frontSize, rest, frontSplit⟩ := sliceTo_eq_some_iff.mp isFront
  obtain ⟨before, beforeSize, backSplit⟩ := sliceFrom_eq_some_iff.mp isBack
  have backSize : byteLength back = 2 := by
    rw [backSplit, byteLength_append] at beforeSize long
    omega
  refine ⟨front, back, _, String.toList_ofList, ?_, ?_⟩
  · rw [List.prefix_take_iff]
    exact ⟨⟨rest, frontSplit.symm⟩, length_le_two frontSize⟩
  · have short := length_le_two backSize
    have drops : found.drop (found.length - 2) =
        before.drop (found.length - 2) ++ back := by
      have within : found.length - 2 ≤ before.length := by
        rw [backSplit, List.length_append]
        omega
      conv_lhs => rw [backSplit]
      rw [List.drop_append_of_le_length (by rwa [← backSplit])]
      rw [← backSplit]
    rw [drops]
    exact List.suffix_append _ _

theorem isSome_scanRules_iff {text : String} :
    (scanRules text rules).isSome = true ↔ ∀ rule ∈ rules, (rule.scan text).isSome = true := by
  induction rules with
  | nil => simp [scanRules]
  | cons rule rules ih =>
    rw [List.forall_mem_cons, ← ih]
    simp [scanRules, Option.isSome_iff_exists, Option.bind_eq_some_iff]

theorem exists_rule_of_mem_scanRules {text : String} {threats : List DetectedThreat}
    (isScan : scanRules text rules = some threats) {threat : DetectedThreat}
    (member : threat ∈ threats) : ∃ rule ∈ rules, threat.patternName = rule.name ∧
      ∃ found, rule.regex.find text.toList = some found ∧
        redactMatch found = some threat.matchedText := by
  induction rules generalizing threats with
  | nil =>
    rw [scanRules, Option.some.injEq] at isScan
    rw [← isScan] at member
    exact absurd member List.not_mem_nil
  | cons rule rules ih =>
    simp only [scanRules, bind, Option.bind_eq_some_iff, pure, Option.some.injEq] at isScan
    obtain ⟨reported, isReported, others, isOthers, rfl⟩ := isScan
    obtain here | later := List.mem_append.mp member
    · rw [PatternRule.scan] at isReported
      cases isFound : rule.regex.find text.toList with
      | none =>
        rw [isFound, Option.some.injEq] at isReported
        rw [← isReported] at here
        exact absurd here List.not_mem_nil
      | some found =>
        rw [isFound] at isReported
        obtain ⟨shown, isShown, rfl⟩ := Option.map_eq_some_iff.mp isReported
        rw [List.mem_singleton.mp here]
        exact ⟨rule, List.mem_cons_self, rfl, found, isFound, isShown⟩
    · obtain ⟨other, isRule, report⟩ := ih isOthers later
      exact ⟨other, List.mem_cons_of_mem rule isRule, report⟩

theorem isSome_scan_iff {rule : PatternRule} {text : String} : (rule.scan text).isSome = true ↔
      ∀ found ∈ rule.regex.find text.toList, 4 < byteLength found → Cuttable found := by
  rw [PatternRule.scan]
  cases isFound : rule.regex.find text.toList with
  | none => simp
  | some found =>
    simp only [Option.isSome_map, Option.mem_some_iff, forall_eq']
    by_cases long : 4 < byteLength found
    · simp [isSome_redactMatch_iff long, long]
    · simp [redactMatch, long, Nat.not_lt.mp long]

theorem utf8Size_of_mem_email {text : List Char}
    (isFound : emailRegex.find text = some found) {char : Char} (member : char ∈ found) :
    char.utf8Size = 1 := by
  by_contra wide
  rw [Char.utf8Size_eq_one_iff, UInt32.not_le] at wide
  have large : ∀ other : Char, other.val ≤ 127 → other < char :=
    fun other small => Char.lt_def.mpr (UInt32.lt_of_le_of_lt small wide)
  have differs : ∀ other : Char, other.val ≤ 127 → char ≠ other :=
    fun other small => (large other small).ne'
  have letters : asciiAlphabetic char = false := by
    simp [asciiAlphabetic, large 'z' (by decide), large 'Z' (by decide)]
  have alphanumeric : asciiAlphanumeric char = false := by
    simp [asciiAlphanumeric, large 'z' (by decide), large 'Z' (by decide), large '9' (by decide)]
  refine Regex.not_mem_of_find ?_ isFound member
  simp [emailRegex, Regex.avoids, Regex.atLeast, Regex.exactly, Regex.within, letters,
    alphanumeric, differs '.' (by decide), differs '_' (by decide), differs '%' (by decide),
    differs '+' (by decide), differs '-' (by decide), differs '@' (by decide)]

theorem twoBytes_of_ascii (long : 4 < byteLength found)
    (narrow : ∀ char ∈ found, char.utf8Size = 1) : TwoBytes found := by
  match found with
  | [] => simp [byteLength] at long
  | [char] =>
    have one := narrow char List.mem_cons_self
    simp [byteLength, one] at long
  | first :: second :: _ => exact .inr ⟨narrow first (by simp), narrow second (by simp)⟩

theorem cuttable_email {text : List Char} (isFound : emailRegex.find text = some found)
    (long : 4 < byteLength found) : Cuttable found := by
  have narrow := fun char (member : char ∈ found) => utf8Size_of_mem_email isFound member
  refine ⟨twoBytes_of_ascii long narrow, twoBytes_of_ascii ?_ ?_⟩
  · rw [byteLength_reverse]
    exact long
  · intro char member
    exact narrow char (List.mem_reverse.mp member)

section Numbers

variable {unicode : PiiUnicode} {text : String}

def numberRules (unicode : PiiUnicode) : List PatternRule :=
  [ssnRule unicode, creditCardRule unicode, phoneRule unicode]

theorem long_number {rule : PatternRule} (isRule : rule ∈ numberRules unicode)
    {chars found : List Char} (isFound : rule.regex.find chars = some found) :
    4 < byteLength found := by
  have least : 10 ≤ rule.regex.leastLength := by
    simp only [numberRules, List.mem_cons, List.not_mem_nil, or_false] at isRule
    obtain rfl | rfl | rfl := isRule
    · exact show 10 ≤ 11 by decide
    · exact show 10 ≤ 16 by decide
    · exact le_refl 10
  have chars := Regex.leastLength_le_of_find isFound
  have bytes := length_le_byteLength found
  omega

theorem rule_eq_of_name {rule other : PatternRule} (isRule : rule ∈ piiPatterns unicode)
    (isOther : other ∈ piiPatterns unicode) (same : rule.name = other.name) : rule = other := by
  have distinct : ((piiPatterns unicode).map PatternRule.name).Nodup := by
    rw [show (piiPatterns unicode).map PatternRule.name =
      ["ssn", "credit_card", "email", "phone_us"] from rfl]
    decide
  exact List.inj_on_of_nodup_map distinct isRule isOther same

def ReportsLittle (unicode : PiiUnicode) (text : String) : Prop :=
  ∃ threats, piiScan unicode text = some threats ∧
    ∀ threat ∈ threats, ∀ rule ∈ piiPatterns unicode, rule.name = threat.patternName →
      ∀ found ∈ rule.regex.find text.toList, 4 < byteLength found →
        Covers found threat.matchedText

theorem reportsLittle_iff_isSome :
    ReportsLittle unicode text ↔ (piiScan unicode text).isSome = true := by
  rw [ReportsLittle, Option.isSome_iff_exists]
  refine exists_congr fun threats => and_iff_left_of_imp fun isScan => ?_
  intro threat member rule isRule sameName found isFound long
  obtain ⟨reporting, isReporting, isName, match_, isMatch, isShown⟩ :=
    exists_rule_of_mem_scanRules isScan member
  have same := rule_eq_of_name isRule isReporting (sameName.trans isName)
  subst same
  rw [Option.mem_def, isMatch, Option.some.injEq] at isFound
  subst isFound
  exact covers_of_redactMatch long isShown

/-- The scan is safe exactly if the first match of each number pattern starts and ends with two
bytes that are whole characters. -/
theorem reportsLittle_iff :
    ReportsLittle unicode text ↔
      ∀ rule ∈ numberRules unicode, ∀ found ∈ rule.regex.find text.toList, Cuttable found := by
  rw [reportsLittle_iff_isSome, piiScan, isSome_scanRules_iff]
  simp only [isSome_scan_iff]
  constructor
  · intro all rule isRule found isFound
    have isPattern : rule ∈ piiPatterns unicode := by
      simp only [numberRules, piiPatterns, List.mem_cons, List.not_mem_nil, or_false] at isRule ⊢
      tauto
    exact all rule isPattern found isFound (long_number isRule isFound)
  · intro numbers rule isRule found isFound long
    simp only [piiPatterns, List.mem_cons, List.not_mem_nil, or_false] at isRule
    obtain rfl | rfl | rfl | rfl := isRule
    · exact numbers _ (by simp [numberRules]) found isFound
    · exact numbers _ (by simp [numberRules]) found isFound
    · exact cuttable_email isFound long
    · exact numbers _ (by simp [numberRules]) found isFound

end Numbers

/-- Devanagari digits belong to `\d`. -/
def sampleUnicode : PiiUnicode where
  isDigit char := char.isDigit || (0x966 ≤ char.toNat && char.toNat ≤ 0x96F)
  isWord char := char.isAlphanum || char = '_' || (0x966 ≤ char.toNat && char.toNat ≤ 0x96F)

theorem devanagari_number_panics :
    piiScan sampleUnicode "SSN: १२३-४५-६७८९" = none ∧
      ¬ ReportsLittle sampleUnicode "SSN: १२३-४५-६७८९" := by
  have panics : piiScan sampleUnicode "SSN: १२३-४५-६७८९" = none := by decide +kernel
  refine ⟨panics, ?_⟩
  rw [reportsLittle_iff_isSome, panics]
  exact Bool.false_ne_true

end QuantaWatch.Monitor
