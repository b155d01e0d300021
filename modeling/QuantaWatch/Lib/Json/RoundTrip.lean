import QuantaWatch.Lib.Json.Text

/-!
The strict parser inverts the compact printer, up to the rounding of
floats.
-/

namespace QuantaWatch.Lib.Json

open Lib.Encoding

variable {value : Nat} {floats : FloatText}

theorem hexValue_hexDigit (small : value < 16) : hexValue (hexDigit value) = some value := by
  have all : ∀ digit < 16, hexValue (hexDigit digit) = some digit := by decide
  exact all value small

theorem hexUnit_control (small : value < 256) :
    hexUnit '0' '0' (hexDigit (value / 16)) (hexDigit (value % 16)) = some value := by
  have zero : hexValue '0' = some 0 := by decide
  simp only [hexUnit, zero, hexValue_hexDigit (show value / 16 < 16 by omega),
    hexValue_hexDigit (show value % 16 < 16 by omega)]
  congr 1
  omega

variable {char : Char} {rest exponent fraction tail : List Char}

theorem parseString_plain (notQuote : char ≠ '"') (notSlash : char ≠ '\\')
    (visible : 32 ≤ char.toNat) :
    parseString (char :: rest) = pushChar char (parseString rest) := by
  rw [parseString.eq_def]
  simp only [if_neg notQuote, if_neg notSlash, if_neg (show ¬ char.toNat < 32 by omega)]

theorem parseString_simpleEscape {escape plain : Char} (notUnicode : escape ≠ 'u')
    (known : simpleEscape escape = some plain) :
    parseString ('\\' :: escape :: rest) = pushChar plain (parseString rest) := by
  rw [parseString.eq_def]
  simp only [if_neg (show ¬ '\\' = '"' by decide), ↓reduceIte, if_neg notUnicode, known]

theorem parseString_controlEscape (rest : List Char) (small : value < 32) :
    parseString ('\\' :: 'u' :: '0' :: '0' :: hexDigit (value / 16) :: hexDigit (value % 16)
      :: rest) = pushChar (Char.ofNat value) (parseString rest) := by
  rw [parseString.eq_def]
  simp only [if_neg (show ¬ '\\' = '"' by decide), ↓reduceIte,
    hexUnit_control (show value < 256 by omega)]
  rw [if_neg (by omega), if_neg (by omega)]

theorem parseString_escapeChar (char : Char) (rest : List Char) :
    parseString (escapeChar char ++ rest) = pushChar char (parseString rest) := by
  rcases escapeChar_cases char with ⟨letter, member, known, escapes⟩ | ⟨control, escapes⟩ |
    ⟨quote, slash, visible, escapes⟩
  · have notUnicode : letter ≠ 'u' := by
      rintro rfl
      simp at member
    rw [escapes]
    exact parseString_simpleEscape notUnicode known
  · have read := parseString_controlEscape rest control
    rw [Char.ofNat_toNat] at read
    rw [escapes]
    exact read
  · rw [escapes]
    exact parseString_plain quote slash visible

theorem parseString_flatMap_escapeChar (text rest : List Char) :
    parseString (text.flatMap escapeChar ++ '"' :: rest) = some (text, rest) := by
  induction text with
  | nil => rw [List.flatMap_nil, List.nil_append, parseString.eq_def]; rfl
  | cons char text ih =>
    rw [List.flatMap_cons, List.append_assoc, parseString_escapeChar, ih]
    rfl

def NumberEnd (rest : List Char) : Prop :=
  ∀ char tail, rest = char :: tail →
    char.isDigit = false ∧ char ≠ '.' ∧ char ≠ 'e' ∧ char ≠ 'E'

theorem numberEnd_nil : NumberEnd [] := by
  intro char tail equal
  cases equal

theorem numberEnd_cons (notDigit : char.isDigit = false) (notPoint : char ≠ '.')
    (notLower : char ≠ 'e') (notUpper : char ≠ 'E') : NumberEnd (char :: rest) := by
  rintro other tail equal
  cases equal
  exact ⟨notDigit, notPoint, notLower, notUpper⟩

theorem takeWhile_digits {digits : List Char} (rest : List Char)
    (all : ∀ char ∈ digits, char.isDigit = true)
    (stop : ∀ char tail, rest = char :: tail → char.isDigit = false) :
    (digits ++ rest).takeWhile Char.isDigit = digits ∧
      (digits ++ rest).dropWhile Char.isDigit = rest := by
  induction digits with
  | nil =>
    cases rest with
    | nil => simp
    | cons char tail => simp [stop char tail rfl]
  | cons digit digits ih =>
    obtain ⟨taken, dropped⟩ := ih fun char member => all char (by simp [member])
    simp [all digit (by simp), taken, dropped]

def IsFraction (text : List Char) : Prop :=
  text = [] ∨ ∃ digits, digits ≠ [] ∧ (∀ char ∈ digits, char.isDigit = true) ∧ text = '.' :: digits

def IsExponent (text : List Char) : Prop :=
  text = [] ∨ ∃ mark sign digits, (mark = 'e' ∨ mark = 'E') ∧
    (sign = [] ∨ sign = ['+'] ∨ sign = ['-']) ∧ digits ≠ [] ∧
    (∀ char ∈ digits, char.isDigit = true) ∧ text = mark :: (sign ++ digits)

theorem parseExponent_append (shape : IsExponent exponent) (after : NumberEnd rest) :
    parseExponent (exponent ++ rest) = some (exponent, rest) := by
  rcases shape with rfl | ⟨mark, sign, digits, markCase, signCase, nonempty, all, rfl⟩
  · cases rest with
    | nil => rfl
    | cons char tail =>
      obtain ⟨-, -, notLower, notUpper⟩ := after char tail rfl
      simp [parseExponent, notLower, notUpper]
  · obtain ⟨taken, dropped⟩ := takeWhile_digits rest all
      fun char tail equal => (after char tail equal).1
    have signRead : parseExponentSign (sign ++ (digits ++ rest)) = (sign, digits ++ rest) := by
      rcases signCase with rfl | rfl | rfl
      · cases digits with
        | nil => exact absurd rfl nonempty
        | cons digit others =>
          have notSign : ¬ (digit = '+' ∨ digit = '-') := by
            have isDigit := all digit (by simp)
            rintro (rfl | rfl) <;> revert isDigit <;> decide
          simp [parseExponentSign, notSign]
      · simp [parseExponentSign]
      · simp [parseExponentSign]
    simp only [List.cons_append, List.append_assoc, parseExponent, if_pos markCase, signRead, taken,
      dropped, if_neg nonempty]

theorem exponent_head (shape : IsExponent exponent) (after : NumberEnd rest) :
    ∀ char tail, exponent ++ rest = char :: tail → char.isDigit = false ∧ char ≠ '.' := by
  intro char tail equal
  rcases shape with rfl | ⟨mark, sign, digits, markCase, -, -, -, rfl⟩
  · obtain ⟨notDigit, notPoint, -, -⟩ := after char tail (by simpa using equal)
    exact ⟨notDigit, notPoint⟩
  · simp only [List.cons_append, List.cons.injEq] at equal
    obtain ⟨rfl, -⟩ := equal
    rcases markCase with rfl | rfl <;> decide

theorem parseFraction_append (shape : IsFraction fraction) (exponentShape : IsExponent exponent)
    (after : NumberEnd rest) :
    parseFraction (fraction ++ (exponent ++ rest)) = some (fraction, exponent ++ rest) := by
  have head := exponent_head exponentShape after
  rcases shape with rfl | ⟨digits, nonempty, all, rfl⟩
  · rw [List.nil_append]
    cases text : exponent ++ rest with
    | nil => rfl
    | cons char tail =>
      simp [parseFraction, (head char tail text).2]
  · obtain ⟨taken, dropped⟩ := takeWhile_digits (exponent ++ rest) all
      fun char tail equal => (head char tail equal).1
    simp [parseFraction, taken, dropped, nonempty]

theorem fraction_head (shape : IsFraction fraction) (exponentShape : IsExponent exponent)
    (after : NumberEnd rest) :
    ∀ char tail, fraction ++ (exponent ++ rest) = char :: tail → char.isDigit = false := by
  intro char tail equal
  rcases shape with rfl | ⟨digits, -, -, rfl⟩
  · exact (exponent_head exponentShape after char tail (by simpa using equal)).1
  · simp only [List.cons_append, List.cons.injEq] at equal
    obtain ⟨rfl, -⟩ := equal
    decide

theorem parseUnsigned_append (floats : FloatText) (negative : Bool) {first : Char}
    {others : List Char} (all : ∀ char ∈ first :: others, char.isDigit = true)
    (noLeadingZero : ¬ (first = '0' ∧ others ≠ [])) (fractionShape : IsFraction fraction)
    (exponentShape : IsExponent exponent) (after : NumberEnd rest) :
    parseUnsigned floats negative ((first :: others) ++ (fraction ++ (exponent ++ rest))) =
      (classify floats negative (first :: others) fraction exponent).map
        fun value => (value, rest) := by
  obtain ⟨taken, dropped⟩ := takeWhile_digits (fraction ++ (exponent ++ rest)) all
    (fraction_head fractionShape exponentShape after)
  simp only [parseUnsigned, taken, dropped, if_neg noLeadingZero,
    parseFraction_append fractionShape exponentShape after,
    parseExponent_append exponentShape after]

structure FloatText.Lawful (floats : FloatText) : Prop where
  token : ∀ value : F64, value.isFinite = true →
    ∃ (negative : Bool) (first : Char) (others fraction exponent : List Char),
      floats.format value =
        (if negative then ['-'] else []) ++ (first :: others) ++ fraction ++ exponent ∧
      (∀ char ∈ first :: others, char.isDigit = true) ∧ ¬ (first = '0' ∧ others ≠ []) ∧
      IsFraction fraction ∧ IsExponent exponent ∧ ¬ (fraction = [] ∧ exponent = [])
  parses : ∀ value : F64, value.isFinite = true →
    (floats.parse (floats.format value)).isSome = true

def F64.ReadsBack (floats : FloatText) (value : F64) : Prop :=
  value.isFinite = true ∧ floats.parse (floats.format value) = some value

instance (floats : FloatText) (value : F64) : Decidable (value.ReadsBack floats) :=
  inferInstanceAs (Decidable (_ ∧ _))

def Number.readBack (floats : FloatText) : Number → Number
  | .float value => .float ((floats.parse (floats.format value)).getD value)
  | other => other

def Number.Finite : Number → Prop
  | .float value => value.isFinite = true
  | _ => True

instance (number : Number) : Decidable number.Finite := by
  cases number <;> unfold Number.Finite <;> infer_instance

theorem toDigits_no_leading_zero (value : Nat) :
    ∃ first others, Nat.toDigits 10 value = first :: others ∧ ¬ (first = '0' ∧ others ≠ []) := by
  induction value using Nat.strongRecOn with
  | ind value ih =>
    by_cases small : value < 10
    · exact ⟨_, [], Nat.toDigits_of_lt_base small, by simp⟩
    · obtain ⟨first, others, digits, noZero⟩ := ih (value / 10) (by omega)
      refine ⟨first, others ++ [Nat.digitChar (value % 10)], ?_, ?_⟩
      · rw [Nat.toDigits_of_base_le (by omega) (by omega), digits]
        rfl
      · rintro ⟨rfl, -⟩
        have alone : others = [] := by
          by_contra nonempty
          exact noZero ⟨rfl, nonempty⟩
        subst alone
        have value_eq := Nat.ofDigitChars_ten_toDigits (n := value / 10)
        rw [digits] at value_eq
        have zero : value / 10 = 0 := by
          rw [← value_eq]
          decide
        omega

theorem toDigits_isDigit (value : Nat) : ∀ char ∈ Nat.toDigits 10 value, char.isDigit = true :=
  fun _ member => Nat.isDigit_of_mem_toDigits (by omega) (by omega) member

theorem isFraction_nil : IsFraction [] := Or.inl rfl

theorem isExponent_nil : IsExponent [] := Or.inl rfl

theorem parseUnsigned_toDigits (floats : FloatText) (negative : Bool) (value : Nat)
    (after : NumberEnd rest) : parseUnsigned floats negative (Nat.toDigits 10 value ++ rest) =
      (classify floats negative (Nat.toDigits 10 value) [] []).map
        fun number => (number, rest) := by
  obtain ⟨first, others, digits, noZero⟩ := toDigits_no_leading_zero value
  have all := toDigits_isDigit value
  rw [digits] at all ⊢
  exact parseUnsigned_append floats negative all noZero isFraction_nil isExponent_nil after

theorem isDigit_ne_minus (digit : char.isDigit = true) : char ≠ '-' := by
  rintro rfl
  revert digit
  decide

theorem parseNumber_print (lawful : floats.Lawful) {number : Number} (finite : number.Finite)
    (after : NumberEnd rest) :
    parseNumber floats (number.print floats ++ rest) = some (number.readBack floats, rest) := by
  cases number with
  | posInt value =>
    have read := parseUnsigned_toDigits floats false value.toNat after
    obtain ⟨first, others, digits, -⟩ := toDigits_no_leading_zero value.toNat
    have notMinus : first ≠ '-' :=
      isDigit_ne_minus (toDigits_isDigit _ first (by rw [digits]; simp))
    simp only [Number.print]
    rw [digits, List.cons_append, parseNumber, if_neg notMinus, ← List.cons_append, ← digits, read]
    simp [classify, value.toNat_lt, Number.readBack]
  | negInt below =>
    have read := parseUnsigned_toDigits floats true (below.val + 1) after
    simp only [Number.print, List.cons_append, parseNumber, ↓reduceIte, read]
    simp [classify, Number.readBack]
  | float value =>
    obtain ⟨negative, first, others, fraction, exponent, format, all, noZero, fractionShape,
      exponentShape, notInteger⟩ := lawful.token value finite
    have read := parseUnsigned_append floats negative all noZero fractionShape exponentShape after
    obtain ⟨rounded, parsed⟩ := Option.isSome_iff_exists.mp (lawful.parses value finite)
    have class_eq : classify floats negative (first :: others) fraction exponent =
        some (.float rounded) := by
      rw [classify, if_neg notInteger, ← format, parsed]
      rfl
    rw [class_eq] at read
    have notMinus : first ≠ '-' := isDigit_ne_minus (all first (by simp))
    have rounds : (Number.float value).readBack floats = .float rounded := by
      simp [Number.readBack, parsed]
    rw [rounds]
    cases negative with
    | true =>
      simpa [Number.print, format, parseNumber] using read
    | false =>
      simpa [Number.print, format, parseNumber, notMinus] using read

namespace Value

mutual

def FiniteNumbers : Value → Prop
  | number value => value.Finite
  | array values => FiniteElements values
  | object fields => FiniteFields fields
  | _ => True

def FiniteElements : List Value → Prop
  | [] => True
  | value :: rest => value.FiniteNumbers ∧ FiniteElements rest

def FiniteFields : List (String × Value) → Prop
  | [] => True
  | (_, value) :: rest => value.FiniteNumbers ∧ FiniteFields rest

end

variable {values : List Value} {fields : List (String × Value)} {bound : Nat}

theorem finiteElements_iff : FiniteElements values ↔ ∀ value ∈ values, value.FiniteNumbers := by
  induction values with
  | nil => simp [FiniteElements]
  | cons value rest ih => simp [FiniteElements, ih]

theorem finiteFields_iff : FiniteFields fields ↔ ∀ field ∈ fields, field.2.FiniteNumbers := by
  induction fields with
  | nil => simp [FiniteFields]
  | cons field rest ih => simp [FiniteFields, ih]

mutual

def readBack (floats : FloatText) : Value → Value
  | null => null
  | bool value => bool value
  | number value => number (value.readBack floats)
  | string value => string value
  | array values => array (readBackElements floats values)
  | object fields => object (readBackFields floats fields)

def readBackElements (floats : FloatText) : List Value → List Value
  | [] => []
  | value :: rest => value.readBack floats :: readBackElements floats rest

def readBackFields (floats : FloatText) : List (String × Value) → List (String × Value)
  | [] => []
  | (key, value) :: rest => (key, value.readBack floats) :: readBackFields floats rest

end

theorem readBackElements_eq_map (floats : FloatText) (values : List Value) :
    readBackElements floats values = values.map (readBack floats) := by
  induction values with
  | nil => rfl
  | cons value rest ih => rw [readBackElements, ih, List.map_cons]

theorem readBackFields_eq_map (floats : FloatText) (fields : List (String × Value)) :
    readBackFields floats fields = fields.map (Prod.map id (readBack floats)) := by
  induction fields with
  | nil => rfl
  | cons field rest ih =>
    rw [readBackFields, ih, List.map_cons]
    rfl

mutual

theorem uniqueKeys_readBack (floats : FloatText) :
    ∀ value : Value, value.UniqueKeys → (value.readBack floats).UniqueKeys
  | null, _ => trivial
  | bool _, _ => trivial
  | number _, _ => trivial
  | string _, _ => trivial
  | array values, unique => by
    simp only [UniqueKeys, readBack] at unique ⊢
    exact uniqueKeysElements_readBack floats values unique
  | object fields, unique => by
    simp only [UniqueKeys, readBack] at unique ⊢
    refine ⟨?_, uniqueKeysFields_readBack floats fields unique.2⟩
    rw [readBackFields_eq_map, List.map_map]
    exact unique.1

theorem uniqueKeysElements_readBack (floats : FloatText) :
    ∀ values : List Value, UniqueKeysElements values →
      UniqueKeysElements (readBackElements floats values)
  | [], _ => trivial
  | value :: rest, unique =>
    ⟨uniqueKeys_readBack floats value unique.1, uniqueKeysElements_readBack floats rest unique.2⟩

theorem uniqueKeysFields_readBack (floats : FloatText) :
    ∀ fields : List (String × Value), UniqueKeysFields fields →
      UniqueKeysFields (readBackFields floats fields)
  | [], _ => trivial
  | (_, value) :: rest, unique =>
    ⟨uniqueKeys_readBack floats value unique.1, uniqueKeysFields_readBack floats rest unique.2⟩

end

mutual

def height : Value → Nat
  | array values => heightElements values + 1
  | object fields => heightFields fields + 1
  | _ => 0

def heightElements : List Value → Nat
  | [] => 0
  | value :: rest => max value.height (heightElements rest)

def heightFields : List (String × Value) → Nat
  | [] => 0
  | (_, value) :: rest => max value.height (heightFields rest)

end

theorem heightElements_le_iff :
    heightElements values ≤ bound ↔ ∀ value ∈ values, value.height ≤ bound := by
  induction values with
  | nil => simp [heightElements]
  | cons value rest ih => simp [heightElements, ih]

theorem heightFields_le_iff :
    heightFields fields ≤ bound ↔ ∀ field ∈ fields, field.2.height ≤ bound := by
  induction fields with
  | nil => simp [heightFields]
  | cons field rest ih => simp [heightFields, ih]

mutual

def calls : Value → Nat
  | array values => callsElements values + 2
  | object fields => callsFields fields + 2
  | _ => 1

def callsElements : List Value → Nat
  | [] => 0
  | value :: rest => 1 + value.calls + callsElements rest

def callsFields : List (String × Value) → Nat
  | [] => 0
  | (_, value) :: rest => 1 + value.calls + callsFields rest

end

end Value

open Value

theorem printElements_numberEnd (floats : FloatText) (values : List Value)
    (rest : List Char) : NumberEnd (printElements floats values ++ rest) := by
  cases values <;> exact numberEnd_cons (by decide) (by decide) (by decide) (by decide)

theorem printFields_numberEnd (floats : FloatText) (fields : List (String × Value))
    (rest : List Char) : NumberEnd (printFields floats fields ++ rest) := by
  cases fields <;> exact numberEnd_cons (by decide) (by decide) (by decide) (by decide)

theorem print_number_head (lawful : floats.Lawful) {value : Number} (finite : value.Finite) :
    ∃ char tail, value.print floats = char :: tail ∧ (char.isDigit = true ∨ char = '-') := by
  cases value with
  | posInt value =>
    obtain ⟨first, others, digits, -⟩ := toDigits_no_leading_zero value.toNat
    exact ⟨first, others, digits, Or.inl (toDigits_isDigit _ first (by rw [digits]; simp))⟩
  | negInt below => exact ⟨'-', _, rfl, Or.inr rfl⟩
  | float value =>
    obtain ⟨negative, first, others, fraction, exponent, format, all, -⟩ :=
      lawful.token value finite
    cases negative with
    | true => exact ⟨'-', _, by simpa [Number.print] using format, Or.inr rfl⟩
    | false =>
      exact ⟨first, _, by simpa [Number.print] using format, Or.inl (all first (by simp))⟩

theorem numberHead_ne (head : char.isDigit = true ∨ char = '-') :
    isSpace char = false ∧ char ≠ '"' ∧ char ≠ '[' ∧ char ≠ '{' ∧ char ≠ 'n' ∧ char ≠ 't' ∧
      char ≠ 'f' ∧ char ≠ ']' := by
  rcases head with digit | rfl
  · have bounds : 48 ≤ char.toNat ∧ char.toNat ≤ 57 := by
      simpa [Char.isDigit, UInt32.le_iff_toNat_le] using digit
    have codeNe : ∀ other : Char, other.toNat < 48 ∨ 57 < other.toNat → char ≠ other := by
      rintro other outside rfl
      omega
    refine ⟨?_, codeNe _ (by decide), codeNe _ (by decide), codeNe _ (by decide),
      codeNe _ (by decide), codeNe _ (by decide), codeNe _ (by decide), codeNe _ (by decide)⟩
    simp only [isSpace, Bool.or_eq_false_iff, decide_eq_false_iff_not]
    exact ⟨⟨⟨codeNe _ (by decide), by omega⟩, by omega⟩, by omega⟩
  · decide

theorem print_head (lawful : floats.Lawful) {value : Value} (finite : value.FiniteNumbers) :
    ∃ char tail, value.print floats = char :: tail ∧ isSpace char = false ∧ char ≠ ']' := by
  match value with
  | .null => exact ⟨_, _, rfl, by decide, by decide⟩
  | .bool true => exact ⟨_, _, rfl, by decide, by decide⟩
  | .bool false => exact ⟨_, _, rfl, by decide, by decide⟩
  | .string _ => exact ⟨_, _, rfl, by decide, by decide⟩
  | .array [] => exact ⟨_, _, rfl, by decide, by decide⟩
  | .array (_ :: _) => exact ⟨_, _, rfl, by decide, by decide⟩
  | .object [] => exact ⟨_, _, rfl, by decide, by decide⟩
  | .object ((_, _) :: _) => exact ⟨_, _, rfl, by decide, by decide⟩
  | .number value =>
    obtain ⟨char, tail, text, head⟩ :=
      print_number_head lawful (by simpa [FiniteNumbers] using finite)
    obtain ⟨notSpace, -, -, -, -, -, -, notClose⟩ := numberHead_ne head
    exact ⟨char, tail, by simpa [Value.print] using text, notSpace, notClose⟩

theorem skipSpace_of_head (notSpace : isSpace char = false) :
    skipSpace (char :: tail) = char :: tail := by
  simp [skipSpace, notSpace]

theorem parseValue_space (floats : FloatText) {char : Char} (space : isSpace char = true)
    (fuel depth : Nat) (rest : List Char) :
    parseValue floats fuel depth (char :: rest) = parseValue floats fuel depth rest := by
  have skipped : skipSpace (char :: rest) = skipSpace rest := List.dropWhile_cons_of_pos space
  cases fuel with
  | zero => rw [parseValue, parseValue]
  | succ fuel => rw [parseValue, skipped, parseValue]

theorem parseValue_number (head : char.isDigit = true ∨ char = '-') (fuel depth : Nat) :
    parseValue floats (fuel + 1) depth (char :: tail) =
      (parseNumber floats (char :: tail)).map fun result => (.number result.1, result.2) := by
  obtain ⟨notSpace, notQuote, notOpen, notBrace, notN, notT, notF, -⟩ := numberHead_ne head
  rw [parseValue.eq_def]
  simp only [skipSpace_of_head notSpace, if_neg notQuote, if_neg notOpen, if_neg notBrace,
    if_neg notN, if_neg notT, if_neg notF]

mutual

theorem parseValue_print {floats : FloatText} (lawful : floats.Lawful) :
    ∀ (value : Value) (fuel depth : Nat) (rest : List Char), value.FiniteNumbers →
      value.calls ≤ fuel → value.height ≤ depth → NumberEnd rest →
      parseValue floats fuel depth (value.print floats ++ rest) = some (value.readBack floats, rest)
  | _, 0, _, _, _, enough, _, _ => by
    exfalso
    cases ‹Value› <;> simp only [calls] at enough <;> omega
  | .null, fuel + 1, depth, rest, _, _, _, _ => by
    rw [parseValue.eq_def]
    rfl
  | .bool true, fuel + 1, depth, rest, _, _, _, _ => by
    rw [parseValue.eq_def]
    rfl
  | .bool false, fuel + 1, depth, rest, _, _, _, _ => by
    rw [parseValue.eq_def]
    rfl
  | .number value, fuel + 1, depth, rest, finite, _, _, after => by
    have finiteNumber : value.Finite := by simpa [FiniteNumbers] using finite
    obtain ⟨char, tail, text, head⟩ := print_number_head lawful finiteNumber
    have read := parseNumber_print lawful finiteNumber after
    rw [Value.print, text, List.cons_append, parseValue_number head, ← List.cons_append, ← text,
      read]
    rfl
  | .string value, fuel + 1, depth, rest, _, _, _, _ => by
    have read := parseString_flatMap_escapeChar value.toList rest
    rw [parseValue.eq_def]
    simp only [Value.print, printString, List.cons_append, List.append_assoc, List.nil_append,
      skipSpace_of_head (show isSpace '"' = false by decide), ↓reduceIte, read, Option.map_some,
      String.ofList_toList, readBack]
  | .array values, fuel + 1, depth, rest, finite, enough, nested, _ => by
    simp only [calls] at enough
    simp only [height] at nested
    obtain ⟨depth, rfl⟩ : ∃ inner, depth = inner + 1 := ⟨depth - 1, by omega⟩
    have body := parseArray_print lawful values fuel depth rest
      (by simpa [FiniteNumbers] using finite) (by omega) (by omega)
    cases values with
    | nil =>
      rw [parseValue.eq_def]
      simpa [Value.print, readBack, skipSpace_of_head (show isSpace '[' = false by decide)]
        using body
    | cons value values =>
      rw [parseValue.eq_def]
      simpa [Value.print, readBack, skipSpace_of_head (show isSpace '[' = false by decide)]
        using body
  | .object fields, fuel + 1, depth, rest, finite, enough, nested, _ => by
    simp only [calls] at enough
    simp only [height] at nested
    obtain ⟨depth, rfl⟩ : ∃ inner, depth = inner + 1 := ⟨depth - 1, by omega⟩
    have body := parseObject_print lawful fields fuel depth rest
      (by simpa [FiniteNumbers] using finite) (by omega) (by omega)
    cases fields with
    | nil =>
      rw [parseValue.eq_def]
      simpa [Value.print, readBack, skipSpace_of_head (show isSpace '{' = false by decide)]
        using body
    | cons field fields =>
      obtain ⟨key, value⟩ := field
      rw [parseValue.eq_def]
      simpa [Value.print, readBack, skipSpace_of_head (show isSpace '{' = false by decide)]
        using body
termination_by structural _ fuel => fuel

/-- An array body: what `print` writes after the opening bracket. -/
theorem parseArray_print {floats : FloatText} (lawful : floats.Lawful) :
    ∀ (values : List Value) (fuel depth : Nat) (rest : List Char), FiniteElements values →
      callsElements values + 1 ≤ fuel → heightElements values ≤ depth →
      parseArray floats fuel depth (((Value.array values).print floats).tail ++ rest) =
        some (.array (readBackElements floats values), rest)
  | _, 0, _, _, _, enough, _ => by omega
  | [], fuel + 1, depth, rest, _, _, _ => by
    rw [parseArray.eq_def]
    rfl
  | value :: values, fuel + 1, depth, rest, finite, enough, nested => by
    have elements := parseElements_print lawful value values fuel depth rest finite (by omega)
      nested
    simp only [FiniteElements] at finite
    obtain ⟨char, tail, text, notSpace, notClose⟩ := print_head lawful finite.1
    rw [parseArray.eq_def]
    simp only [Value.print, List.tail_cons]
    rw [text] at elements ⊢
    simp only [List.cons_append, List.append_assoc] at elements ⊢
    simp only [skipSpace_of_head notSpace, if_neg notClose, elements, Option.map_some]
termination_by structural _ fuel => fuel

theorem parseElements_print {floats : FloatText} (lawful : floats.Lawful) :
    ∀ (value : Value) (values : List Value) (fuel depth : Nat) (rest : List Char),
      FiniteElements (value :: values) → callsElements (value :: values) ≤ fuel →
      heightElements (value :: values) ≤ depth →
      parseElements floats fuel depth
        ((value.print floats ++ printElements floats values) ++ rest) =
        some (readBackElements floats (value :: values), rest)
  | _, _, 0, _, _, _, enough, _ => by
    simp only [callsElements] at enough
    omega
  | value, [], fuel + 1, depth, rest, finite, enough, nested => by
    simp only [callsElements, FiniteElements, heightElements] at finite enough nested
    have first := parseValue_print lawful value fuel depth (printElements floats [] ++ rest)
      finite.1 (by omega) (by omega) (printElements_numberEnd floats [] rest)
    rw [parseElements.eq_def]
    simp only [List.append_assoc, first]
    rfl
  | value, next :: values, fuel + 1, depth, rest, finite, enough, nested => by
    have tail := parseElements_print lawful next values fuel depth rest
      (by simp only [FiniteElements] at finite ⊢; exact finite.2)
      (by simp only [callsElements] at enough ⊢; omega)
      (by simp only [heightElements] at nested ⊢; omega)
    simp only [callsElements, FiniteElements, heightElements] at finite enough nested
    have first := parseValue_print lawful value fuel depth
      (printElements floats (next :: values) ++ rest) finite.1 (by omega) (by omega)
      (printElements_numberEnd floats _ rest)
    rw [parseElements.eq_def]
    simp only [List.append_assoc, first]
    simp only [printElements, List.cons_append, List.append_assoc] at tail ⊢
    simp only [skipSpace_of_head (show isSpace ',' = false by decide), ↓reduceIte, tail,
      Option.map_some]
    rfl
termination_by structural _ _ fuel => fuel

/-- An object body: what `print` writes after the opening brace. -/
theorem parseObject_print {floats : FloatText} (lawful : floats.Lawful) :
    ∀ (fields : List (String × Value)) (fuel depth : Nat) (rest : List Char),
      FiniteFields fields → callsFields fields + 1 ≤ fuel → heightFields fields ≤ depth →
      parseObject floats fuel depth (((Value.object fields).print floats).tail ++ rest) =
        some (.object (readBackFields floats fields), rest)
  | _, 0, _, _, _, enough, _ => by omega
  | [], fuel + 1, depth, rest, _, _, _ => by
    rw [parseObject.eq_def]
    rfl
  | (key, value) :: fields, fuel + 1, depth, rest, finite, enough, nested => by
    have members := parseFields_print lawful key value fields fuel depth rest finite (by omega)
      nested
    rw [parseObject.eq_def]
    simp only [Value.print, List.tail_cons, printString, List.cons_append, List.append_assoc]
      at members ⊢
    simp only [skipSpace_of_head (show isSpace '"' = false by decide),
      if_neg (show ¬ '"' = '}' by decide), members, Option.map_some]
termination_by structural _ fuel => fuel

theorem parseFields_print {floats : FloatText} (lawful : floats.Lawful) :
    ∀ (key : String) (value : Value) (fields : List (String × Value)) (fuel depth : Nat)
      (rest : List Char),
      FiniteFields ((key, value) :: fields) → callsFields ((key, value) :: fields) ≤ fuel →
      heightFields ((key, value) :: fields) ≤ depth →
      parseFields floats fuel depth
          ((printString key ++ ':' :: (value.print floats ++ printFields floats fields)) ++ rest) =
        some (readBackFields floats ((key, value) :: fields), rest)
  | _, _, _, 0, _, _, _, enough, _ => by
    simp only [callsFields] at enough
    omega
  | key, value, [], fuel + 1, depth, rest, finite, enough, nested => by
    simp only [callsFields, FiniteFields, heightFields] at finite enough nested
    have first := parseValue_print lawful value fuel depth (printFields floats [] ++ rest)
      finite.1 (by omega) (by omega) (printFields_numberEnd floats [] rest)
    have name := parseString_flatMap_escapeChar key.toList
      (':' :: (value.print floats ++ (printFields floats [] ++ rest)))
    rw [parseFields.eq_def]
    simp only [printString, List.cons_append, List.append_assoc, List.nil_append,
      skipSpace_of_head (show isSpace '"' = false by decide),
      skipSpace_of_head (show isSpace ':' = false by decide), ↓reduceIte, name, first,
      String.ofList_toList]
    rfl
  | key, value, (nextKey, next) :: fields, fuel + 1, depth, rest, finite, enough, nested => by
    have tail := parseFields_print lawful nextKey next fields fuel depth rest
      (by simp only [FiniteFields] at finite ⊢; exact finite.2)
      (by simp only [callsFields] at enough ⊢; omega)
      (by simp only [heightFields] at nested ⊢; omega)
    simp only [callsFields, FiniteFields, heightFields] at finite enough nested
    have first := parseValue_print lawful value fuel depth
      (printFields floats ((nextKey, next) :: fields) ++ rest) finite.1 (by omega) (by omega)
      (printFields_numberEnd floats _ rest)
    have name := parseString_flatMap_escapeChar key.toList
      (':' :: (value.print floats ++ (printFields floats ((nextKey, next) :: fields) ++ rest)))
    rw [parseFields.eq_def]
    simp only [printString, List.cons_append, List.append_assoc, List.nil_append,
      skipSpace_of_head (show isSpace '"' = false by decide),
      skipSpace_of_head (show isSpace ':' = false by decide), ↓reduceIte, name, first,
      String.ofList_toList]
    simp only [printFields, printString, List.cons_append, List.append_assoc, List.nil_append]
      at tail ⊢
    simp only [skipSpace_of_head (show isSpace ',' = false by decide), ↓reduceIte, tail,
      Option.map_some]
    rfl
termination_by structural _ _ _ fuel => fuel

end

theorem print_injective (lawful : floats.Lawful) {left right : Value}
    (leftFinite : left.FiniteNumbers) (rightFinite : right.FiniteNumbers)
    (leftReads : left.readBack floats = left) (rightReads : right.readBack floats = right)
    (equal : left.print floats = right.print floats) : left = right := by
  have readLeft := parseValue_print lawful left (left.calls + right.calls)
    (max left.height right.height) [] leftFinite (by omega) (by omega) numberEnd_nil
  have readRight := parseValue_print lawful right (left.calls + right.calls)
    (max left.height right.height) [] rightFinite (by omega) (by omega) numberEnd_nil
  rw [equal, readRight, leftReads, rightReads] at readLeft
  simpa using readLeft.symm

mutual

theorem calls_le {floats : FloatText} (lawful : floats.Lawful) :
    ∀ value : Value, value.FiniteNumbers → value.calls ≤ 2 * (value.print floats).length
  | .null, _ => by simp [calls, Value.print]
  | .bool true, _ => by simp [calls, Value.print]
  | .bool false, _ => by simp [calls, Value.print]
  | .number value, finite => by
    obtain ⟨char, tail, text, -⟩ :=
      print_number_head lawful (show value.Finite by simpa [FiniteNumbers] using finite)
    simp only [calls, Value.print, text, List.length_cons]
    omega
  | .string _, _ => by
    simp only [calls, Value.print, printString, List.length_cons]
    omega
  | .array [], _ => by simp [calls, callsElements, Value.print]
  | .array (value :: values), finite => by
    simp only [FiniteNumbers, FiniteElements] at finite
    have head := calls_le lawful value finite.1
    have tail := callsElements_le lawful values finite.2
    simp only [calls, callsElements, Value.print, List.length_cons, List.length_append]
    omega
  | .object [], _ => by simp [calls, callsFields, Value.print]
  | .object ((key, value) :: fields), finite => by
    simp only [FiniteNumbers, FiniteFields] at finite
    have head := calls_le lawful value finite.1
    have tail := callsFields_le lawful fields finite.2
    simp only [calls, callsFields, Value.print, List.length_cons, List.length_append]
    omega

theorem callsElements_le {floats : FloatText} (lawful : floats.Lawful) :
    ∀ values : List Value, FiniteElements values →
      callsElements values + 1 ≤ 2 * (printElements floats values).length
  | [], _ => by simp [callsElements, printElements]
  | value :: values, finite => by
    simp only [FiniteElements] at finite
    have head := calls_le lawful value finite.1
    have tail := callsElements_le lawful values finite.2
    simp only [callsElements, printElements, List.length_cons, List.length_append]
    omega

theorem callsFields_le {floats : FloatText} (lawful : floats.Lawful) :
    ∀ fields : List (String × Value), FiniteFields fields →
      callsFields fields + 1 ≤ 2 * (printFields floats fields).length
  | [], _ => by simp [callsFields, printFields]
  | (key, value) :: fields, finite => by
    simp only [FiniteFields] at finite
    have head := calls_le lawful value finite.1
    have tail := callsFields_le lawful fields finite.2
    simp only [callsFields, printFields, List.length_cons, List.length_append]
    omega

end

section Documents

variable {floats : FloatText} (lawful : floats.Lawful) {value : Value}
  (finite : value.FiniteNumbers) (nested : value.height ≤ nestingLimit)

include lawful finite nested

variable {rest : List Char} (after : NumberEnd rest)

include after

theorem parseValue_document : parseValue floats (fuelFor (value.print floats ++ rest)) nestingLimit
      (value.print floats ++ rest) = some (value.readBack floats, rest) := by
  have bound := calls_le lawful value finite
  refine parseValue_print lawful value _ _ rest finite ?_ nested after
  simp only [fuelFor, List.length_append]
  omega

theorem parseDocument_print (blank : skipSpace rest = []) :
    parseDocument floats (value.print floats ++ rest) = some (value.readBack floats) := by
  simp only [parseDocument, parseValue_document lawful finite nested after, if_pos blank]

end Documents

end QuantaWatch.Lib.Json
