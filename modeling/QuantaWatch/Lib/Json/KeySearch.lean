import QuantaWatch.Lib.Json.Text

/-!
Looking for one key and its value in the text of a JSON object.
-/

namespace QuantaWatch.Lib.Json

open Lib.Encoding

theorem hexDigit_mem (value : Nat) : hexDigit value ∈
    ['0', '1', '2', '3', '4', '5', '6', '7', '8', '9', 'a', 'b', 'c', 'd', 'e', 'f'] := by
  by_cases small : value < 16
  · interval_cases value <;> decide
  · rw [hexDigit, List.getD_eq_default _ _ (by simpa using small)]
    decide

def PlainChar (char : Char) : Prop := escapeChar char = [char]

instance (char : Char) : Decidable (PlainChar char) := inferInstanceAs (Decidable (_ = _))

def PlainText (text : List Char) : Prop := ∀ char ∈ text, PlainChar char

instance (text : List Char) : Decidable (PlainText text) :=
  List.decidableBAll PlainChar text

variable {char : Char} {text rest : List Char}

theorem escapeChar_of_not_plain (special : ¬ PlainChar char) :
    ∃ next rest, escapeChar char = '\\' :: next :: rest := by
  rcases escapeChar_cases char with ⟨letter, _, _, escapes⟩ | ⟨_, escapes⟩ | ⟨_, _, _, plain⟩
  · exact ⟨_, _, escapes⟩
  · exact ⟨_, _, escapes⟩
  · exact absurd plain special

theorem PlainChar.ne_quote (plain : PlainChar char) : char ≠ '"' := by
  rintro rfl
  exact absurd plain (by decide)

theorem PlainChar.ne_backslash (plain : PlainChar char) : char ≠ '\\' := by
  rintro rfl
  exact absurd plain (by decide)

def escaped (text : List Char) : List Char := text.flatMap escapeChar

theorem escaped_of_plain (plain : PlainText text) : escaped text = text := by
  have same : ∀ char ∈ text, escapeChar char = [char] := plain
  rw [escaped, List.flatMap_congr same, List.flatMap_singleton']

theorem plain_quote_prefix {word more : List Char} (plain : PlainText word) :
    word ++ '"' :: more <+: escaped text ++ '"' :: rest ↔ text = word ∧ more <+: rest := by
  induction word generalizing text with
  | nil =>
    cases text with
    | nil => simp [escaped, List.cons_prefix_cons]
    | cons char text =>
      by_cases same : PlainChar char
      · simp [escaped, show escapeChar char = [char] from same, List.cons_prefix_cons,
          same.ne_quote.symm]
      · rcases escapeChar_of_not_plain same with ⟨next, tail, isEscape⟩
        simp [escaped, isEscape, List.cons_prefix_cons]
  | cons first word ih =>
    have firstPlain : PlainChar first := plain first (by simp)
    have wordPlain : PlainText word := fun char member => plain char (by simp [member])
    cases text with
    | nil => simp [escaped, List.cons_prefix_cons, firstPlain.ne_quote]
    | cons char text =>
      by_cases same : PlainChar char
      · rw [escaped, List.flatMap_cons, same, List.cons_append, List.append_assoc,
          List.singleton_append, List.cons_prefix_cons]
        have tail : word ++ '"' :: more <+: text.flatMap escapeChar ++ '"' :: rest ↔
            text = word ∧ more <+: rest := ih wordPlain
        rw [tail, List.cons.injEq, and_assoc, eq_comm (a := first)]
      · rcases escapeChar_of_not_plain same with ⟨next, tail, isEscape⟩
        have other : char ≠ first := fun equal => same (equal ▸ firstPlain)
        simp [escaped, isEscape, List.cons_prefix_cons, firstPlain.ne_backslash, other]

theorem not_prefix_backslashes (text : List Char) (count : Nat) :
    ¬ text ++ ['"'] <+: List.replicate (count + 1) '\\' ++ (escaped text ++ rest) := by
  induction text generalizing count with
  | nil => simp [List.replicate_succ, List.cons_prefix_cons]
  | cons char text ih =>
    rw [List.replicate_succ, List.cons_append, List.cons_append, List.cons_prefix_cons]
    rintro ⟨rfl, front⟩
    apply ih (count + 1)
    have escapes : escaped ('\\' :: text) = '\\' :: '\\' :: escaped text := rfl
    have same : List.replicate count '\\' ++ (escaped ('\\' :: text) ++ rest) =
        List.replicate (count + 1 + 1) '\\' ++ (escaped text ++ rest) := by
      rw [escapes, List.replicate_succ', List.replicate_succ']
      simp
    rw [← same]
    exact front

theorem not_quote_prefix_escaped (special : ¬ PlainText text) :
    ¬ text ++ ['"'] <+: escaped text ++ rest := by
  induction text with
  | nil => exact absurd (by simp [PlainText]) special
  | cons char text ih =>
    rw [escaped, List.flatMap_cons]
    by_cases same : PlainChar char
    · have tail : ¬ PlainText text :=
        fun plain => special (List.forall_mem_cons.mpr ⟨same, plain⟩)
      rw [same, List.cons_append, List.append_assoc, List.singleton_append,
        List.cons_prefix_cons]
      exact fun both => ih tail both.2
    · rcases escapeChar_of_not_plain same with ⟨next, tail, isEscape⟩
      intro front
      rw [isEscape, List.cons_append, List.cons_append, List.cons_append,
        List.cons_prefix_cons] at front
      rcases front with ⟨rfl, front⟩
      have oneMore : next :: tail = List.replicate 1 '\\' := by
        simpa [escapeChar] using isEscape.symm
      rw [oneMore, List.append_assoc] at front
      exact not_prefix_backslashes text 0 front

def quoted (text : List Char) : List Char := '"' :: (escaped text ++ ['"'])

def fieldsText : List (List Char × List Char) → List Char
  | [] => ['}']
  | (key, value) :: rest => ',' :: (quoted key ++ ':' :: (quoted value ++ fieldsText rest))

def objectText (key value : List Char) (rest : List (List Char × List Char)) : List Char :=
  '{' :: (quoted key ++ ':' :: (quoted value ++ fieldsText rest))

structure IsKey (key : List Char) : Prop where
  plain : PlainText key
  nonempty : key ≠ []
  noSeparator : ',' ∉ key ∧ ':' ∉ key ∧ '}' ∉ key

def keyed (key needle : List Char) : List Char := '"' :: (key ++ '"' :: ':' :: '"' :: needle)

section Search

variable {key needle : List Char}

theorem keyed_infix_append {front : List Char} (rest : List Char) (noQuote : '"' ∉ front) :
    keyed key needle <:+: front ++ rest ↔ keyed key needle <:+: rest := by
  induction front with
  | nil => rfl
  | cons char front ih =>
    rw [List.mem_cons, not_or] at noQuote
    rw [List.cons_append, List.infix_cons_iff, ih noQuote.2, keyed,
      List.cons_prefix_cons, or_iff_right]
    exact fun both => noQuote.1 both.1

variable {char : Char} {fields : List (List Char × List Char)}

theorem keyed_infix_cons (rest : List Char) (other : char ≠ '"') :
    keyed key needle <:+: char :: rest ↔ keyed key needle <:+: rest := by
  have noQuote : '"' ∉ [char] := by simpa using other.symm
  exact keyed_infix_append rest noQuote

theorem keyed_infix_quote {separator : Char} (rest : List Char) (isKey : IsKey key)
    (separates : separator = ',' ∨ separator = ':' ∨ separator = '}') :
    keyed key needle <:+: '"' :: separator :: rest ↔ keyed key needle <:+: separator :: rest := by
  rcases List.exists_cons_of_ne_nil isKey.nonempty with ⟨first, tail, isCons⟩
  have differs : first ≠ separator := by
    rintro rfl
    have absent := isKey.noSeparator
    rw [isCons] at absent
    rcases separates with rfl | rfl | rfl
    · simp at absent
    · simp at absent
    · simp at absent
  rw [List.infix_cons_iff, or_iff_right]
  rw [keyed, List.cons_prefix_cons, isCons, List.cons_append, List.cons_prefix_cons]
  exact fun both => differs both.2.1

theorem fieldsText_eq_cons (fields : List (List Char × List Char)) :
    ∃ separator rest, fieldsText fields = separator :: rest ∧
      (separator = ',' ∨ separator = '}') := by
  cases fields with
  | nil => exact ⟨_, _, rfl, .inr rfl⟩
  | cons field fields => exact ⟨_, _, rfl, .inl rfl⟩

theorem not_keyed_prefix_value (isKey : IsKey key) (value : List Char)
    (fields : List (List Char × List Char)) :
    ¬ keyed key needle <+: '"' :: (escaped value ++ '"' :: fieldsText fields) := by
  rcases fieldsText_eq_cons fields with ⟨separator, rest, isFields, separates⟩
  rw [keyed, List.cons_prefix_cons, plain_quote_prefix isKey.plain, isFields,
    List.cons_prefix_cons]
  rintro ⟨_, _, colon, _⟩
  rcases separates with rfl | rfl <;> contradiction

theorem quote_notMem_escapeChar (other : char ≠ '"') : '"' ∉ escapeChar char := by
  have hexDigits (value : Nat) : '"' ≠ hexDigit value :=
    fun same => absurd (same ▸ hexDigit_mem value) (by decide)
  rcases escapeChar_cases char with ⟨letter, _, known, escapes⟩ | ⟨_, escapes⟩ |
    ⟨_, _, _, escapes⟩
  · have notQuote : '"' ≠ letter := by
      rintro rfl
      exact other (Option.some.inj known).symm
    simp [escapes, notQuote]
  · simp [escapes, hexDigits]
  · simp [escapes, other.symm]

variable (isKey : IsKey key)

include isKey

theorem keyed_infix_value (value : List Char) (fields : List (List Char × List Char)) :
    keyed key needle <:+: escaped value ++ '"' :: fieldsText fields ↔
      keyed key needle <:+: fieldsText fields := by
  induction value with
  | nil =>
    rcases fieldsText_eq_cons fields with ⟨separator, rest, isFields, separates⟩
    rw [isFields]
    exact keyed_infix_quote rest isKey (by tauto)
  | cons char value ih =>
    rw [← ih]
    by_cases isQuote : char = '"'
    · subst isQuote
      -- the quote of an escape is followed by the rest of the value
      change keyed key needle <:+: '\\' :: '"' :: (escaped value ++ '"' :: fieldsText fields) ↔ _
      rw [keyed_infix_cons _ (by decide), List.infix_cons_iff, or_iff_right]
      exact not_keyed_prefix_value isKey value fields
    · rw [escaped, List.flatMap_cons, List.append_assoc,
        keyed_infix_append _ (quote_notMem_escapeChar isQuote)]
      rfl

theorem keyed_infix_field {other : List Char} (plain : PlainText other)
    (differs : other ≠ key) (value : List Char) (fields : List (List Char × List Char)) :
    keyed key needle <:+: quoted other ++ ':' :: (quoted value ++ fieldsText fields) ↔
      keyed key needle <:+: fieldsText fields := by
  have noQuote : '"' ∉ other := fun member => (plain _ member).ne_quote rfl
  rw [quoted, escaped_of_plain plain, quoted]
  simp only [List.cons_append, List.append_assoc, List.nil_append]
  rw [List.infix_cons_iff, or_iff_right, keyed_infix_append _ noQuote,
    keyed_infix_quote _ isKey (by simp)]
  · rw [keyed_infix_cons _ (by decide), List.infix_cons_iff,
      or_iff_right (not_keyed_prefix_value isKey value fields), keyed_infix_value isKey]
  · rw [keyed, List.cons_prefix_cons]
    intro both
    have same := both.2
    rw [← escaped_of_plain plain, plain_quote_prefix isKey.plain] at same
    exact differs same.1

theorem not_keyed_infix_fields (plain : ∀ field ∈ fields, PlainText field.1)
    (absent : ∀ field ∈ fields, field.1 ≠ key) : ¬ keyed key needle <:+: fieldsText fields := by
  induction fields with
  | nil =>
    intro found
    have length := found.length_le
    simp [keyed, fieldsText] at length
  | cons field fields ih =>
    rw [List.forall_mem_cons] at plain absent
    rw [fieldsText, keyed_infix_cons _ (by decide),
      keyed_infix_field isKey plain.1 absent.1]
    exact ih plain.2 absent.2

theorem keyed_infix_objectText (value : List Char) (plain : ∀ field ∈ fields, PlainText field.1)
    (absent : ∀ field ∈ fields, field.1 ≠ key) : keyed key needle <:+: objectText key value fields ↔
      needle <+: escaped value ++ '"' :: fieldsText fields := by
  have noQuote : '"' ∉ key := fun member => (isKey.plain _ member).ne_quote rfl
  have elsewhere : ¬ keyed key needle <:+: fieldsText fields :=
    not_keyed_infix_fields isKey plain absent
  rw [objectText, quoted, escaped_of_plain isKey.plain, quoted,
    keyed_infix_cons _ (by decide)]
  simp only [List.cons_append, List.append_assoc, List.nil_append]
  rw [List.infix_cons_iff, keyed_infix_append _ noQuote, keyed_infix_quote _ isKey (by simp),
    keyed_infix_cons _ (by decide), List.infix_cons_iff,
    or_iff_right (not_keyed_prefix_value isKey value fields), keyed_infix_value isKey,
    or_iff_left elsewhere, keyed]
  simp [List.cons_prefix_cons, List.prefix_append_right_inj]

end Search

def stringFields (fields : List (String × String)) : List (String × Value) :=
  fields.map fun field => (field.1, .string field.2)

def charFields (fields : List (String × String)) : List (List Char × List Char) :=
  fields.map fun field => (field.1.toList, field.2.toList)

theorem printFields_stringFields (floats : FloatText) (fields : List (String × String)) :
    Value.printFields floats (stringFields fields) = fieldsText (charFields fields) := by
  induction fields with
  | nil => rfl
  | cons field fields ih =>
    change ',' :: (printString field.1 ++ ':' :: (printString field.2 ++
      Value.printFields floats (stringFields fields))) = _
    rw [ih]
    rfl

theorem print_stringFields (floats : FloatText) (key value : String)
    (fields : List (String × String)) :
    (Value.object (stringFields ((key, value) :: fields))).print floats =
      objectText key.toList value.toList (charFields fields) := by
  change '{' :: (printString key ++ ':' :: (printString value ++
    Value.printFields floats (stringFields fields))) = _
  rw [printFields_stringFields]
  rfl

structure FoldsText (fold : Char → Char) : Prop where
  escape : ∀ char, (escapeChar char).map fold = escapeChar (fold char)
  punctuation : ∀ char ∈ ['"', ':', ',', '{', '}'], fold char = char

theorem foldsText_id : FoldsText id := ⟨fun _ => List.map_id _, fun _ _ => rfl⟩

def asciiLower (char : Char) : Char :=
  if 65 ≤ char.toNat ∧ char.toNat ≤ 90 then Char.ofNat (char.toNat + 32) else char

theorem map_asciiLower_escapeChar_upper {code : Nat} (low : 65 ≤ code) (high : code ≤ 90) :
    (escapeChar (Char.ofNat code)).map asciiLower = escapeChar (asciiLower (Char.ofNat code)) := by
  interval_cases code <;> decide

theorem foldsText_asciiLower : FoldsText asciiLower := by
  refine ⟨?_, by simp [asciiLower]⟩
  intro char
  by_cases upper : 65 ≤ char.toNat ∧ char.toNat ≤ 90
  · rw [← char.ofNat_toNat]
    exact map_asciiLower_escapeChar_upper upper.1 upper.2
  · have fixed : asciiLower char = char := if_neg upper
    have hexDigits (value : Nat) : asciiLower (hexDigit value) = hexDigit value := by
      have digits : ∀ digit ∈ ['0', '1', '2', '3', '4', '5', '6', '7', '8', '9', 'a', 'b', 'c',
          'd', 'e', 'f'], asciiLower digit = digit := by simp [asciiLower]
      exact digits _ (hexDigit_mem value)
    have letters : ∀ letter ∈ ['"', '\\', 'b', 't', 'n', 'f', 'r'],
        asciiLower letter = letter := by simp [asciiLower]
    have unicode : asciiLower 'u' = 'u' ∧ asciiLower '0' = '0' := by simp [asciiLower]
    rw [fixed]
    rcases escapeChar_cases char with ⟨letter, member, _, escapes⟩ | ⟨_, escapes⟩ |
      ⟨_, _, _, escapes⟩
    · simp [escapes, letters letter member, letters]
    · simp [escapes, hexDigits, letters, unicode]
    · simp [escapes, fixed]

section Folding

variable {fold : Char → Char} (folds : FoldsText fold)

include folds

theorem plainText_map_iff {text : List Char} : PlainText (text.map fold) ↔ PlainText text := by
  unfold PlainText
  rw [List.forall_mem_map]
  apply forall₂_congr
  intro char _
  unfold PlainChar
  rw [← folds.escape]
  constructor
  · intro same
    by_contra special
    rcases escapeChar_of_not_plain special with ⟨next, tail, isEscape⟩
    rw [isEscape] at same
    simp at same
  · intro plain
    rw [plain]
    rfl

theorem map_escaped (text : List Char) : (escaped text).map fold = escaped (text.map fold) := by
  rw [escaped, escaped, List.map_flatMap, List.flatMap_map]
  exact List.flatMap_congr fun char _ => folds.escape char

theorem map_quoted (text : List Char) : (quoted text).map fold = quoted (text.map fold) := by
  simp [quoted, map_escaped folds, folds.punctuation '"' (by simp)]

theorem map_fieldsText (fields : List (List Char × List Char)) : (fieldsText fields).map fold =
      fieldsText (fields.map (Prod.map (List.map fold) (List.map fold))) := by
  induction fields with
  | nil => simp [fieldsText, folds.punctuation '}' (by simp)]
  | cons field fields ih =>
    simp [fieldsText, map_quoted folds, ih, folds.punctuation ',' (by simp),
      folds.punctuation ':' (by simp)]

theorem map_objectText (key value : List Char) (fields : List (List Char × List Char)) :
    (objectText key value fields).map fold = objectText (key.map fold) (value.map fold)
      (fields.map (Prod.map (List.map fold) (List.map fold))) := by
  simp [objectText, map_quoted folds, map_fieldsText folds, folds.punctuation '{' (by simp),
    folds.punctuation ':' (by simp)]

theorem map_keyed (key needle : List Char) :
    (keyed key needle).map fold = keyed (key.map fold) (needle.map fold) := by
  simp [keyed, folds.punctuation '"' (by simp), folds.punctuation ':' (by simp)]

end Folding

end QuantaWatch.Lib.Json
