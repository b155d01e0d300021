import Mathlib

/-!
Patterns in which a star stands for any text, and those of the SQL operator `LIKE` with
the escape character `\`.
-/

namespace QuantaWatch.Lib.Glob

variable {α : Type}

inductive Matches (star : α) : List α → List α → Prop
  | nil : Matches star [] []
  | literal {symbol : α} {pattern text : List α} (isLiteral : symbol ≠ star) :
      Matches star pattern text → Matches star (symbol :: pattern) (symbol :: text)
  | star {pattern text : List α} (gap : List α) :
      Matches star pattern text → Matches star (star :: pattern) (gap ++ text)

def Fits : List (List α) → List α → Prop
  | [], _ => False
  | [last], text => text = last
  | first :: next :: rest, text =>
    ∃ gap tail, text = first ++ (gap ++ tail) ∧ Fits (next :: rest) tail

variable {parts : List (List α)} {text : List α}

theorem fits_nil_cons (some : parts ≠ []) :
    Fits ([] :: parts) text ↔ ∃ gap tail, text = gap ++ tail ∧ Fits parts tail := by
  cases parts with
  | nil => exact absurd rfl some
  | cons next rest => rfl

theorem fits_modifyHead {symbol : α} :
    Fits (parts.modifyHead (symbol :: ·)) text ↔
      ∃ rest, text = symbol :: rest ∧ Fits parts rest := by
  match parts with
  | [] => simp [Fits]
  | [last] => simp [Fits]
  | first :: next :: later =>
    constructor
    · rintro ⟨gap, tail, rfl, fits⟩
      exact ⟨first ++ (gap ++ tail), rfl, gap, tail, rfl, fits⟩
    · rintro ⟨rest, rfl, gap, tail, rfl, fits⟩
      exact ⟨gap, tail, rfl, fits⟩

section Parts

variable [DecidableEq α] {star : α}

theorem splitOn_cons (symbol : α) (pattern : List α) : (symbol :: pattern).splitOn star =
      if symbol = star then [] :: pattern.splitOn star
      else (pattern.splitOn star).modifyHead (symbol :: ·) := by
  rw [List.splitOn_eq_splitOnP, List.splitOnP_cons_eq_if_modifyHead, ← List.splitOn_eq_splitOnP]
  simp only [beq_iff_eq]

theorem length_splitOn (pattern : List α) :
    (pattern.splitOn star).length = pattern.count star + 1 := by
  induction pattern with
  | nil => rfl
  | cons symbol pattern ih =>
    rw [splitOn_cons]
    split_ifs with isStar
    · rw [List.length_cons, ih, isStar, List.count_cons_self]
    · rw [List.length_modifyHead, ih, List.count_cons_of_ne isStar]

variable {pattern text : List α}

theorem matches_iff_fits : Matches star pattern text ↔ Fits (pattern.splitOn star) text := by
  induction pattern generalizing text with
  | nil =>
    constructor
    · rintro ⟨⟩
      rfl
    · rintro rfl
      exact .nil
  | cons symbol pattern ih =>
    rw [splitOn_cons]
    split_ifs with isStar
    · subst isStar
      rw [fits_nil_cons (List.splitOn_ne_nil _ _)]
      constructor
      · intro matched
        cases matched with
        | literal isLiteral _ => exact absurd rfl isLiteral
        | star gap rest => exact ⟨gap, _, rfl, ih.mp rest⟩
      · rintro ⟨gap, tail, rfl, fits⟩
        exact .star gap (ih.mpr fits)
    · rw [fits_modifyHead]
      constructor
      · intro matched
        cases matched with
        | literal _ rest => exact ⟨_, rfl, ih.mp rest⟩
        | star gap _ => exact absurd rfl isStar
      · rintro ⟨rest, rfl, fits⟩
        exact .literal isStar (ih.mpr fits)

theorem matches_literal (noStar : star ∉ pattern) : Matches star pattern text ↔ text = pattern := by
  have onePart : pattern.splitOn star = [pattern] := by
    simpa using @List.splitOn_intercalate _ [pattern] _ _ star (by simpa using noStar) (by simp)
  rw [matches_iff_fits, onePart]
  rfl

end Parts

section Greedy

variable [DecidableEq α]

def cutFirst (part : List α) : List α → Option (List α × List α)
  | [] => if part = [] then some ([], []) else none
  | symbol :: rest =>
    if part <+: symbol :: rest then some ([], (symbol :: rest).drop part.length)
    else (cutFirst part rest).map fun pieces => (symbol :: pieces.1, pieces.2)

theorem append_of_cutFirst {part text before after : List α}
    (found : cutFirst part text = some (before, after)) : text = before ++ (part ++ after) := by
  induction text generalizing before with
  | nil =>
    rw [cutFirst] at found
    split_ifs at found with isEmpty
    cases found
    rw [isEmpty]
    rfl
  | cons symbol rest ih =>
    rw [cutFirst] at found
    split_ifs at found with isPrefix
    · cases found
      exact List.prefix_append_drop isPrefix
    · obtain ⟨pieces, inRest, same⟩ := Option.map_eq_some_iff.mp found
      cases same
      rw [ih inRest]
      rfl

theorem cutFirst_of_prefix {part text : List α} (isPrefix : part <+: text) :
    cutFirst part text = some ([], text.drop part.length) := by
  cases text with
  | nil =>
    obtain rfl := List.prefix_nil.mp isPrefix
    rfl
  | cons symbol rest => rw [cutFirst, if_pos isPrefix]

theorem cutFirst_of_append (part before after : List α) :
    ∃ first rest, cutFirst part (before ++ (part ++ after)) = some (first, rest) ∧
      after <:+ rest := by
  induction before with
  | nil =>
    refine ⟨[], after, ?_, List.suffix_refl after⟩
    rw [List.nil_append, cutFirst_of_prefix (List.prefix_append part after), List.drop_left]
  | cons symbol before ih =>
    by_cases isPrefix : part <+: symbol :: before ++ (part ++ after)
    · refine ⟨[], _, cutFirst_of_prefix isPrefix, ?_⟩
      -- Both are ends of one text, and the later one is shorter.
      have isSuffix : after <:+ symbol :: before ++ (part ++ after) :=
        ⟨symbol :: before ++ part, by simp⟩
      refine List.suffix_of_suffix_length_le isSuffix (List.drop_suffix _ _) ?_
      rw [List.length_drop, List.length_append, List.length_append]
      omega
    · obtain ⟨first, rest, found, shorter⟩ := ih
      refine ⟨symbol :: first, rest, ?_, shorter⟩
      rw [List.cons_append] at isPrefix ⊢
      rw [cutFirst, if_neg isPrefix, found]
      rfl

def greedy : List (List α) → List α → Bool
  | [], _ => false
  | [last], text => last <:+ text
  | part :: next :: rest, text =>
    match cutFirst part text with
    | none => false
    | some pieces => greedy (next :: rest) pieces.2

theorem greedy_iff {parts : List (List α)} {text : List α} :
    greedy parts text = true ↔ ∃ gap tail, text = gap ++ tail ∧ Fits parts tail := by
  induction parts generalizing text with
  | nil => simp [greedy, Fits]
  | cons part parts ih =>
    cases parts with
    | nil =>
      rw [greedy, decide_eq_true_eq]
      constructor
      · rintro ⟨gap, rfl⟩
        exact ⟨gap, part, rfl, rfl⟩
      · rintro ⟨gap, tail, rfl, rfl⟩
        exact List.suffix_append gap tail
    | cons next rest =>
      constructor
      · intro found
        rw [greedy] at found
        split at found
        · cases found
        · next pieces cut =>
            obtain ⟨gap, tail, same, fits⟩ := ih.mp found
            refine ⟨pieces.1, part ++ (gap ++ tail), ?_, gap, tail, rfl, fits⟩
            rw [append_of_cutFirst cut, same]
      · rintro ⟨front, tail, rfl, gap, last, rfl, fits⟩
        obtain ⟨first, later, cut, suffix⟩ := cutFirst_of_append part front (gap ++ last)
        obtain ⟨more, rfl⟩ := suffix
        rw [greedy, cut]
        refine ih.mpr ⟨more ++ gap, last, ?_, fits⟩
        rw [List.append_assoc]

end Greedy

end QuantaWatch.Lib.Glob

namespace QuantaWatch.Lib.Like

inductive Token where
  | exact (char : Char)
  | one
  | many
deriving DecidableEq

def tokens : List Char → List Token
  | [] => []
  | '\\' :: char :: rest => .exact char :: tokens rest
  | '%' :: rest => .many :: tokens rest
  | '_' :: rest => .one :: tokens rest
  | char :: rest => .exact char :: tokens rest

def matchesTokens (fold : Char → Char) : List Token → List Char → Bool
  | [], text => text.isEmpty
  | .exact _ :: _, [] => false
  | .exact char :: rest, first :: text => fold char == fold first && matchesTokens fold rest text
  | .one :: _, [] => false
  | .one :: rest, _ :: text => matchesTokens fold rest text
  | .many :: rest, text => text.tails.any (matchesTokens fold rest)

def like (fold : Char → Char) (pattern text : List Char) : Bool :=
  matchesTokens fold (tokens pattern) text

/-- `str::replace` of one character. -/
def replaceChar (char : Char) (replacement : List Char) (text : List Char) : List Char :=
  text.flatMap fun other => if other = char then replacement else [other]

def escape (text : List Char) : List Char :=
  replaceChar '_' ['\\', '_'] (replaceChar '%' ['\\', '%'] (replaceChar '\\' ['\\', '\\'] text))

theorem escape_append (front rest : List Char) :
    escape (front ++ rest) = escape front ++ escape rest := by
  simp [escape, replaceChar]

private def escapeOne (char : Char) : List Char :=
  if char = '\\' ∨ char = '%' ∨ char = '_' then ['\\', char] else [char]

theorem escape_eq_flatMap (text : List Char) : escape text = text.flatMap escapeOne := by
  unfold escape replaceChar
  rw [List.flatMap_assoc, List.flatMap_assoc]
  apply List.flatMap_congr
  intro char _
  by_cases backslash : char = '\\'
  · subst backslash; decide
  · by_cases percent : char = '%'
    · subst percent; decide
    · by_cases underscore : char = '_'
      · subst underscore; decide
      · simp [escapeOne, backslash, percent, underscore]

theorem tokens_escape_append (text rest : List Char) :
    tokens (escape text ++ rest) = text.map .exact ++ tokens rest := by
  rw [escape_eq_flatMap]
  induction text with
  | nil => rfl
  | cons char text ih =>
    rw [List.flatMap_cons, List.append_assoc, List.map_cons, List.cons_append,
      ← ih]
    by_cases special : char = '\\' ∨ char = '%' ∨ char = '_'
    · rw [escapeOne, if_pos special]
      rfl
    · rw [escapeOne, if_neg special]
      rw [not_or, not_or] at special
      rw [List.singleton_append, tokens]
      · intro next more isEscape
        exact absurd isEscape special.1
      · exact special.2.1
      · exact special.2.2

variable {fold : Char → Char}

theorem matchesTokens_exact_many {text other : List Char} :
    matchesTokens fold (text.map .exact ++ [.many]) other = true ↔
      text.map fold <+: other.map fold := by
  induction text generalizing other with
  | nil =>
    simp only [List.map_nil, List.nil_append, matchesTokens, List.nil_prefix, iff_true,
      List.any_eq_true]
    exact ⟨[], by simp⟩
  | cons char text ih =>
    cases other with
    | nil => simp [matchesTokens]
    | cons first other =>
      rw [List.map_cons, List.cons_append, matchesTokens, Bool.and_eq_true,
        ih, beq_iff_eq, List.map_cons, List.map_cons, List.cons_prefix_cons]

theorem like_anywhere {text other : List Char} :
    like fold ('%' :: (escape text ++ ['%'])) other = true ↔
      text.map fold <:+: other.map fold := by
  have pattern : tokens ('%' :: (escape text ++ ['%'])) =
      .many :: (text.map .exact ++ [.many]) := by
    rw [tokens, tokens_escape_append]
    rfl
  rw [like, pattern, matchesTokens, List.any_eq_true, List.infix_iff_prefix_suffix]
  constructor
  · intro found
    rcases found with ⟨tail, isTail, front⟩
    exact ⟨tail.map fold, matchesTokens_exact_many.mp front,
      ((List.mem_tails _ _).mp isTail).map fold⟩
  · intro found
    rcases found with ⟨folded, front, isSuffix⟩
    rw [List.suffix_iff_eq_drop, ← List.map_drop] at isSuffix
    rw [isSuffix] at front
    exact ⟨_, (List.mem_tails _ _).mpr (List.drop_suffix _ _), matchesTokens_exact_many.mpr front⟩

end QuantaWatch.Lib.Like
