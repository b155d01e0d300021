import Mathlib

/-!
Texts in which a backslash takes the meaning of a separator away.
-/

namespace QuantaWatch.Lib.Escaped

def escape (special : List Char) (text : List Char) : List Char :=
  text.flatMap fun char => if char ∈ special then ['\\', char] else [char]

def unescape : List Char → List Char
  | '\\' :: char :: rest => char :: unescape rest
  | char :: rest => char :: unescape rest
  | [] => []

theorem escape_cons (special : List Char) (char : Char) (text : List Char) :
    escape special (char :: text) =
      (if char ∈ special then ['\\', char] else [char]) ++ escape special text := by
  rw [escape, List.flatMap_cons]
  rfl

variable {special text piece : List Char} {char : Char}

theorem escape_eq_self (plain : ∀ char ∈ text, char ∉ special) : escape special text = text := by
  induction text with
  | nil => rfl
  | cons char text ih =>
    rw [escape_cons, if_neg (plain char List.mem_cons_self), ih fun other member =>
      plain other (List.mem_cons_of_mem char member)]
    rfl

theorem mem_of_mem_escape (notEscape : char ≠ '\\') (member : char ∈ escape special text) :
    char ∈ text := by
  obtain ⟨other, isOther, inPiece⟩ := List.mem_flatMap.mp member
  split_ifs at inPiece with isSpecial
  · rw [List.mem_pair] at inPiece
    rw [inPiece.resolve_left notEscape]
    exact isOther
  · rw [List.mem_singleton.mp inPiece]
    exact isOther

theorem unescape_cons (plain : char ≠ '\\') (rest : List Char) :
    unescape (char :: rest) = char :: unescape rest := by
  rw [unescape]
  intro next tail same
  exact absurd same plain

theorem unescape_escape (escapes : '\\' ∈ special) (text : List Char) :
    unescape (escape special text) = text := by
  induction text with
  | nil => rfl
  | cons char text ih =>
    rw [escape_cons]
    split_ifs with isSpecial
    · show unescape ('\\' :: char :: escape special text) = _
      rw [unescape, ih]
    · have plain : char ≠ '\\' := fun same => isSpecial (same ▸ escapes)
      show unescape (char :: escape special text) = _
      rw [unescape_cons plain, ih]

inductive Closed (separator : Char) : List Char → Prop
  | nil : Closed separator []
  | pair {char : Char} {rest : List Char} :
      Closed separator rest → Closed separator ('\\' :: char :: rest)
  | plain {char : Char} {rest : List Char} (isPlain : char ≠ '\\') (isOther : char ≠ separator) :
      Closed separator rest → Closed separator (char :: rest)

variable {separator : Char}

theorem Closed.append {left right : List Char} (leftClosed : Closed separator left)
    (rightClosed : Closed separator right) : Closed separator (left ++ right) := by
  induction leftClosed with
  | nil => exact rightClosed
  | pair _ ih => exact .pair ih
  | plain isPlain isOther _ ih => exact .plain isPlain isOther ih

theorem closed_of_notMem (noEscape : '\\' ∉ text) (noSeparator : separator ∉ text) :
    Closed separator text := by
  induction text with
  | nil => exact .nil
  | cons char text ih =>
    exact .plain (List.ne_of_not_mem_cons noEscape).symm
      (List.ne_of_not_mem_cons noSeparator).symm
      (ih (List.not_mem_of_not_mem_cons noEscape)
        (List.not_mem_of_not_mem_cons noSeparator))

theorem closed_escape (escapes : '\\' ∈ special) (separates : separator ∈ special)
    (text : List Char) : Closed separator (escape special text) := by
  induction text with
  | nil => exact .nil
  | cons char text ih =>
    rw [escape_cons]
    split_ifs with isSpecial
    · exact .pair ih
    · exact .plain (fun same => isSpecial (same ▸ escapes))
        (fun same => isSpecial (same ▸ separates)) ih

def extend (chars : List Char) : List (List Char) → List (List Char)
  | [] => [chars]
  | piece :: pieces => (chars ++ piece) :: pieces

def split (separator : Char) : List Char → List (List Char)
  | '\\' :: char :: rest => extend ['\\', char] (split separator rest)
  | char :: rest =>
    if char = separator then [] :: split separator rest
    else extend [char] (split separator rest)
  | [] => [[]]

theorem split_cons (plain : char ≠ '\\') (rest : List Char) : split separator (char :: rest) =
      if char = separator then [] :: split separator rest
      else extend [char] (split separator rest) := by
  rw [split]
  intro next tail same
  exact absurd same plain

theorem split_append (closed : Closed separator piece) (notEscape : separator ≠ '\\')
    (rest : List Char) :
    split separator (piece ++ separator :: rest) = piece :: split separator rest := by
  induction closed with
  | nil => rw [List.nil_append, split_cons notEscape, if_pos rfl]
  | pair _ ih =>
    rw [List.cons_append, List.cons_append, split, ih]
    rfl
  | plain isPlain isOther _ ih =>
    rw [List.cons_append, split_cons isPlain, if_neg isOther, ih]
    rfl

theorem split_closed (closed : Closed separator piece) : split separator piece = [piece] := by
  induction closed with
  | nil => rfl
  | pair _ ih =>
    rw [split, ih]
    rfl
  | plain isPlain isOther _ ih =>
    rw [split_cons isPlain, if_neg isOther, ih]
    rfl

theorem intercalate_extend (chars : List Char) {pieces : List (List Char)} (some : pieces ≠ []) :
    [separator].intercalate (extend chars pieces) = chars ++ [separator].intercalate pieces := by
  cases pieces with
  | nil => exact absurd rfl some
  | cons piece pieces =>
    cases pieces with
    | nil => simp [extend]
    | cons next pieces => simp [extend, List.intercalate_cons_cons]

theorem split_ne_nil (text : List Char) : split separator text ≠ [] := by
  have extended (chars : List Char) (pieces : List (List Char)) : extend chars pieces ≠ [] := by
    cases pieces <;> simp [extend]
  fun_cases split separator text
  · exact extended _ _
  · exact List.cons_ne_nil _ _
  · exact extended _ _
  · exact List.cons_ne_nil _ _

theorem intercalate_split (text : List Char) :
    [separator].intercalate (split separator text) = text := by
  fun_induction split separator text with
  | case1 char rest ih =>
    rw [intercalate_extend _ (split_ne_nil rest), ih]
    rfl
  | case2 rest notPair ih =>
    rw [List.intercalate_cons_of_ne_nil (split_ne_nil rest), ih]
    rfl
  | case3 char rest notPair differs ih =>
    rw [intercalate_extend _ (split_ne_nil rest), ih]
    rfl
  | case4 => rfl

theorem intercalate_cons (first : List Char) (pieces : List (List Char)) :
    [separator].intercalate (first :: pieces) =
      first ++ pieces.flatMap fun piece => separator :: piece := by
  induction pieces generalizing first with
  | nil => simp
  | cons next pieces ih =>
    rw [List.intercalate_cons_cons, ih]
    simp

def cutLast (separator : Char) (text : List Char) : Option (List Char × List Char) :=
  match text.reverse.dropWhile (· ≠ separator) with
  | [] => none
  | _ :: before => some (before.reverse, (text.reverse.takeWhile (· ≠ separator)).reverse)

theorem cutLast_append {after : List Char} (free : separator ∉ after) (before : List Char) :
    cutLast separator (before ++ separator :: after) = some (before, after) := by
  have other : ∀ char ∈ after.reverse, decide (char ≠ separator) = true := by
    intro char member
    rw [decide_eq_true_eq]
    rintro rfl
    exact free (List.mem_reverse.mp member)
  rw [cutLast, List.reverse_append, List.reverse_cons, List.append_assoc, List.singleton_append,
    List.dropWhile_append_of_pos other, List.takeWhile_append_of_pos other]
  simp

end QuantaWatch.Lib.Escaped
