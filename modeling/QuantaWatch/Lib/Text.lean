import Mathlib

/-!
Texts put together from pieces, and the longest run of characters that pass a test.
-/

namespace QuantaWatch.Lib.Text

/-- The Unicode property `White_Space`. -/
def isWhitespace (char : Char) : Bool :=
  let code := char.toNat
  (0x9 ≤ code && code ≤ 0xD) || code == 0x20 || code == 0x85 || code == 0xA0 || code == 0x1680 ||
    (0x2000 ≤ code && code ≤ 0x200A) || code == 0x2028 || code == 0x2029 || code == 0x202F ||
    code == 0x205F || code == 0x3000

/-- `str::trim`. -/
def trim (text : String) : String :=
  String.ofList (((text.toList.dropWhile isWhitespace).reverse.dropWhile isWhitespace).reverse)

structure CaseMapping where
  toLowercase : String → String
  toUppercase : String → String

def asciiCase : CaseMapping where
  toLowercase text := String.ofList (text.toList.map Char.toLower)
  toUppercase text := String.ofList (text.toList.map Char.toUpper)

/-- `eq_ignore_ascii_case` -/
def eqIgnoreAsciiCase (left right : String) : Bool :=
  left.toList.map Char.toLower = right.toList.map Char.toLower

/-- `str::contains` -/
def containsText (text part : String) : Bool := decide (part.toList <:+: text.toList)

def replaceFrom {β : Type} (part : List Char) (mark : List β) (keep : Char → β) :
    Nat → List Char → List β
  | _, [] => []
  | skip + 1, _ :: rest => replaceFrom part mark keep skip rest
  | 0, char :: rest =>
    if part <+: char :: rest then mark ++ replaceFrom part mark keep (part.length - 1) rest
    else keep char :: replaceFrom part mark keep 0 rest

/-- `str::replace`, of a part that is not empty. -/
def replace (text part mark : String) : String :=
  String.ofList (replaceFrom part.toList mark.toList id 0 text.toList)

/-- `str::replace` of the characters that pass a test. -/
def replaceChars (test : Char → Bool) (mark text : String) : String :=
  String.ofList (text.toList.flatMap fun char => if test char then mark.toList else [char])

def lastPieceFrom (part piece : List Char) : Nat → List Char → List Char
  | _, [] => piece
  | skip + 1, _ :: rest => lastPieceFrom part piece skip rest
  | 0, char :: rest =>
    if part <+: char :: rest then lastPieceFrom part [] (part.length - 1) rest
    else lastPieceFrom part (piece ++ [char]) 0 rest

/-- `str::split(…).last()`, for a part that is not empty. -/
def lastPiece (text part : String) : List Char := lastPieceFrom part.toList [] 0 text.toList

def byteLength (text : List Char) : Nat := (text.map Char.utf8Size).sum

/-- `&text[position..]`. None stands for the panic at a position within a character or
after the end. -/
def sliceFrom : List Char → Nat → Option (List Char)
  | text, 0 => some text
  | [], _ + 1 => none
  | char :: rest, position + 1 =>
    if char.utf8Size ≤ position + 1 then sliceFrom rest (position + 1 - char.utf8Size) else none

/-- `&text[..position]`, with the same panics. -/
def sliceTo : List Char → Nat → Option (List Char)
  | _, 0 => some []
  | [], _ + 1 => none
  | char :: rest, position + 1 =>
    if char.utf8Size ≤ position + 1 then
      (sliceTo rest (position + 1 - char.utf8Size)).map (char :: ·)
    else none

def linesAfter (line : List Char) : List Char → List (List Char)
  | [] => if line = [] then [] else [line]
  | '\n' :: rest =>
    (if line.getLast? = some '\r' then line.dropLast else line) :: linesAfter [] rest
  | char :: rest => linesAfter (line ++ [char]) rest

/-- `str::lines` -/
def lines (text : String) : List String := (linesAfter [] text.toList).map String.ofList

theorem sliceFrom_append (front rest : List Char) :
    sliceFrom (front ++ rest) (byteLength front) = some rest := by
  induction front with
  | nil => rw [List.nil_append, byteLength, List.map_nil, List.sum_nil, sliceFrom]
  | cons char front ih =>
    have size := Char.utf8Size_pos char
    obtain ⟨position, same⟩ : ∃ position, byteLength (char :: front) = position + 1 :=
      ⟨byteLength (char :: front) - 1, by rw [byteLength, List.map_cons, List.sum_cons]; omega⟩
    have shorter : position + 1 - char.utf8Size = byteLength front := by
      rw [← same, byteLength, List.map_cons, List.sum_cons, Nat.add_sub_cancel_left, byteLength]
    have fits : char.utf8Size ≤ position + 1 := by
      rw [← same, byteLength, List.map_cons, List.sum_cons]
      omega
    rw [same, List.cons_append, sliceFrom, if_pos fits, shorter, ih]

theorem byteLength_append (front rest : List Char) :
    byteLength (front ++ rest) = byteLength front + byteLength rest := by
  rw [byteLength, List.map_append, List.sum_append, byteLength, byteLength]

theorem byteLength_cons (char : Char) (rest : List Char) :
    byteLength (char :: rest) = char.utf8Size + byteLength rest := by
  rw [byteLength, List.map_cons, List.sum_cons, byteLength]

theorem byteLength_reverse (text : List Char) : byteLength text.reverse = byteLength text := by
  rw [byteLength, List.map_reverse, List.sum_reverse, byteLength]

theorem length_le_byteLength (text : List Char) : text.length ≤ byteLength text := by
  induction text with
  | nil => exact Nat.zero_le _
  | cons char rest ih =>
    have size := Char.utf8Size_pos char
    rw [byteLength_cons, List.length_cons]
    omega

variable {text front : List Char} {position : Nat}

theorem byteLength_eq_zero : byteLength text = 0 ↔ text = [] := by
  refine ⟨fun empty => ?_, fun empty => by rw [empty]; rfl⟩
  have short := length_le_byteLength text
  exact List.eq_nil_of_length_eq_zero (by omega)

theorem sliceTo_zero_iff :
    sliceTo text 0 = some front ↔ byteLength front = 0 ∧ ∃ rest, text = front ++ rest := by
  rw [sliceTo, Option.some.injEq, byteLength_eq_zero]
  constructor
  · rintro rfl
    exact ⟨rfl, text, rfl⟩
  · rintro ⟨empty, -⟩
    exact empty.symm

theorem sliceTo_eq_some_iff : sliceTo text position = some front ↔
      byteLength front = position ∧ ∃ rest, text = front ++ rest := by
  induction text generalizing position front with
  | nil =>
    cases position with
    | zero => exact sliceTo_zero_iff
    | succ position =>
      refine iff_of_false (by simp [sliceTo]) ?_
      rintro ⟨size, rest, split⟩
      rw [(List.append_eq_nil_iff.mp split.symm).1] at size
      exact absurd size (by simp [byteLength])
  | cons char text ih =>
    cases position with
    | zero => exact sliceTo_zero_iff
    | succ position =>
      have size := Char.utf8Size_pos char
      rw [sliceTo]
      cases front with
      | nil =>
        refine iff_of_false ?_ (by simp [byteLength])
        split_ifs <;> simp
      | cons other front =>
        rw [byteLength_cons]
        by_cases fits : char.utf8Size ≤ position + 1
        · rw [if_pos fits, Option.map_eq_some_iff]
          simp only [ih, List.cons.injEq, List.cons_append]
          constructor
          · rintro ⟨piece, ⟨length, rest, rfl⟩, rfl, rfl⟩
            exact ⟨by omega, rest, rfl, rfl⟩
          · rintro ⟨length, rest, rfl, rfl⟩
            exact ⟨front, ⟨by omega, rest, rfl⟩, rfl, rfl⟩
        · rw [if_neg fits]
          refine iff_of_false (by simp) ?_
          rintro ⟨length, rest, split⟩
          rw [List.cons_append, List.cons.injEq] at split
          rw [split.1] at fits
          omega

theorem sliceFrom_eq_some_iff {rest : List Char} : sliceFrom text position = some rest ↔
      ∃ front, byteLength front = position ∧ text = front ++ rest := by
  refine ⟨fun cut => ?_, ?_⟩
  · induction text generalizing position with
    | nil =>
      cases position with
      | zero => exact ⟨[], rfl, by simpa [sliceFrom] using cut⟩
      | succ position => simp [sliceFrom] at cut
    | cons char text ih =>
      cases position with
      | zero => exact ⟨[], rfl, by simpa [sliceFrom] using cut⟩
      | succ position =>
        rw [sliceFrom] at cut
        split_ifs at cut with fits
        obtain ⟨front, size, rfl⟩ := ih cut
        exact ⟨char :: front, by rw [byteLength_cons]; omega, rfl⟩
  · rintro ⟨front, rfl, rfl⟩
    exact sliceFrom_append front rest

theorem linesAfter_append (oneLine : '\n' ∉ text) (read rest : List Char) :
    linesAfter read (text ++ '\n' :: rest) =
      linesAfter (read ++ text) ('\n' :: rest) := by
  induction text generalizing read with
  | nil => rw [List.append_nil, List.nil_append]
  | cons char text ih =>
    have other : char ≠ '\n' := (List.ne_of_not_mem_cons oneLine).symm
    have step : linesAfter read (char :: (text ++ '\n' :: rest)) =
        linesAfter (read ++ [char]) (text ++ '\n' :: rest) := by
      rw [linesAfter]
      exact other
    rw [List.cons_append, step, ih (List.not_mem_of_not_mem_cons oneLine),
      List.append_assoc, List.singleton_append]

theorem linesAfter_flatMap {texts : List (List Char)}
    (oneLine : ∀ text ∈ texts, '\n' ∉ text ∧ '\r' ∉ text) :
    linesAfter [] (texts.flatMap fun text => text ++ ['\n']) = texts := by
  induction texts with
  | nil => rfl
  | cons text texts ih =>
    obtain ⟨noFeed, noReturn⟩ := oneLine text List.mem_cons_self
    have last : text.getLast? ≠ some '\r' := fun isLast =>
      noReturn (List.mem_of_getLast? isLast)
    rw [List.flatMap_cons, List.append_assoc, List.singleton_append, linesAfter_append noFeed,
      List.nil_append, linesAfter, if_neg last, ih fun other member =>
        oneLine other (List.mem_cons_of_mem text member)]

theorem toList_foldl_append {α : Type} (push : α → String) (items : List α) (start : String) :
    (items.foldl (fun text item => text ++ push item) start).toList =
      start.toList ++ items.flatMap fun item => (push item).toList := by
  induction items generalizing start with
  | nil => simp
  | cons item items ih => simp [ih]

theorem infix_flatMap {α β : Type} {piece : α → List β} {items : List α} {item : α}
    (member : item ∈ items) : piece item <:+: items.flatMap piece :=
  List.infix_of_mem_flatten (List.mem_map_of_mem member)

theorem infix_intercalate {separator text : String} {texts : List String} (member : text ∈ texts) :
    text.toList <:+: (separator.intercalate texts).toList := by
  rw [String.toList_intercalate]
  induction texts with
  | nil => cases member
  | cons first rest ih =>
    rw [List.map_cons]
    rcases List.mem_cons.mp member with rfl | later
    · cases rest with
      | nil => simp
      | cons next rest =>
        rw [List.map_cons, List.intercalate_cons_cons, List.append_assoc]
        exact (List.prefix_append _ _).isInfix
    · have notLast : rest.map String.toList ≠ [] := by
        rw [Ne, List.map_eq_nil_iff]
        exact List.ne_nil_of_mem later
      rw [List.intercalate_cons_of_ne_nil notLast]
      exact (ih later).trans (List.suffix_append _ _).isInfix

theorem append_separator_inj {α : Type} {separator : α} {left right leftRest rightRest : List α}
    (leftFree : separator ∉ left) (rightFree : separator ∉ right) :
    left ++ separator :: leftRest = right ++ separator :: rightRest ↔
      left = right ∧ leftRest = rightRest := by
  induction left generalizing right with
  | nil =>
    cases right with
    | nil => simp
    | cons char right => simp [List.ne_of_not_mem_cons rightFree]
  | cons char left ih =>
    cases right with
    | nil => simp [(List.ne_of_not_mem_cons leftFree).symm]
    | cons other right =>
      have rest := ih (List.not_mem_of_not_mem_cons leftFree)
        (List.not_mem_of_not_mem_cons rightFree)
      rw [List.cons_append, List.cons_append, List.cons.injEq, List.cons.injEq, rest, and_assoc]

theorem append_lastSeparator_inj {α : Type} {separator : α} {left right leftLast rightLast : List α}
    (leftFree : separator ∉ leftLast) (rightFree : separator ∉ rightLast) :
    left ++ separator :: leftLast = right ++ separator :: rightLast ↔
      left = right ∧ leftLast = rightLast := by
  rw [← List.reverse_inj, List.reverse_append, List.reverse_append, List.reverse_cons,
    List.reverse_cons, List.append_assoc, List.append_assoc, List.singleton_append,
    List.singleton_append,
    append_separator_inj (by simpa using leftFree) (by simpa using rightFree),
    List.reverse_inj, List.reverse_inj, and_comm]

theorem toString_toList (number : Nat) : (toString number).toList = Nat.toDigits 10 number :=
  String.toList_ofList

theorem toDigits_inj {left right : Nat} :
    Nat.toDigits 10 left = Nat.toDigits 10 right ↔ left = right := by
  refine ⟨fun same => ?_, fun same => by rw [same]⟩
  rw [← Nat.ofDigitChars_ten_toDigits (n := left), same, Nat.ofDigitChars_ten_toDigits]

theorem notMem_toDigits {char : Char} (notDigit : char.isDigit = false) (number : Nat) :
    char ∉ Nat.toDigits 10 number := by
  intro member
  have digit := Nat.isDigit_of_mem_toDigits (by omega) (by omega) member
  rw [notDigit] at digit
  contradiction

end QuantaWatch.Lib.Text

namespace QuantaWatch.Lib.Runs

variable {α : Type}

def firstLongest : List (List α) → List α
  | [] => []
  | piece :: pieces =>
    if piece.length < (firstLongest pieces).length then firstLongest pieces else piece

def longestRun (test : α → Bool) (elements : List α) : List α :=
  firstLongest (elements.splitOnP fun element => !test element)

theorem firstLongest_append (left right : List (List α)) : firstLongest (left ++ right) =
      if (firstLongest left).length < (firstLongest right).length then firstLongest right
      else firstLongest left := by
  induction left with
  | nil =>
    rw [List.nil_append, firstLongest, List.length_nil]
    split_ifs with longer
    · rfl
    · exact List.eq_nil_of_length_eq_zero (by omega)
  | cons piece pieces ih =>
    rw [List.cons_append, firstLongest, ih, firstLongest]
    split_ifs <;> first | rfl | omega

variable {test : α → Bool} {separator : α}

theorem longestRun_append (isSeparator : test separator = false) (left right : List α) :
    longestRun test (left ++ separator :: right) =
      if (longestRun test left).length < (longestRun test right).length then longestRun test right
      else longestRun test left := by
  rw [longestRun, List.splitOnP_append_cons left right (by rw [isSeparator]; rfl),
    firstLongest_append]
  rfl

theorem longestRun_of_all {run : List α} (all : ∀ element ∈ run, test element = true) :
    longestRun test run = run := by
  have whole : run.splitOnP (fun element => !test element) = [run] :=
    List.splitOnP_eq_singleton fun element member => by rw [all element member]; rfl
  rw [longestRun, whole, firstLongest, firstLongest, List.length_nil, if_neg (Nat.not_lt_zero _)]

theorem longestRun_run_append {run : List α} (all : ∀ element ∈ run, test element = true)
    (isSeparator : test separator = false) (rest : List α) :
    longestRun test (run ++ separator :: rest) =
      if run.length < (longestRun test rest).length then longestRun test rest else run := by
  rw [longestRun_append isSeparator, longestRun_of_all all]

end QuantaWatch.Lib.Runs
