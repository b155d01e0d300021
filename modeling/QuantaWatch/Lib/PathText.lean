import Mathlib

/-!
Texts that are paths, and tests of their characters as tests of their
segments.
-/

namespace QuantaWatch.Lib.PathText

def render (segments : List (List Char)) : List Char :=
  segments.flatMap fun segment => '/' :: segment

def Plain (segments : List (List Char)) : Prop :=
  ∀ segment ∈ segments, '/' ∉ segment

theorem render_cons (segment : List Char) (segments : List (List Char)) :
    render (segment :: segments) = '/' :: (segment ++ render segments) := by
  simp [render]

variable {segment rest text : List Char} {segments pattern : List (List Char)}

theorem Plain.head (plain : Plain (segment :: segments)) : '/' ∉ segment :=
  plain segment List.mem_cons_self

theorem Plain.tail (plain : Plain (segment :: segments)) : Plain segments :=
  fun other member => plain other (List.mem_cons_of_mem _ member)

theorem render_nil_or_slash (segments : List (List Char)) :
    render segments = [] ∨ ∃ rest, render segments = '/' :: rest := by
  cases segments with
  | nil => exact Or.inl rfl
  | cons segment segments => exact Or.inr ⟨_, render_cons segment segments⟩

section Patterns

variable {α : Type} (equals begins : List Char → α → Bool)

def startsBy : List (List Char) → List α → Bool
  | [], _ => true
  | _ :: _, [] => false
  | [last], item :: _ => begins last item
  | first :: next :: pattern, item :: items =>
    equals first item && startsBy (next :: pattern) items

def occursBy (pattern : List (List Char)) : List α → Bool
  | [] => startsBy equals begins pattern []
  | item :: items => startsBy equals begins pattern (item :: items) || occursBy pattern items

def wholeBy : List (List Char) → List α → Bool
  | [], [] => true
  | first :: pattern, item :: items => equals first item && wholeBy pattern items
  | _, _ => false

def endsBy (pattern : List (List Char)) : List α → Bool
  | [] => wholeBy equals pattern []
  | item :: items => wholeBy equals pattern (item :: items) || endsBy pattern items

structure Implies {β : Type} (equals' begins' : List Char → β → Bool) (related : α → β → Prop) :
    Prop where
  equals : ∀ text item other, related item other → equals text item = true →
    equals' text other = true
  begins : ∀ text item other, related item other → begins text item = true →
    begins' text other = true

variable {equals begins} {β : Type} {equals' begins' : List Char → β → Bool}
  {related : α → β → Prop} (implies : Implies equals begins equals' begins' related)
  {items : List α} {others : List β}

include implies

variable {pattern : List (List Char)} (each : List.Forall₂ related items others)

include each

theorem startsBy_mono (found : startsBy equals begins pattern items = true) :
    startsBy equals' begins' pattern others = true := by
  induction pattern generalizing items others with
  | nil => rfl
  | cons first pattern ih =>
    cases each with
    | nil => cases pattern <;> cases found
    | cons one each =>
      cases pattern with
      | nil => exact implies.begins _ _ _ one found
      | cons next pattern =>
        simp only [startsBy, Bool.and_eq_true] at found ⊢
        exact ⟨implies.equals _ _ _ one found.1, ih each found.2⟩

theorem occursBy_mono (found : occursBy equals begins pattern items = true) :
    occursBy equals' begins' pattern others = true := by
  induction each with
  | nil => exact startsBy_mono implies List.Forall₂.nil found
  | cons one each ih =>
    simp only [occursBy, Bool.or_eq_true] at found ⊢
    exact found.imp (startsBy_mono implies (List.Forall₂.cons one each)) ih

theorem wholeBy_mono (found : wholeBy equals pattern items = true) :
    wholeBy equals' pattern others = true := by
  induction each generalizing pattern with
  | nil => cases pattern <;> [rfl; cases found]
  | cons one each ih =>
    cases pattern with
    | nil => cases found
    | cons first pattern =>
      simp only [wholeBy, Bool.and_eq_true] at found ⊢
      exact ⟨implies.equals _ _ _ one found.1, ih found.2⟩

theorem endsBy_mono (found : endsBy equals pattern items = true) :
    endsBy equals' pattern others = true := by
  induction each with
  | nil => exact wholeBy_mono implies List.Forall₂.nil found
  | cons one each ih =>
    simp only [endsBy, Bool.or_eq_true] at found ⊢
    exact found.imp (wholeBy_mono implies (List.Forall₂.cons one each)) ih

end Patterns

abbrev starts : List (List Char) → List (List Char) → Bool := startsBy (· == ·) List.isPrefixOf

abbrev occurs : List (List Char) → List (List Char) → Bool := occursBy (· == ·) List.isPrefixOf

abbrev ends : List (List Char) → List (List Char) → Bool := endsBy (· == ·)

theorem prefix_slash_iff {first : List Char} (firstPlain : '/' ∉ first)
    (segmentPlain : '/' ∉ segment) : first ++ '/' :: rest <+: segment ++ render segments ↔
      first = segment ∧ '/' :: rest <+: render segments := by
  induction first generalizing segment with
  | nil =>
    cases segment with
    | nil => simp
    | cons char chars =>
      have different : '/' ≠ char := fun equal => segmentPlain (equal ▸ List.mem_cons_self)
      simp [List.cons_prefix_cons, different]
  | cons char chars ih =>
    have notSlash : char ≠ '/' := fun equal => firstPlain (equal ▸ List.mem_cons_self)
    cases segment with
    | nil =>
      rcases render_nil_or_slash segments with empty | ⟨others, slash⟩
      · simp [empty]
      · simp [slash, List.cons_prefix_cons, notSlash]
    | cons other others =>
      have smaller := @ih others
        (fun member => firstPlain (List.mem_cons_of_mem _ member))
        (fun member => segmentPlain (List.mem_cons_of_mem _ member))
      rw [List.cons_append, List.cons_append, List.cons_prefix_cons, smaller, List.cons.injEq,
        and_assoc]

theorem prefix_append_render_iff {last : List Char} (lastPlain : '/' ∉ last) :
    last <+: segment ++ render segments ↔ last <+: segment := by
  constructor
  · intro isPrefix
    induction last generalizing segment with
    | nil => exact List.nil_prefix
    | cons char chars ih =>
      have notSlash : char ≠ '/' := fun equal => lastPlain (equal ▸ List.mem_cons_self)
      cases segment with
      | nil =>
        rcases render_nil_or_slash segments with empty | ⟨others, slash⟩
        · simp [empty] at isPrefix
        · simp [slash, List.cons_prefix_cons, notSlash] at isPrefix
      | cons other others =>
        rw [List.cons_append, List.cons_prefix_cons] at isPrefix
        rw [List.cons_prefix_cons]
        exact ⟨isPrefix.1, ih
          (fun member => lastPlain (List.mem_cons_of_mem _ member)) isPrefix.2⟩
  · exact fun isPrefix => isPrefix.trans (List.prefix_append _ _)

theorem prefix_render_iff (patternPlain : Plain pattern) (plain : Plain segments) :
    render pattern <+: render segments ↔ starts pattern segments = true := by
  induction pattern generalizing segments with
  | nil => simp [render, startsBy]
  | cons first pattern ih =>
    cases segments with
    | nil => simp [render, startsBy]
    | cons segment segments =>
      rw [render_cons, render_cons, List.cons_prefix_cons]
      cases pattern with
      | nil =>
        simp only [render, List.flatMap_nil, List.append_nil, true_and, startsBy,
          List.isPrefixOf_iff_prefix]
        exact prefix_append_render_iff patternPlain.head
      | cons next pattern =>
        rw [render_cons, prefix_slash_iff patternPlain.head plain.head, ← render_cons,
          ih patternPlain.tail plain.tail]
        simp [startsBy]

theorem infix_skip_iff (plain : '/' ∉ segment) :
    '/' :: rest <:+: segment ++ text ↔ '/' :: rest <:+: text := by
  induction segment with
  | nil => rfl
  | cons char chars ih =>
    have different : '/' ≠ char := fun equal => plain (equal ▸ List.mem_cons_self)
    rw [List.cons_append, List.infix_cons_iff, List.cons_prefix_cons,
      ih fun member => plain (List.mem_cons_of_mem _ member)]
    simp [different]

theorem infix_render_iff (notEmpty : pattern ≠ []) (patternPlain : Plain pattern)
    (plain : Plain segments) :
    render pattern <:+: render segments ↔ occurs pattern segments = true := by
  obtain ⟨first, pattern, rfl⟩ := List.exists_cons_of_ne_nil notEmpty
  induction segments with
  | nil => simp [render, occursBy, startsBy]
  | cons segment segments ih =>
    have later : render (first :: pattern) <:+: segment ++ render segments ↔
        render (first :: pattern) <:+: render segments := by
      rw [render_cons]
      exact infix_skip_iff plain.head
    have here := prefix_render_iff patternPlain plain
    rw [render_cons segment] at here ⊢
    rw [List.infix_cons_iff, here, later, ih plain.tail]
    simp [occursBy]

theorem takeWhile_append_render (segments : List (List Char)) (plain : '/' ∉ segment) :
    (segment ++ render segments).takeWhile (· ≠ '/') = segment := by
  have after : (render segments).takeWhile (· ≠ '/') = [] := by
    rcases render_nil_or_slash segments with empty | ⟨rest, slash⟩
    · rw [empty]
      rfl
    · rw [slash]
      rfl
  rw [List.takeWhile_append_of_pos, after, List.append_nil]
  intro char member
  exact decide_eq_true fun equal : char = '/' => plain (equal ▸ member)

theorem render_eq_iff (patternPlain : Plain pattern) (plain : Plain segments) :
    render pattern = render segments ↔ wholeBy (· == ·) pattern segments = true := by
  induction pattern generalizing segments with
  | nil => cases segments <;> simp [render, wholeBy]
  | cons first pattern ih =>
    cases segments with
    | nil => simp [render, wholeBy]
    | cons segment segments =>
      rw [wholeBy, Bool.and_eq_true, ← ih patternPlain.tail plain.tail,
        render_cons, render_cons, List.cons.injEq, beq_iff_eq]
      constructor
      · rintro ⟨-, equal⟩
        have sameFirst := congrArg (List.takeWhile (· ≠ '/')) equal
        rw [takeWhile_append_render _ patternPlain.head, takeWhile_append_render _ plain.head]
          at sameFirst
        rw [sameFirst] at equal
        exact ⟨sameFirst, List.append_cancel_left equal⟩
      · rintro ⟨rfl, equal⟩
        exact ⟨rfl, congrArg (first ++ ·) equal⟩

theorem suffix_skip_iff (plain : '/' ∉ segment) :
    '/' :: rest <:+ segment ++ text ↔ '/' :: rest <:+ text := by
  induction segment with
  | nil => rfl
  | cons char chars ih =>
    have different : '/' ≠ char := fun equal => plain (equal ▸ List.mem_cons_self)
    rw [List.cons_append, List.suffix_cons_iff, List.cons.injEq,
      ih fun member => plain (List.mem_cons_of_mem _ member)]
    simp [different]

theorem suffix_render_iff (notEmpty : pattern ≠ []) (patternPlain : Plain pattern)
    (plain : Plain segments) :
    render pattern <:+ render segments ↔ ends pattern segments = true := by
  obtain ⟨first, pattern, rfl⟩ := List.exists_cons_of_ne_nil notEmpty
  induction segments with
  | nil => simp [render, endsBy, wholeBy]
  | cons segment segments ih =>
    have later : render (first :: pattern) <:+ segment ++ render segments ↔
        render (first :: pattern) <:+ render segments := by
      rw [render_cons]
      exact suffix_skip_iff plain.head
    have here := render_eq_iff patternPlain plain
    rw [render_cons segment] at here ⊢
    rw [List.suffix_cons_iff, here, later, ih plain.tail]
    simp [endsBy]

theorem eq_of_whole (whole : wholeBy (· == ·) pattern segments = true) : pattern = segments := by
  induction pattern generalizing segments with
  | nil =>
    cases segments with
    | nil => rfl
    | cons segment segments => cases whole
  | cons first pattern ih =>
    cases segments with
    | nil => cases whole
    | cons segment segments =>
      rw [wholeBy, Bool.and_eq_true, beq_iff_eq] at whole
      rw [whole.1, ih whole.2]

theorem suffix_of_ends (found : ends pattern segments = true) : pattern <:+ segments := by
  induction segments with
  | nil => rw [eq_of_whole found]
  | cons segment segments ih =>
    simp only [endsBy, Bool.or_eq_true] at found
    rcases found with whole | later
    · rw [eq_of_whole whole]
    · exact (ih later).trans (List.suffix_cons segment segments)

section Front

variable {first next : List Char} {pattern front segments : List (List Char)}
  (absent : first ∉ front)

include absent

theorem ends_of_append (found : ends (first :: pattern) (front ++ segments) = true) :
    ends (first :: pattern) segments = true := by
  induction front with
  | nil => exact found
  | cons segment front ih =>
    have different : (first == segment) = false :=
      beq_false_of_ne fun equal => absent (equal ▸ List.mem_cons_self)
    simp only [List.cons_append, endsBy, wholeBy, different, Bool.false_and, Bool.false_or]
      at found
    exact ih (fun member => absent (List.mem_cons_of_mem _ member)) found

theorem occurs_of_append (found : occurs (first :: next :: pattern) (front ++ segments) = true) :
    occurs (first :: next :: pattern) segments = true := by
  induction front with
  | nil => exact found
  | cons segment front ih =>
    have different : (first == segment) = false :=
      beq_false_of_ne fun equal => absent (equal ▸ List.mem_cons_self)
    simp only [List.cons_append, occursBy, startsBy, different, Bool.false_and, Bool.false_or]
      at found
    exact ih (fun member => absent (List.mem_cons_of_mem _ member)) found

end Front

def afterFirst (pattern : List Char) : List Char → Option (List Char)
  | [] => none
  | char :: rest =>
    if pattern.isPrefixOf (char :: rest) then some ((char :: rest).drop pattern.length)
    else afterFirst pattern rest

def beforeFirst (pattern : List Char) : List Char → List Char
  | [] => []
  | char :: rest =>
    if pattern.isPrefixOf (char :: rest) then [] else char :: beforeFirst pattern rest

/-- `text.split(pattern).nth(1)`. -/
def secondPiece (pattern text : List Char) : Option (List Char) :=
  (afterFirst pattern text).map (beforeFirst pattern)

theorem takeWhile_beforeFirst (pattern text : List Char) :
    (beforeFirst ('/' :: pattern) text).takeWhile (· ≠ '/') = text.takeWhile (· ≠ '/') := by
  induction text with
  | nil => rfl
  | cons char rest ih =>
    unfold beforeFirst
    split_ifs with found
    · obtain ⟨same, -⟩ := List.cons_prefix_cons.mp (List.isPrefixOf_iff_prefix.mp found)
      simp [← same]
    · rw [List.takeWhile_cons, List.takeWhile_cons, ih]

theorem afterFirst_skip {pattern : List Char} (plain : '/' ∉ segment) :
    afterFirst ('/' :: pattern) (segment ++ text) = afterFirst ('/' :: pattern) text := by
  induction segment with
  | nil => rfl
  | cons char chars ih =>
    have different : '/' ≠ char := fun equal => plain (equal ▸ List.mem_cons_self)
    rw [List.cons_append, afterFirst, if_neg,
      ih fun member => plain (List.mem_cons_of_mem _ member)]
    simp [List.cons_prefix_cons, different]

def segmentAfter (name : List Char) : List (List Char) → Option (List Char)
  | [] => none
  | [_] => none
  | segment :: next :: rest =>
    if segment = name then some next else segmentAfter name (next :: rest)

theorem secondPiece_render {name : List Char} (namePlain : '/' ∉ name) (plain : Plain segments) :
    (secondPiece (render [name, []]) (render segments)).map (List.takeWhile (· ≠ '/')) =
      segmentAfter name segments := by
  have pattern : render [name, []] = '/' :: (name ++ ['/']) := rfl
  have patternPlain : Plain [name, []] := by
    intro segment member
    rcases List.mem_cons.mp member with rfl | last
    · exact namePlain
    · simp [List.mem_singleton.mp last]
  rw [secondPiece, Option.map_map]
  have first : List.takeWhile (· ≠ '/') ∘ beforeFirst (render [name, []]) =
      List.takeWhile (· ≠ '/') := by
    funext text
    rw [Function.comp_apply, pattern, takeWhile_beforeFirst]
  rw [first]
  induction segments with
  | nil => rfl
  | cons segment segments ih =>
    have here := prefix_render_iff patternPlain plain
    rw [render_cons segment] at here ⊢
    simp only [afterFirst, List.isPrefixOf_iff_prefix, here]
    cases segments with
    | nil =>
      have skipped : afterFirst (render [name, []]) (segment ++ render []) = none :=
        afterFirst_skip plain.head
      simp [startsBy, skipped, segmentAfter]
    | cons next rest =>
      have skipped : afterFirst (render [name, []]) (segment ++ render (next :: rest)) =
          afterFirst (render [name, []]) (render (next :: rest)) := afterFirst_skip plain.head
      by_cases same : segment = name
      · have dropped : (('/' :: (name ++ render (next :: rest))).drop
            (render [name, []]).length) = next ++ render rest := by
          simp [pattern, render_cons, List.drop_append]
        subst same
        simp only [startsBy, beq_self_eq_true, List.isPrefixOf, Bool.and_self, if_true, dropped,
          Option.map_some, segmentAfter]
        rw [takeWhile_append_render rest plain.tail.head]
      · have different : (name == segment) = false := by simpa using Ne.symm same
        simp only [startsBy, different, Bool.false_and, Bool.false_eq_true, if_false, skipped,
          ih plain.tail, segmentAfter, same]

def cut : List Char → List Char × List (List Char)
  | [] => ([], [])
  | char :: rest =>
    match cut rest with
    | (first, later) => if char = '/' then ([], first :: later) else (char :: first, later)

def segmentsOf (text : List Char) : List (List Char) := (cut text).2

theorem cut_plain (text : List Char) : '/' ∉ (cut text).1 ∧ Plain (cut text).2 := by
  induction text with
  | nil => simp [cut, Plain]
  | cons char rest ih =>
    unfold cut
    split_ifs with slash
    · refine ⟨List.not_mem_nil, ?_⟩
      intro segment member
      rcases List.mem_cons.mp member with rfl | later
      · exact ih.1
      · exact ih.2 segment later
    · refine ⟨?_, ih.2⟩
      intro member
      rcases List.mem_cons.mp member with same | later
      · exact slash same.symm
      · exact ih.1 later

theorem plain_segmentsOf (text : List Char) : Plain (segmentsOf text) := (cut_plain text).2

theorem append_render_cut (text : List Char) : (cut text).1 ++ render (cut text).2 = text := by
  induction text with
  | nil => rfl
  | cons char rest ih =>
    unfold cut
    split_ifs with slash
    · rw [render_cons, ih, slash]
      rfl
    · rw [List.cons_append, ih]

theorem render_segmentsOf (text : List Char) : render (segmentsOf ('/' :: text)) = '/' :: text :=
  append_render_cut ('/' :: text)

section Tests

variable {pattern : List Char} {segments : List (List Char)} (plain : Plain segments)

include plain

theorem infix_iff_occurs : '/' :: pattern <:+: render segments ↔
      occurs (segmentsOf ('/' :: pattern)) segments = true := by
  have notEmpty : segmentsOf ('/' :: pattern) ≠ [] := by simp [segmentsOf, cut]
  rw [← infix_render_iff notEmpty (plain_segmentsOf _) plain, render_segmentsOf]

theorem suffix_iff_ends :
    '/' :: pattern <:+ render segments ↔ ends (segmentsOf ('/' :: pattern)) segments = true := by
  have notEmpty : segmentsOf ('/' :: pattern) ≠ [] := by simp [segmentsOf, cut]
  rw [← suffix_render_iff notEmpty (plain_segmentsOf _) plain, render_segmentsOf]

end Tests

inductive Slot where
  | literal (text : List Char)
  | parameter
deriving DecidableEq

namespace Slot

def Accepts : Slot → List Char → Prop
  | literal text, segment => segment = text
  | parameter, segment => '/' ∉ segment

def mayBe (text : List Char) : Slot → Bool
  | literal own => text == own
  | parameter => true

def mayBegin (text : List Char) : Slot → Bool
  | literal own => text.isPrefixOf own
  | parameter => true

def mustBe (text : List Char) : Slot → Bool
  | literal own => text == own
  | parameter => false

def mustBegin (text : List Char) : Slot → Bool
  | literal own => text.isPrefixOf own
  | parameter => text.isEmpty

theorem implies_may :
    Implies (· == ·) List.isPrefixOf mayBe mayBegin fun segment slot => slot.Accepts segment where
  equals := by
    intro text segment slot accepts equal
    cases slot with
    | literal own => exact accepts ▸ equal
    | parameter => rfl
  begins := by
    intro text segment slot accepts begins
    cases slot with
    | literal own => exact accepts ▸ begins
    | parameter => rfl

theorem implies_must : Implies mustBe mustBegin (· == ·) List.isPrefixOf Accepts where
  equals := by
    intro text slot segment accepts equal
    cases slot with
    | literal own => exact accepts ▸ equal
    | parameter => cases equal
  begins := by
    intro text slot segment accepts begins
    cases slot with
    | literal own => exact accepts ▸ begins
    | parameter => simp [List.isEmpty_iff.mp begins]

end Slot

abbrev Instance (slots : List Slot) (segments : List (List Char)) : Prop :=
  List.Forall₂ Slot.Accepts slots segments

def Slot.fill (value : List Char) : Slot → List Char
  | literal text => text
  | parameter => value

theorem instance_fill {value : List Char} (plain : '/' ∉ value) (slots : List Slot) :
    Instance slots (slots.map (Slot.fill value)) := by
  apply List.forall₂_map_right_iff.mpr
  apply List.forall₂_same.mpr
  intro slot _
  cases slot with
  | literal text => rfl
  | parameter => exact plain

theorem instance_literals (segments : List (List Char)) :
    Instance (segments.map .literal) segments := by
  apply List.forall₂_map_left_iff.mpr
  apply List.forall₂_same.mpr
  intro segment _
  rfl

abbrev mayOccur : List (List Char) → List Slot → Bool := occursBy Slot.mayBe Slot.mayBegin

abbrev mayEnd : List (List Char) → List Slot → Bool := endsBy Slot.mayBe

abbrev mustOccur : List (List Char) → List Slot → Bool := occursBy Slot.mustBe Slot.mustBegin

section Instances

variable {slots : List Slot} {segments : List (List Char)} (fills : Instance slots segments)
  {pattern : List (List Char)}

include fills

theorem Instance.plain (literals : ∀ text, Slot.literal text ∈ slots → '/' ∉ text) :
    Plain segments := by
  induction fills with
  | nil => simp [Plain]
  | cons accepts fills ih =>
    rename_i slot segment slots segments
    intro other member
    rcases List.mem_cons.mp member with rfl | later
    · cases slot with
      | literal text =>
        rw [show other = text from accepts]
        exact literals text List.mem_cons_self
      | parameter => exact accepts
    · apply ih
      · exact fun text isLiteral => literals text (List.mem_cons_of_mem _ isLiteral)
      · exact later

theorem Instance.not_occurs (never : mayOccur pattern slots = false) :
    occurs pattern segments = false := by
  by_contra found
  have may := occursBy_mono Slot.implies_may fills.flip (by simpa using found)
  cases never.symm.trans may

theorem Instance.not_ends (never : mayEnd pattern slots = false) :
    ends pattern segments = false := by
  by_contra found
  have may := endsBy_mono Slot.implies_may fills.flip (by simpa using found)
  cases never.symm.trans may

theorem Instance.occurs_of_must (always : mustOccur pattern slots = true) :
    occurs pattern segments = true :=
  occursBy_mono Slot.implies_must fills always

theorem Instance.eq_of_literal {other : List (List Char)} (otherFills : Instance slots other)
    (noParameter : Slot.parameter ∉ slots) : segments = other := by
  induction fills generalizing other with
  | nil =>
    cases otherFills
    rfl
  | cons accepts fills ih =>
    rename_i slot segment slots segments
    cases otherFills with
    | cons otherAccepts otherFills =>
      rename_i otherSegment others
      have rest := ih otherFills
        fun member => noParameter (List.mem_cons_of_mem _ member)
      cases slot with
      | literal text => rw [rest, show segment = text from accepts,
          show otherSegment = text from otherAccepts]
      | parameter => exact absurd List.mem_cons_self noParameter

end Instances

end QuantaWatch.Lib.PathText
