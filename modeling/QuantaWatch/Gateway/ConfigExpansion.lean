import QuantaWatch.Lib.Text

/-!
References to environment variables in the configuration (`qw-gateway`).
-/

namespace QuantaWatch.Gateway

open Lib

/-- `str::find` of a part: what stands before its first occurrence and after it. -/
def findPart (part : List Char) : List Char → Option (List Char × List Char)
  | [] => none
  | char :: rest =>
    if part <+: char :: rest then some ([], (char :: rest).drop part.length)
    else (findPart part rest).map (Prod.map (char :: ·) id)

def NoneBefore (part text : List Char) (bound : Nat) : Prop :=
  ∀ start < bound, ¬part <+: text.drop start

section Find

variable {part text front back rest : List Char} {char : Char} {bound : Nat}

theorem NoneBefore.cons (here : ¬part <+: char :: rest) (later : NoneBefore part rest bound) :
    NoneBefore part (char :: rest) (bound + 1) := by
  intro start early
  cases start with
  | zero => exact here
  | succ start => exact later start (Nat.lt_of_succ_lt_succ early)

theorem findPart_eq_some (found : findPart part text = some (front, back)) :
    text = front ++ (part ++ back) ∧ NoneBefore part text front.length := by
  induction text generalizing front with
  | nil => cases found
  | cons char rest ih =>
    rw [findPart] at found
    split_ifs at found with here
    · obtain ⟨rfl, rfl⟩ := Prod.mk.inj (Option.some.inj found)
      exact ⟨(List.prefix_iff_eq_append.mp here).symm,
        fun _ early => absurd early (Nat.not_lt_zero _)⟩
    · obtain ⟨⟨later, after⟩, inRest, same⟩ := Option.map_eq_some_iff.mp found
      obtain ⟨rfl, rfl⟩ := Prod.mk.inj same
      obtain ⟨split, leftmost⟩ := ih inRest
      exact ⟨congrArg (char :: ·) split, leftmost.cons here⟩

theorem findPart_eq_none (missing : findPart part text = none) :
    NoneBefore part text text.length := by
  induction text with
  | nil => exact fun _ early => absurd early (Nat.not_lt_zero _)
  | cons char rest ih =>
    rw [findPart] at missing
    split_ifs at missing with here
    exact (ih (Option.map_eq_none_iff.mp missing)).cons here

theorem length_findPart (found : findPart part text = some (front, back)) (some : part ≠ []) :
    back.length < text.length := by
  have length := congrArg List.length (findPart_eq_some found).1
  rw [List.length_append, List.length_append] at length
  have positive := List.length_pos_of_ne_nil some
  omega

end Find

def opening : List Char := ['$', '{']

/-- The loop of `expand_env_vars`. -/
def expandFrom (env : String → Option String) (out rest : List Char) : List Char :=
  match found : findPart opening rest with
  | none => out ++ rest
  | some (front, after) =>
    have shorter : after.length < rest.length := length_findPart found (by decide)
    match closed : findPart ['}'] after with
    | some (name, back) =>
      have : back.length < after.length := length_findPart closed (by decide)
      expandFrom env (out ++ front ++ ((env (String.ofList name)).getD "").toList) back
    | none => expandFrom env (out ++ front ++ opening) after
termination_by rest.length

def expandEnvVars (env : String → Option String) (input : String) : String :=
  String.ofList (expandFrom env [] input.toList)

def around (front name back : List Char) : List Char := front ++ (opening ++ (name ++ '}' :: back))

def Complete (text : List Char) : Prop := ∃ front name back, text = around front name back

/-- What the expansion is for: references are replaced from the left, a name runs to the first
closing brace, and a value goes to the output without being read. -/
inductive Expands (env : String → Option String) : List Char → List Char → Prop
  | plain {text : List Char} (whole : ¬Complete text) : Expands env text text
  | reference {front name back rest : List Char}
      (leftmost : NoneBefore opening (around front name back) front.length)
      (closes : '}' ∉ name) (later : Expands env back rest) :
      Expands env (around front name back)
        (front ++ ((env (String.ofList name)).getD "").toList ++ rest)

section Expansion

variable {env : String → Option String} {text front name back front' name' back' : List Char}

theorem NoneBefore.length_le {bound : Nat}
    (leftmost : NoneBefore opening (around front name back) bound) : bound ≤ front.length := by
  by_contra early
  refine leftmost _ (Nat.lt_of_not_le early) ?_
  rw [around, List.drop_left]
  exact List.prefix_append _ _

theorem around_unique (same : around front name back = around front' name' back')
    (leftmost : NoneBefore opening (around front name back) front.length)
    (leftmost' : NoneBefore opening (around front' name' back') front'.length)
    (closes : '}' ∉ name) (closes' : '}' ∉ name') :
    front = front' ∧ name = name' ∧ back = back' := by
  have lengths : front.length = front'.length :=
    Nat.le_antisymm (same ▸ leftmost).length_le (same ▸ leftmost').length_le
  obtain ⟨fronts, rests⟩ := List.append_inj same lengths
  exact ⟨fronts, (Text.append_separator_inj closes closes').mp (List.append_cancel_left rests)⟩

theorem Expands.unique {output other : List Char} (left : Expands env text output)
    (right : Expands env text other) : output = other := by
  induction left generalizing other with
  | plain whole =>
    cases right with
    | plain => rfl
    | reference => exact absurd ⟨_, _, _, rfl⟩ whole
  | @reference front name back rest leftmost closes later ih =>
    generalize isText : around front name back = text at right
    cases right with
    | plain whole => exact absurd ⟨front, name, back, isText.symm⟩ whole
    | reference leftmost' closes' later' =>
      obtain ⟨rfl, rfl, rfl⟩ := around_unique isText leftmost leftmost' closes closes'
      rw [ih later']

theorem not_complete_of_findPart (missing : findPart opening text = none) : ¬Complete text := by
  rintro ⟨front, name, back, rfl⟩
  have le := (findPart_eq_none missing).length_le
  simp [around, opening] at le

theorem notMem_of_findPart (missing : findPart ['}'] text = none) : '}' ∉ text := by
  intro member
  obtain ⟨before, after, rfl⟩ := List.append_of_mem member
  exact findPart_eq_none missing before.length (by simp) (by simp)

/-- No reference starts before the first opening, and none from there on is closed. -/
theorem not_complete_of_unclosed {after : List Char}
    (leftmost : NoneBefore opening (front ++ (opening ++ after)) front.length)
    (unclosed : '}' ∉ after) : ¬Complete (front ++ (opening ++ after)) := by
  rintro ⟨other, name, back, same⟩
  have late : front.length ≤ other.length := (same ▸ leftmost).length_le
  have starts : front <+: around other name back := same ▸ List.prefix_append _ _
  obtain ⟨between, rfl⟩ := List.prefix_of_prefix_length_le starts (List.prefix_append _ _) late
  rw [around, List.append_assoc] at same
  have closing : '}' ∈ opening ++ after := by
    rw [List.append_cancel_left same]
    simp
  simp [opening, unclosed] at closing

theorem closes_of_findPart (found : findPart ['}'] text = some (name, back)) :
    text = name ++ '}' :: back ∧ '}' ∉ name := by
  obtain ⟨split, leftmost⟩ := findPart_eq_some found
  refine ⟨split, fun member => ?_⟩
  obtain ⟨before, after, rfl⟩ := List.append_of_mem member
  exact leftmost before.length (by simp) (by simp [split])

theorem expandFrom_expands (env : String → Option String) (out text : List Char) :
    ∃ output, expandFrom env out text = out ++ output ∧ Expands env text output := by
  fun_induction expandFrom env out text with
  | case1 out text missing => exact ⟨text, rfl, .plain (not_complete_of_findPart missing)⟩
  | case2 out text front after found shorter name back closed inner ih =>
    obtain ⟨output, result, expands⟩ := ih
    obtain ⟨rfl, leftmost⟩ := findPart_eq_some found
    obtain ⟨rfl, closes⟩ := closes_of_findPart closed
    refine ⟨_, ?_, .reference leftmost closes expands⟩
    rw [result]
    simp only [List.append_assoc]
  | case3 out text front after found shorter unclosed ih =>
    -- nothing behind an opening that is not closed is a reference
    obtain ⟨output, result, expands⟩ := ih
    obtain ⟨rfl, leftmost⟩ := findPart_eq_some found
    have noBrace := notMem_of_findPart unclosed
    have plain : ¬Complete after := by
      rintro ⟨front, name, back, rfl⟩
      simp [around] at noBrace
    refine ⟨_, ?_, .plain (not_complete_of_unclosed leftmost noBrace)⟩
    rw [result, expands.unique (.plain plain)]
    simp only [List.append_assoc]

end Expansion

/-- The expansion is one pass from the left that reads no value, and leaves a text without a
complete reference as it is. -/
theorem expandEnvVars_iff (env : String → Option String) (input : String) :
    (∀ output, expandEnvVars env input = String.ofList output ↔ Expands env input.toList output) ∧
      (¬Complete input.toList → expandEnvVars env input = input) := by
  obtain ⟨result, isResult, expands⟩ := expandFrom_expands env [] input.toList
  have expanded (output : List Char) :
      expandEnvVars env input = String.ofList output ↔ Expands env input.toList output := by
    rw [expandEnvVars, isResult, List.nil_append]
    refine ⟨fun same => ?_, fun other => by rw [expands.unique other]⟩
    rw [← String.ofList_injective same]
    exact expands
  refine ⟨expanded, fun whole => ?_⟩
  rw [(expanded _).mpr (.plain whole), String.ofList_toList]

end QuantaWatch.Gateway
