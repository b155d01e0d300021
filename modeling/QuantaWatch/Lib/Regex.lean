import Mathlib

/-!
Regular expressions that are matched with backtracking.

A match is found at the leftmost position where there is one, and among the matches
there the first in the order of preference is taken: the left branch before the right
one, and as many repetitions as possible.
-/

namespace QuantaWatch.Lib

inductive Regex where
  | empty
  | oneOf (test : Char → Bool)
  /-- `[..]*` -/
  | many (test : Char → Bool)
  /-- `\b`, with the characters that belong to words. -/
  | boundary (word : Char → Bool)
  | seq (first second : Regex)
  | alt (first second : Regex)

namespace Regex

def spans (test : Char → Bool) : List Char → List Nat
  | [] => [0]
  | next :: rest => if test next then (spans test rest).map (· + 1) ++ [0] else [0]

def lastOf (before : Option Char) (text : List Char) : Option Char := text.getLast?.or before

def runs : Regex → Option Char → List Char → List Nat
  | empty, _, _ => [0]
  | oneOf _, _, [] => []
  | oneOf test, _, next :: _ => if test next then [1] else []
  | many test, _, text => spans test text
  | boundary word, before, text => if before.any word = text.head?.any word then [] else [0]
  | seq first second, before, text =>
    (first.runs before text).flatMap fun length =>
      (second.runs (lastOf before (text.take length)) (text.drop length)).map (length + ·)
  | alt first second, before, text => first.runs before text ++ second.runs before text

def findAfter (regex : Regex) (before : Option Char) : List Char → Option (List Char)
  | [] => (regex.runs before []).head?.map fun _ => []
  | next :: rest =>
    match regex.runs before (next :: rest) with
    | length :: _ => some ((next :: rest).take length)
    | [] => regex.findAfter (some next) rest

def find (regex : Regex) (text : List Char) : Option (List Char) := regex.findAfter none text

def opt (regex : Regex) : Regex := alt regex empty

def exactly (test : Char → Bool) : Nat → Regex
  | 0 => empty
  | count + 1 => seq (oneOf test) (exactly test count)

/-- `[..]{count,}` -/
def atLeast (test : Char → Bool) (count : Nat) : Regex := seq (exactly test count) (many test)

def within (chars : List Char) (char : Char) : Bool := chars.contains char

section Matches

variable {first second regex : Regex} {before : Option Char} {text : List Char} {length : Nat}

theorem mem_runs_seq : length ∈ (seq first second).runs before text ↔
      ∃ front ∈ first.runs before text,
        ∃ back ∈ second.runs (lastOf before (text.take front)) (text.drop front),
          front + back = length := by
  simp [runs]

variable {test : Char → Bool} {other : Char} {found : List Char}

theorem mem_runs_oneOf : length ∈ (oneOf test).runs before text ↔
      ∃ char rest, text = char :: rest ∧ test char = true ∧ length = 1 := by
  cases text with
  | nil => simp [runs]
  | cons char rest =>
    by_cases passes : test char = true
    · simp [runs, passes]
    · simp [runs, passes]

def avoids : Regex → Char → Bool
  | empty, _ => true
  | oneOf test, other => !test other
  | many test, other => !test other
  | boundary _, _ => true
  | seq first second, other => first.avoids other && second.avoids other
  | alt first second, other => first.avoids other && second.avoids other

theorem spans_test (isRun : length ∈ spans test text) :
    ∀ char ∈ text.take length, test char = true := by
  induction text generalizing length with
  | nil => simp
  | cons first rest ih =>
    rw [spans] at isRun
    split_ifs at isRun with passes
    · rcases List.mem_append.mp isRun with longer | none
      · rcases List.mem_map.mp longer with ⟨shorter, isShorter, rfl⟩
        intro char member
        rw [List.take_succ_cons, List.mem_cons] at member
        rcases member with rfl | later
        · exact passes
        · exact ih isShorter char later
      · rw [List.mem_singleton.mp none]
        simp
    · rw [List.mem_singleton.mp isRun]
      simp

theorem not_mem_of_avoids (avoids : regex.avoids other = true)
    (isRun : length ∈ regex.runs before text) : other ∉ text.take length := by
  induction regex generalizing before text length with
  | empty =>
    rw [List.mem_singleton.mp isRun]
    simp
  | oneOf test =>
    rcases mem_runs_oneOf.mp isRun with ⟨char, rest, rfl, passes, rfl⟩
    intro member
    rw [List.take_succ_cons, List.take_zero, List.mem_singleton] at member
    subst member
    simp [Regex.avoids, passes] at avoids
  | many test =>
    intro member
    simp [Regex.avoids, spans_test isRun other member] at avoids
  | boundary word =>
    rw [runs] at isRun
    split_ifs at isRun
    · exact absurd isRun List.not_mem_nil
    · rw [List.mem_singleton.mp isRun]
      simp
  | seq first second firstHypothesis secondHypothesis =>
    rcases mem_runs_seq.mp isRun with ⟨front, isFront, back, isBack, rfl⟩
    rw [Regex.avoids, Bool.and_eq_true] at avoids
    rw [List.take_add, List.mem_append, not_or]
    exact ⟨firstHypothesis avoids.1 isFront, secondHypothesis avoids.2 isBack⟩
  | alt first second firstHypothesis secondHypothesis =>
    rw [Regex.avoids, Bool.and_eq_true] at avoids
    rcases List.mem_append.mp isRun with inFirst | inSecond
    · exact firstHypothesis avoids.1 inFirst
    · exact secondHypothesis avoids.2 inSecond

theorem exists_run_of_find (isFound : regex.findAfter before text = some found) :
    ∃ last rest length, length ∈ regex.runs last rest ∧ found = rest.take length := by
  induction text generalizing before with
  | nil =>
    rcases Option.map_eq_some_iff.mp isFound with ⟨length, isRun, rfl⟩
    exact ⟨before, [], length, List.mem_of_head? isRun, List.take_nil.symm⟩
  | cons char rest ih =>
    rw [findAfter] at isFound
    split at isFound
    next length lengths isRuns =>
      cases isFound
      exact ⟨before, char :: rest, length, isRuns ▸ List.mem_cons_self, rfl⟩
    next => exact ih isFound

theorem not_mem_of_find (avoids : regex.avoids other = true)
    (isFound : regex.findAfter before text = some found) : other ∉ found := by
  obtain ⟨last, rest, length, isRun, rfl⟩ := exists_run_of_find isFound
  exact not_mem_of_avoids avoids isRun

def leastLength : Regex → Nat
  | empty => 0
  | oneOf _ => 1
  | many _ => 0
  | boundary _ => 0
  | seq first second => first.leastLength + second.leastLength
  | alt first second => min first.leastLength second.leastLength

theorem leastLength_le (isRun : length ∈ regex.runs before text) :
    regex.leastLength ≤ (text.take length).length := by
  induction regex generalizing before text length with
  | empty => exact Nat.zero_le _
  | oneOf test =>
    rcases mem_runs_oneOf.mp isRun with ⟨char, rest, rfl, _, rfl⟩
    exact le_rfl
  | many test => exact Nat.zero_le _
  | boundary word => exact Nat.zero_le _
  | seq first second firstHypothesis secondHypothesis =>
    rcases mem_runs_seq.mp isRun with ⟨front, isFront, back, isBack, rfl⟩
    rw [List.take_add, List.length_append]
    exact Nat.add_le_add (firstHypothesis isFront) (secondHypothesis isBack)
  | alt first second firstHypothesis secondHypothesis =>
    rcases List.mem_append.mp isRun with inFirst | inSecond
    · exact (Nat.min_le_left _ _).trans (firstHypothesis inFirst)
    · exact (Nat.min_le_right _ _).trans (secondHypothesis inSecond)

theorem leastLength_le_of_find (isFound : regex.findAfter before text = some found) :
    regex.leastLength ≤ found.length := by
  obtain ⟨last, rest, length, isRun, rfl⟩ := exists_run_of_find isFound
  exact leastLength_le isRun

end Matches

end Regex

end QuantaWatch.Lib
