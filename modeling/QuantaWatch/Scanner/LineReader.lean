import QuantaWatch.Lib.Utf8

/-!
Lines read from a peer (`read_ident` of `scanners/ssh.rs`, `read_line` of
`scanners/starttls.rs`).
-/

namespace QuantaWatch.Scanner

open Lib Lib.Encoding Lib.Utf8

def cr : UInt8 := 13

def lf : UInt8 := 10

inductive Reading where
  | within (left : Nat) (line : List UInt8)
  | returned (result : Except String String)

namespace Reading

def Returned : Reading → Prop
  | within .. => False
  | returned _ => True

end Reading

structure LineReader where
  limit : Nat
  tooLong : String
  atLine : Nat → List UInt8 → Reading

namespace LineReader

variable (reader : LineReader)

def afterByte : Reading → UInt8 → Reading
  | .returned result, _ => .returned result
  | .within left line, byte =>
    if byte = lf then reader.atLine left line
    else
      -- A carriage return is dropped, and the limit counts what is kept.
      let line := if byte ≠ cr then line ++ [byte] else line
      if reader.limit < line.length then .returned (.error reader.tooLong) else .within left line

def after (start : Reading) (stream : Nat → UInt8) : Nat → Reading
  | 0 => start
  | count + 1 => reader.afterByte (after start stream count) (stream count)

end LineReader

def identReader : LineReader where
  limit := 255
  tooLong := "ident line too long"
  atLine left line :=
    let text := fromUtf8Lossy line
    if text.startsWith "SSH-" then .returned (.ok text)
    else if left = 0 then .returned (.error "no SSH identification string")
    else .within (left - 1) []

/-- `read_ident`, after a number of bytes. -/
def readIdent (stream : Nat → UInt8) (count : Nat) : Reading :=
  identReader.after (.within 63 []) stream count

def lineReader : LineReader where
  limit := 4096
  tooLong := "line too long"
  atLine _ line := .returned (.ok (fromUtf8Lossy line))

/-- `read_line`, after a number of bytes. -/
def readLine (stream : Nat → UInt8) (count : Nat) : Reading :=
  lineReader.after (.within 0 []) stream count

namespace LineReader

/-- A line ends the reading or uses up one of the lines that are left. -/
def Counts (reader : LineReader) : Prop :=
  ∀ left line, (reader.atLine left line).Returned ∨
    0 < left ∧ reader.atLine left line = .within (left - 1) []

variable (reader : LineReader)

/-- How many more bytes that count are accepted at most. -/
def credit : Reading → Nat
  | .within left line => left * (reader.limit + 1) + (reader.limit + 1 - line.length)
  | .returned _ => 0

def Short : Reading → Prop
  | .within _ line => line.length ≤ reader.limit
  | .returned _ => True

def counted (stream : Nat → UInt8) (count : Nat) : Nat :=
  (List.range count).countP fun index => stream index ≠ cr

def carriageReturns (stream : Nat → UInt8) (count : Nat) : Nat :=
  (List.range count).countP fun index => stream index = cr

/-- The streams with at most so many carriage returns, or all streams. -/
def Sparing (limit : Option Nat) (stream : Nat → UInt8) : Prop :=
  ∀ most ∈ limit, ∀ count, carriageReturns stream count ≤ most

variable {reader} {state : Reading} {byte : UInt8} {stream : Nat → UInt8}

private theorem counted_succ (count : Nat) :
    counted stream (count + 1) = counted stream count + if stream count ≠ cr then 1 else 0 := by
  rw [counted, List.range_succ, List.countP_append, List.countP_singleton, ← counted]
  simp only [decide_eq_true_eq]

private theorem counted_add_carriageReturns (stream : Nat → UInt8) (count : Nat) :
    counted stream count + carriageReturns stream count = count := by
  have split := (List.range count).length_eq_countP_add_countP fun index => stream index = cr
  simp only [List.length_range, decide_eq_true_eq] at split
  simp only [counted, carriageReturns, ne_eq]
  omega

private theorem returned_afterByte (returned : state.Returned) :
    (reader.afterByte state byte).Returned := by
  cases state with
  | within => exact returned.elim
  | returned => trivial

private theorem afterByte_cr (short : reader.Short state) : reader.afterByte state cr = state := by
  cases state with
  | returned result => rfl
  | within left line =>
    have fits : ¬ reader.limit < line.length := Nat.not_lt.mpr short
    simp [afterByte, cr, lf, fits]

variable (counts : reader.Counts)

include counts

private theorem afterByte_counted (short : reader.Short state) (kept : byte ≠ cr) :
    reader.Short (reader.afterByte state byte) ∧
      ((reader.afterByte state byte).Returned ∨
        reader.credit (reader.afterByte state byte) + 1 ≤ reader.credit state) := by
  cases state with
  | returned result => exact ⟨trivial, .inl trivial⟩
  | within left line =>
    by_cases ends : byte = lf
    · rw [afterByte, if_pos ends]
      rcases counts left line with returned | ⟨positive, next⟩
      · refine ⟨?_, .inl returned⟩
        cases reached : reader.atLine left line with
        | within => rw [reached] at returned; exact returned.elim
        | returned => trivial
      · rw [next]
        obtain ⟨left, rfl⟩ : ∃ fewer, left = fewer + 1 := ⟨left - 1, by omega⟩
        refine ⟨Nat.zero_le _, .inr ?_⟩
        simp only [credit, Short, Nat.add_sub_cancel, List.length_nil, Nat.add_mul] at short ⊢
        omega
    · simp only [afterByte, if_neg ends, if_pos kept]
      split_ifs with full
      · exact ⟨trivial, .inl trivial⟩
      · refine ⟨Nat.le_of_not_lt full, .inr ?_⟩
        simp only [credit, List.length_append, List.length_singleton] at full ⊢
        omega

private theorem after_counted {start : Reading} (short : reader.Short start) (count : Nat) :
    reader.Short (reader.after start stream count) ∧
      ((reader.after start stream count).Returned ∨
        reader.credit (reader.after start stream count) + counted stream count ≤
          reader.credit start) := by
  induction count with
  | zero => exact ⟨short, .inr (by simp [after, counted])⟩
  | succ count ih =>
    obtain ⟨shortNow, progress⟩ := ih
    rw [after, counted_succ]
    by_cases dropped : stream count = cr
    · rw [dropped, afterByte_cr shortNow]
      exact ⟨shortNow, by simpa using progress⟩
    · obtain ⟨shortNext, step⟩ := afterByte_counted counts shortNow dropped
      refine ⟨shortNext, ?_⟩
      rcases progress with returned | paid
      · exact .inl (returned_afterByte returned)
      · refine step.imp_right fun less => ?_
        rw [if_pos dropped]
        omega

private theorem returned_of_counted {start : Reading} (short : reader.Short start) {count : Nat}
    (enough : reader.credit start ≤ counted stream count) :
    (reader.after start stream count).Returned := by
  obtain ⟨shortNow, returned | paid⟩ := @after_counted reader stream counts start short count
  · exact returned
  · cases reached : reader.after start stream count with
    | returned => trivial
    | within left line =>
      rw [reached] at shortNow paid
      have room : 0 < reader.credit (.within left line) :=
        Nat.add_pos_right _ (Nat.sub_pos_of_lt (Nat.lt_succ_of_le shortNow))
      omega

variable {start : Reading} (short : reader.Short start)

include short

private theorem returned_of_few {most : Nat}
    (few : carriageReturns stream (reader.credit start + most) ≤ most) :
    (reader.after start stream (reader.credit start + most)).Returned := by
  refine returned_of_counted counts short ?_
  have split := counted_add_carriageReturns stream (reader.credit start + most)
  omega

omit counts

private theorem after_cr (count : Nat) : reader.after start (fun _ => cr) count = start := by
  induction count with
  | zero => rfl
  | succ count ih => rw [after, ih, afterByte_cr short]

include counts

private theorem bounded_iff (waits : ¬ start.Returned) (limit : Option Nat) :
    (∃ bound, ∀ stream, Sparing limit stream → (reader.after start stream bound).Returned) ↔
      limit ≠ none := by
  constructor
  · rintro ⟨bound, returns⟩ rfl
    have returned := returns (fun _ => cr) nofun
    rw [after_cr short] at returned
    exact waits returned
  · intro limited
    obtain ⟨most, rfl⟩ := Option.ne_none_iff_exists'.mp limited
    exact ⟨reader.credit start + most, fun stream sparing =>
      returned_of_few counts short (sparing most rfl _)⟩

end LineReader

open LineReader

private theorem identReader_counts : identReader.Counts := by
  intro left line
  simp only [identReader]
  split_ifs with ident none
  · exact .inl trivial
  · exact .inl trivial
  · exact .inr ⟨Nat.pos_of_ne_zero none, rfl⟩

private theorem lineReader_counts : lineReader.Counts := fun _ _ => .inl trivial

/-- A constant number of bytes is enough for either reader exactly if the carriage returns of the
peer are limited by a constant, which is then added to the bytes that count. -/
theorem banner_bounded_iff (limit : Option Nat) (stream : Nat → UInt8) (most : Nat) :
    ((∃ bound, ∀ stream, Sparing limit stream → (readIdent stream bound).Returned) ↔
        limit ≠ none) ∧
      ((∃ bound, ∀ stream, Sparing limit stream → (readLine stream bound).Returned) ↔
        limit ≠ none) ∧
      (carriageReturns stream (16384 + most) ≤ most →
        (readIdent stream (16384 + most)).Returned) ∧
      (carriageReturns stream (4097 + most) ≤ most →
        (readLine stream (4097 + most)).Returned) := by
  have shortIdent : identReader.Short (.within 63 []) := Nat.zero_le _
  have shortLine : lineReader.Short (.within 0 []) := Nat.zero_le _
  refine ⟨?_, ?_, ?_, ?_⟩
  · exact bounded_iff identReader_counts shortIdent id limit
  · exact bounded_iff lineReader_counts shortLine id limit
  · exact returned_of_few identReader_counts shortIdent
  · exact returned_of_few lineReader_counts shortLine

theorem banner_without_bound :
    (¬ ∃ bound, ∀ stream, (readIdent stream bound).Returned) ∧
      ¬ ∃ bound, ∀ stream, (readLine stream bound).Returned := by
  refine ⟨fun ⟨bound, returns⟩ => ?_, fun ⟨bound, returns⟩ => ?_⟩
  · have returned := returns fun _ => cr
    rw [readIdent, after_cr (Nat.zero_le _)] at returned
    exact returned
  · have returned := returns fun _ => cr
    rw [readLine, after_cr (Nat.zero_le _)] at returned
    exact returned

end QuantaWatch.Scanner
