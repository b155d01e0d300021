import QuantaWatch.Lib.Collections

/-!
Tables of rows that carry a sequence number, the SQL statements on them,
and the part of a table that belongs to one owner.
-/

namespace QuantaWatch.Lib.SqlTable

universe u v

variable {ρ : Type u} {κ : Type v}

inductive Statement (ρ : Type u) where
  /-- `INSERT`, under the next number of the counter. -/
  | insert (row : ρ)
  /-- `INSERT OR REPLACE`: the rows in conflict go, the new row comes last. -/
  | replace (conflict : ρ → Bool) (row : ρ)
  /-- `INSERT … ON CONFLICT DO UPDATE`: the row in conflict is changed where it is. -/
  | upsert (conflict : ρ → Bool) (change : ρ → ρ) (row : ρ)
  /-- As `replace`, under the number after the largest one. -/
  | replaceLast (conflict : ρ → Bool) (row : ρ)
  /-- As `upsert`, but the row in conflict gets the number after the largest one. -/
  | upsertLast (conflict : ρ → Bool) (change : ρ → ρ) (row : ρ)
  | update (which : ρ → Bool) (change : ρ → ρ)
  | delete (which : ρ → Bool)

def changeIf (which : ρ → Bool) (change : ρ → ρ) (row : ρ) : ρ :=
  if which row then change row else row

def Statement.onRows : Statement ρ → List ρ → List ρ
  | insert row, rows => rows ++ [row]
  | replace conflict row, rows => rows.filter (fun old => !conflict old) ++ [row]
  | upsert conflict change row, rows =>
    if rows.any conflict then rows.map (changeIf conflict change) else rows ++ [row]
  | replaceLast conflict row, rows => rows.filter (fun old => !conflict old) ++ [row]
  | upsertLast conflict change row, rows =>
    rows.filter (fun old => !conflict old) ++ [((rows.find? conflict).map change).getD row]
  | update which change, rows => rows.map (changeIf which change)
  | delete which, rows => rows.filter fun old => !which old

def Statement.Brings (Holds : ρ → Prop) (rows : List ρ) : Statement ρ → Prop
  | insert row => Holds row
  | replace _ row => Holds row
  | upsert conflict change row =>
    Holds row ∧ ∀ old ∈ rows, conflict old = true → Holds (change old)
  | replaceLast _ row => Holds row
  | upsertLast conflict change row =>
    Holds row ∧ ∀ old ∈ rows, conflict old = true → Holds (change old)
  | update which change => ∀ old ∈ rows, which old = true → Holds (change old)
  | delete _ => True

variable {Holds : ρ → Prop}

theorem Statement.brings_of_forall (holds : ∀ row, Holds row) (rows : List ρ)
    (statement : Statement ρ) : statement.Brings Holds rows := by
  cases statement <;> simp [Brings, holds]

theorem forall_map_changeIf {rows : List ρ} {which : ρ → Bool} {change : ρ → ρ}
    (before : ∀ row ∈ rows, Holds row)
    (changed : ∀ old ∈ rows, which old = true → Holds (change old)) :
    ∀ row ∈ rows.map (changeIf which change), Holds row := by
  intro row member
  obtain ⟨old, oldMember, rfl⟩ := List.mem_map.mp member
  by_cases touched : which old = true
  · simpa [changeIf, touched] using changed old oldMember touched
  · simpa [changeIf, touched] using before old oldMember

theorem forall_onRows {rows : List ρ} {statement : Statement ρ} (before : ∀ row ∈ rows, Holds row)
    (brings : statement.Brings Holds rows) : ∀ row ∈ statement.onRows rows, Holds row := by
  have kept (test : ρ → Bool) : ∀ row ∈ rows.filter test, Holds row :=
    fun row member => before row (List.mem_of_mem_filter member)
  cases statement with
  | insert row => exact List.forall_mem_append.mpr ⟨before, List.forall_mem_singleton.mpr brings⟩
  | replace conflict row =>
    exact List.forall_mem_append.mpr ⟨kept _, List.forall_mem_singleton.mpr brings⟩
  | replaceLast conflict row =>
    exact List.forall_mem_append.mpr ⟨kept _, List.forall_mem_singleton.mpr brings⟩
  | upsert conflict change row =>
    simp only [Statement.onRows]
    split_ifs
    · exact forall_map_changeIf before brings.2
    · exact List.forall_mem_append.mpr ⟨before, List.forall_mem_singleton.mpr brings.1⟩
  | upsertLast conflict change row =>
    refine List.forall_mem_append.mpr ⟨kept _, ?_⟩
    cases located : rows.find? conflict with
    | none => simpa using brings.1
    | some old =>
      simpa using brings.2 old (List.mem_of_find?_eq_some located) (List.find?_some located)
  | update which change => exact forall_map_changeIf before brings
  | delete which => exact kept _

structure Table (ρ : Type u) where
  rows : List (Nat × ρ)
  counter : Nat
  increasing : rows.Pairwise fun left right => left.1 < right.1
  bounded : ∀ row ∈ rows, row.1 ≤ counter

namespace Table

variable (table : Table ρ)

def empty : Table ρ := ⟨[], 0, List.Pairwise.nil, by simp⟩

def contents : List ρ := table.rows.map Prod.snd

/-- `ORDER BY seq` -/
def ordered : List ρ := (Collections.sortOn Prod.fst table.rows).map Prod.snd

theorem ordered_eq_contents : table.ordered = table.contents := by
  rw [ordered, Collections.sortOn_eq_of_perm (List.Perm.refl _) table.increasing, contents]

def keep (test : ρ → Bool) : Table ρ where
  rows := table.rows.filter fun row => test row.2
  counter := table.counter
  increasing := table.increasing.sublist List.filter_sublist
  bounded row member := table.bounded row (List.mem_of_mem_filter member)

def mapRows (change : ρ → ρ) : Table ρ where
  rows := table.rows.map (Prod.map id change)
  counter := table.counter
  increasing := by
    rw [List.pairwise_map]
    exact table.increasing
  bounded row member := by
    obtain ⟨old, oldMember, rfl⟩ := List.mem_map.mp member
    exact table.bounded old oldMember

def push (number : Nat) (larger : ∀ row ∈ table.rows, row.1 < number) (row : ρ) : Table ρ where
  rows := table.rows ++ [(number, row)]
  counter := max table.counter number
  increasing := by
    rw [List.pairwise_append]
    refine ⟨table.increasing, by simp, ?_⟩
    intro old member new isNew
    obtain rfl := List.mem_singleton.mp isNew
    exact larger old member
  bounded old member := by
    rcases List.mem_append.mp member with oldMember | isNew
    · exact (table.bounded old oldMember).trans (le_max_left _ _)
    · obtain rfl := List.mem_singleton.mp isNew
      exact le_max_right _ _

/-- `AUTOINCREMENT`, `BIGSERIAL`: a number is used once, even after deletions. -/
def append (row : ρ) : Table ρ :=
  table.push (table.counter + 1) (fun old member => Nat.lt_succ_of_le (table.bounded old member))
    row

def draw : Table ρ where
  rows := table.rows
  counter := table.counter + 1
  increasing := table.increasing
  bounded row member := (table.bounded row member).trans (Nat.le_succ _)

/-- `COALESCE(MAX(seq), 0)` -/
def maxNumber : Nat := (table.rows.map Prod.fst).foldr max 0

theorem le_maxNumber {row : Nat × ρ} (member : row ∈ table.rows) : row.1 ≤ table.maxNumber := by
  have all : ∀ numbers : List Nat, ∀ number ∈ numbers, number ≤ numbers.foldr max 0 := by
    intro numbers
    induction numbers with
    | nil => simp
    | cons first rest ih =>
      intro number present
      rcases List.mem_cons.mp present with rfl | later
      · exact le_max_left _ _
      · exact (ih number later).trans (le_max_right _ _)
  exact all _ _ (List.mem_map_of_mem member)

def exec : Statement ρ → Table ρ
  | .insert row => table.append row
  | .replace conflict row => (table.keep fun old => !conflict old).append row
  | .upsert conflict change row =>
    -- the number is drawn before the conflict is found
    if table.contents.any conflict then (table.mapRows (changeIf conflict change)).draw
    else table.append row
  | .replaceLast conflict row =>
    (table.keep fun old => !conflict old).push (table.maxNumber + 1)
      (fun _ member => Nat.lt_succ_of_le (table.le_maxNumber (List.mem_of_mem_filter member))) row
  | .upsertLast conflict change row =>
    (table.keep fun old => !conflict old).push (table.maxNumber + 1)
      (fun _ member => Nat.lt_succ_of_le (table.le_maxNumber (List.mem_of_mem_filter member)))
      (((table.contents.find? conflict).map change).getD row)
  | .update which change => table.mapRows (changeIf which change)
  | .delete which => table.keep fun old => !which old

@[simp] theorem contents_keep (test : ρ → Bool) :
    (table.keep test).contents = table.contents.filter test := by
  simp only [contents, keep, List.filter_map]
  rfl

@[simp] theorem contents_mapRows (change : ρ → ρ) :
    (table.mapRows change).contents = table.contents.map change := by
  simp [contents, mapRows]

@[simp] theorem contents_push (number : Nat) (larger : ∀ row ∈ table.rows, row.1 < number)
    (row : ρ) : (table.push number larger row).contents = table.contents ++ [row] := by
  simp [contents, push]

@[simp] theorem contents_append (row : ρ) : (table.append row).contents = table.contents ++ [row] :=
  contents_push _ _ _ _

@[simp] theorem contents_draw : table.draw.contents = table.contents := rfl

theorem contents_exec (statement : Statement ρ) :
    (table.exec statement).contents = statement.onRows table.contents := by
  cases statement with
  | upsert conflict change row =>
    simp only [exec, Statement.onRows]
    split_ifs <;> simp
  | _ => simp [exec, Statement.onRows]

end Table

section Owners

variable [DecidableEq κ] (owner : ρ → κ)

def part (who : κ) (rows : List ρ) : List ρ := rows.filter fun row => owner row = who

def Statement.ConfinedTo (who : κ) (rows : List ρ) : Statement ρ → Prop
  | insert row => owner row = who
  | replace conflict row =>
    owner row = who ∧ ∀ old ∈ rows, conflict old = true → owner old = who
  | upsert conflict change row =>
    owner row = who ∧ ∀ old ∈ rows, conflict old = true →
      owner old = who ∧ owner (change old) = who
  | replaceLast conflict row =>
    owner row = who ∧ ∀ old ∈ rows, conflict old = true → owner old = who
  | upsertLast conflict change row =>
    owner row = who ∧ ∀ old ∈ rows, conflict old = true →
      owner old = who ∧ owner (change old) = who
  | update which change =>
    ∀ old ∈ rows, which old = true → owner old = who ∧ owner (change old) = who
  | delete which => ∀ old ∈ rows, which old = true → owner old = who

variable {owner} {who other : κ} {rows : List ρ} {test : ρ → Bool} {change : ρ → ρ} {row : ρ}

theorem part_append (more : List ρ) :
    part owner who (rows ++ more) = part owner who rows ++ part owner who more :=
  List.filter_append ..

theorem part_singleton_self (own : owner row = who) : part owner who [row] = [row] := by
  simp [part, own]

theorem part_singleton_ne (own : owner row = who) (differ : other ≠ who) :
    part owner other [row] = [] := by
  simp [part, own, differ.symm]

theorem part_filter : part owner who (rows.filter test) = (part owner who rows).filter test := by
  rw [part, part, List.filter_filter, List.filter_filter]
  exact List.filter_congr fun old _ => Bool.and_comm _ _

theorem part_filter_ne (goes : ∀ old ∈ rows, test old = true → owner old = who)
    (differ : other ≠ who) :
    part owner other (rows.filter fun old => !test old) = part owner other rows := by
  rw [part, part, List.filter_filter]
  apply List.filter_congr
  intro old member
  by_cases isOther : owner old = other
  · have stays : test old ≠ true := fun fails => differ (isOther.symm.trans (goes old member fails))
    simp [isOther, stays]
  · simp [isOther]

variable (keeps : ∀ old ∈ rows, test old = true → owner old = who ∧ owner (change old) = who)

include keeps

theorem part_map : part owner who (rows.map (changeIf test change)) =
      (part owner who rows).map (changeIf test change) := by
  rw [part, part, List.filter_map]
  congr 1
  apply List.filter_congr
  intro old member
  by_cases touched : test old = true
  · simp [changeIf, touched, (keeps old member touched).1, (keeps old member touched).2]
  · simp [changeIf, touched]

theorem part_map_ne (differ : other ≠ who) :
    part owner other (rows.map (changeIf test change)) = part owner other rows := by
  induction rows with
  | nil => rfl
  | cons first rows ih =>
    have rest := ih fun old member =>
      keeps old (List.mem_cons_of_mem _ member)
    simp only [part] at rest
    simp only [part, List.map_cons, List.filter_cons, rest]
    by_cases touched : test first = true
    · have owns := keeps first List.mem_cons_self touched
      simp [changeIf, touched, owns.1, owns.2, differ.symm]
    · simp [changeIf, touched]

variable (goes : ∀ old ∈ rows, test old = true → owner old = who)

include goes

omit keeps

theorem any_part : (part owner who rows).any test = rows.any test := by
  rw [Bool.eq_iff_iff, List.any_eq_true, List.any_eq_true]
  constructor
  · rintro ⟨old, member, holds⟩
    exact ⟨old, List.mem_of_mem_filter member, holds⟩
  · rintro ⟨old, member, holds⟩
    exact ⟨old, List.mem_filter.mpr ⟨member, by simpa using goes old member holds⟩, holds⟩

theorem find_part : (part owner who rows).find? test = rows.find? test := by
  induction rows with
  | nil => rfl
  | cons first rows ih =>
    have rest := ih fun old member =>
      goes old (List.mem_cons_of_mem _ member)
    simp only [part] at rest
    by_cases touched : test first = true
    · have owns := goes first List.mem_cons_self touched
      simp [part, owns, touched]
    · by_cases owns : owner first = who
      · simp [part, owns, touched, rest]
      · simp [part, owns, touched, rest]

omit goes

variable {statement : Statement ρ} (confined : statement.ConfinedTo owner who rows)

include confined

theorem part_onRows :
    part owner who (statement.onRows rows) = statement.onRows (part owner who rows) := by
  cases statement with
  | insert row => simp only [Statement.onRows, part_append, part_singleton_self confined]
  | replace conflict row =>
    simp only [Statement.onRows, part_append, part_filter, part_singleton_self confined.1]
  | replaceLast conflict row =>
    simp only [Statement.onRows, part_append, part_filter, part_singleton_self confined.1]
  | upsert conflict change row =>
    simp only [Statement.onRows, any_part fun old member holds => (confined.2 old member holds).1]
    split_ifs
    · exact part_map confined.2
    · rw [part_append, part_singleton_self confined.1]
  | upsertLast conflict change row =>
    have found := find_part fun old member holds => (confined.2 old member holds).1
    simp only [Statement.onRows, part_append, part_filter, found]
    congr 1
    apply part_singleton_self
    cases located : rows.find? conflict with
    | none => exact confined.1
    | some old =>
      exact (confined.2 old (List.mem_of_find?_eq_some located) (List.find?_some located)).2
  | update which change => exact part_map confined
  | delete which => exact part_filter

theorem part_onRows_ne (differ : other ≠ who) :
    part owner other (statement.onRows rows) = part owner other rows := by
  cases statement with
  | insert row =>
    simp only [Statement.onRows, part_append, part_singleton_ne confined differ, List.append_nil]
  | replace conflict row =>
    simp only [Statement.onRows, part_append, part_filter_ne confined.2 differ,
      part_singleton_ne confined.1 differ, List.append_nil]
  | replaceLast conflict row =>
    simp only [Statement.onRows, part_append, part_filter_ne confined.2 differ,
      part_singleton_ne confined.1 differ, List.append_nil]
  | upsert conflict change row =>
    simp only [Statement.onRows]
    split_ifs
    · exact part_map_ne confined.2 differ
    · rw [part_append, part_singleton_ne confined.1 differ, List.append_nil]
  | upsertLast conflict change row =>
    have goes := fun old member holds => (confined.2 old member holds).1
    have owned : owner (((rows.find? conflict).map change).getD row) = who := by
      cases located : rows.find? conflict with
      | none => exact confined.1
      | some old =>
        exact (confined.2 old (List.mem_of_find?_eq_some located) (List.find?_some located)).2
    simp only [Statement.onRows, part_append, part_filter_ne goes differ,
      part_singleton_ne owned differ, List.append_nil]
  | update which change => exact part_map_ne confined differ
  | delete which => exact part_filter_ne confined differ

end Owners

end QuantaWatch.Lib.SqlTable
