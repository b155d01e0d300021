import QuantaWatch.Audit.Verifier

/-!
The audit tables and their operations (`impl AuditBackend for Store`
in `qw-store/src/lib.rs`).
-/

namespace QuantaWatch.Store

open Lib.Collections Audit

/-- A row of `audit_entries`. The columns beside the JSON are copies. -/
structure EntryRow where
  writerId : String
  seq : Int64
  contentHash : String
  data : AuditEntry
  writerId_eq : writerId = data.writerId
  seq_eq : seq = data.sequence.toInt64
  contentHash_eq : contentHash = data.contentHash

def EntryRow.ofEntry (entry : AuditEntry) : EntryRow where
  writerId := entry.writerId
  seq := entry.sequence.toInt64
  contentHash := entry.contentHash
  data := entry
  writerId_eq := rfl
  seq_eq := rfl
  contentHash_eq := rfl

/-- A row of `audit_checkpoints`. -/
structure CheckpointRow where
  checkpointSeq : Int64
  contentHash : String
  data : AuditCheckpoint
  checkpointSeq_eq : checkpointSeq = data.checkpointSeq.toInt64
  contentHash_eq : contentHash = data.contentHash

def CheckpointRow.ofCheckpoint (checkpoint : AuditCheckpoint) : CheckpointRow where
  checkpointSeq := checkpoint.checkpointSeq.toInt64
  contentHash := checkpoint.contentHash
  data := checkpoint
  checkpointSeq_eq := rfl
  contentHash_eq := rfl

structure AuditStore where
  entries : List EntryRow
  checkpoints : List CheckpointRow
  /-- `UNIQUE (writer_id, seq)`. -/
  unique : entries.Pairwise fun left right =>
    ¬ (left.writerId = right.writerId ∧ left.seq = right.seq)
  /-- `checkpoint_seq` is the primary key. -/
  primary : checkpoints.Pairwise fun left right => left.checkpointSeq ≠ right.checkpointSeq

namespace AuditStore

def empty : AuditStore where
  entries := []
  checkpoints := []
  unique := List.Pairwise.nil
  primary := List.Pairwise.nil

variable (store : AuditStore)

/-- The insert of `append_entry`; none when the key is taken. -/
def appendEntry (entry : AuditEntry) : Option AuditStore :=
  let row := EntryRow.ofEntry entry
  if taken : ∃ other ∈ store.entries, other.writerId = row.writerId ∧ other.seq = row.seq then none
  else
    some
      { store with
        entries := store.entries ++ [row]
        unique := by
          refine List.pairwise_append.mpr ⟨store.unique, List.pairwise_singleton _ _, ?_⟩
          intro other member last lastMember same
          obtain rfl := List.mem_singleton.mp lastMember
          exact taken ⟨other, member, same⟩ }

def writerTip (writer : String) : Option (UInt64 × String) :=
  (maxOn (fun row : EntryRow => row.seq.toInt)
      (store.entries.filter fun row => row.writerId = writer)).map fun row =>
    (row.seq.toUInt64, row.contentHash)

def allWriterTips : List WriterTip :=
  (store.entries.filter fun row =>
    ∀ other ∈ store.entries, other.writerId = row.writerId → other.seq.toInt ≤ row.seq.toInt).map
    fun row => ⟨row.writerId, row.seq.toUInt64, row.contentHash⟩

/-- The last `limit` entries by insertion, oldest first. -/
def listEntries (limit : Nat) : List AuditEntry :=
  (store.entries.drop (store.entries.length - limit)).map EntryRow.data

def listCheckpoints : List AuditCheckpoint :=
  (sortOn (fun row => row.checkpointSeq.toInt) store.checkpoints).map CheckpointRow.data

def nextCheckpoint : UInt64 × String :=
  match maxOn (fun row : CheckpointRow => row.checkpointSeq.toInt) store.checkpoints with
  | some row => (row.checkpointSeq.toUInt64 + 1, row.contentHash)
  | none => (0, "")

def insertCheckpoint (checkpoint : AuditCheckpoint) : Option AuditStore :=
  let row := CheckpointRow.ofCheckpoint checkpoint
  if taken : ∃ other ∈ store.checkpoints, other.checkpointSeq = row.checkpointSeq then none
  else
    some
      { store with
        checkpoints := store.checkpoints ++ [row]
        primary := by
          refine List.pairwise_append.mpr ⟨store.primary, List.pairwise_singleton _ _, ?_⟩
          intro other member last lastMember same
          obtain rfl := List.mem_singleton.mp lastMember
          exact taken ⟨other, member, same⟩ }

/-- `commit_checkpoint` on SQLite: one step under the connection lock. -/
def commitCheckpoint (build : UInt64 → String → List WriterTip → AuditCheckpoint) :
    Option AuditStore :=
  let (nextSeq, prevHash) := store.nextCheckpoint
  let tips := store.allWriterTips
  if tips = [] then none else store.insertCheckpoint (build nextSeq prevHash tips)

/-- The store after deleting rows of `audit_entries`. -/
def deleteEntries (deleted : AuditEntry → Bool) : AuditStore :=
  { store with
    entries := store.entries.filter fun row => !deleted row.data
    unique := store.unique.filter _ }

def allEntries : List AuditEntry := store.entries.map EntryRow.data

def allCheckpoints : List AuditCheckpoint := store.checkpoints.map CheckpointRow.data

def chainOf (writer : String) : List AuditEntry :=
  store.allEntries.filter fun entry => entry.writerId = writer

def Extends (earlier later : AuditStore) : Prop :=
  earlier.entries <+: later.entries ∧ earlier.checkpoints <+: later.checkpoints

variable {store}

variable {later : AuditStore} {writer : String} {entry : AuditEntry} {checkpoint : AuditCheckpoint}
    {number : UInt64}

variable (grows : Extends store later)

include grows

theorem Extends.allEntries : store.allEntries <+: later.allEntries :=
  grows.1.map _

theorem Extends.allCheckpoints : store.allCheckpoints <+: later.allCheckpoints :=
  grows.2.map _

theorem Extends.chainOf (writer : String) : store.chainOf writer <+: later.chainOf writer :=
  grows.allEntries.filter _

omit grows

@[simp] theorem mem_chainOf :
    entry ∈ store.chainOf writer ↔ entry ∈ store.allEntries ∧ entry.writerId = writer := by
  simp [AuditStore.chainOf]

theorem appendEntry_eq_some (appended : store.appendEntry entry = some later) :
    later.entries = store.entries ++ [.ofEntry entry] ∧ later.checkpoints = store.checkpoints ∧
      ∀ other ∈ store.chainOf entry.writerId, other.sequence ≠ entry.sequence := by
  dsimp only [appendEntry] at appended
  split at appended
  · cases appended
  · rename_i free
    obtain rfl := Option.some.inj appended
    refine ⟨rfl, rfl, ?_⟩
    intro other member same
    obtain ⟨stored, sameWriter⟩ := mem_chainOf.mp member
    obtain ⟨row, rowMember, rfl⟩ := List.mem_map.mp stored
    refine free ⟨row, rowMember, row.writerId_eq.trans sameWriter, ?_⟩
    rw [row.seq_eq, same]
    rfl

theorem appendEntry_isSome
    (free : entry.sequence ∉ (store.chainOf entry.writerId).map AuditEntry.sequence) :
    (store.appendEntry entry).isSome = true := by
  dsimp only [appendEntry]
  split
  · rename_i taken
    obtain ⟨row, member, sameWriter, sameNumber⟩ := taken
    refine absurd (List.mem_map.mpr ⟨row.data, ?_, ?_⟩) free
    · exact mem_chainOf.mpr
        ⟨List.mem_map.mpr ⟨row, member, rfl⟩, row.writerId_eq.symm.trans sameWriter⟩
    · exact congrArg Int64.toUInt64 (row.seq_eq.symm.trans sameNumber)
  · rfl

variable (appended : store.appendEntry entry = some later)

include appended

theorem appendEntry_extends : Extends store later := by
  obtain ⟨entries, checkpoints, -⟩ := appendEntry_eq_some appended
  exact ⟨entries ▸ List.prefix_append _ _, checkpoints ▸ List.prefix_refl _⟩

theorem appendEntry_allEntries : later.allEntries = store.allEntries ++ [entry] := by
  obtain ⟨entries, -, -⟩ := appendEntry_eq_some appended
  simp [AuditStore.allEntries, entries, EntryRow.ofEntry]

theorem appendEntry_allCheckpoints : later.allCheckpoints = store.allCheckpoints := by
  obtain ⟨-, checkpoints, -⟩ := appendEntry_eq_some appended
  simp [AuditStore.allCheckpoints, checkpoints]

theorem appendEntry_chainOf (writer : String) : later.chainOf writer =
      if entry.writerId = writer then store.chainOf writer ++ [entry]
      else store.chainOf writer := by
  rw [AuditStore.chainOf, appendEntry_allEntries appended, List.filter_append]
  split_ifs with own <;> simp [AuditStore.chainOf, own]

omit appended

theorem insertCheckpoint_eq_some (inserted : store.insertCheckpoint checkpoint = some later) :
    later.entries = store.entries ∧
      later.checkpoints = store.checkpoints ++ [.ofCheckpoint checkpoint] ∧
      ∀ other ∈ store.allCheckpoints, other.checkpointSeq ≠ checkpoint.checkpointSeq := by
  dsimp only [insertCheckpoint] at inserted
  split at inserted
  · cases inserted
  · rename_i free
    obtain rfl := Option.some.inj inserted
    refine ⟨rfl, rfl, ?_⟩
    intro other member same
    obtain ⟨row, rowMember, rfl⟩ := List.mem_map.mp member
    refine free ⟨row, rowMember, ?_⟩
    rw [row.checkpointSeq_eq, same]
    rfl

theorem commitCheckpoint_eq_some {build : UInt64 → String → List WriterTip → AuditCheckpoint}
    (committed : store.commitCheckpoint build = some later) : store.allWriterTips ≠ [] ∧
      store.insertCheckpoint (build store.nextCheckpoint.1 store.nextCheckpoint.2
        store.allWriterTips) = some later := by
  dsimp only [commitCheckpoint] at committed
  split at committed
  · cases committed
  · rename_i tips
    exact ⟨tips, committed⟩

variable (inserted : store.insertCheckpoint checkpoint = some later)

include inserted

theorem insertCheckpoint_extends : Extends store later := by
  obtain ⟨entries, checkpoints, -⟩ := insertCheckpoint_eq_some inserted
  exact ⟨entries ▸ List.prefix_refl _, checkpoints ▸ List.prefix_append _ _⟩

theorem insertCheckpoint_allEntries : later.allEntries = store.allEntries := by
  obtain ⟨entries, -, -⟩ := insertCheckpoint_eq_some inserted
  simp [AuditStore.allEntries, entries]

theorem insertCheckpoint_allCheckpoints :
    later.allCheckpoints = store.allCheckpoints ++ [checkpoint] := by
  obtain ⟨-, checkpoints, -⟩ := insertCheckpoint_eq_some inserted
  simp [AuditStore.allCheckpoints, checkpoints, CheckpointRow.ofCheckpoint]

omit inserted

theorem toInt_toInt64_of_lt (small : number.toNat < 2 ^ 63) :
    number.toInt64.toInt = number.toNat := by
  change number.toBitVec.toInt = number.toNat
  rw [BitVec.toInt_eq_toNat_cond, if_pos]
  · rfl
  · change 2 * number.toNat < 2 ^ 64
    omega

theorem lt_of_toInt_toInt64_nonneg (nonneg : 0 ≤ number.toInt64.toInt) : number.toNat < 2 ^ 63 := by
  change 0 ≤ number.toBitVec.toInt at nonneg
  rw [BitVec.toInt_eq_toNat_cond] at nonneg
  have bound := number.toNat_lt
  change 0 ≤ if 2 * number.toNat < 2 ^ 64 then (number.toNat : Int) else number.toNat - 2 ^ 64
    at nonneg
  split_ifs at nonneg <;> omega

def signedSeq (entry : AuditEntry) : Int := entry.sequence.toInt64.toInt

theorem writerTip_eq_some {hash : String} (tip : store.writerTip writer = some (number, hash)) :
    ∃ entry ∈ store.chainOf writer, entry.sequence = number ∧ entry.contentHash = hash := by
  obtain ⟨row, found, equal⟩ := Option.map_eq_some_iff.mp tip
  obtain ⟨member, own⟩ := List.mem_filter.mp (maxOn_spec found).1
  obtain ⟨rfl, rfl⟩ := Prod.mk.inj equal
  refine ⟨row.data, mem_chainOf.mpr ⟨List.mem_map_of_mem member, ?_⟩, ?_, ?_⟩
  · rw [← row.writerId_eq]
    simpa using own
  · rw [row.seq_eq, UInt64.toUInt64_toInt64]
  · exact row.contentHash_eq.symm

theorem mem_allWriterTips {tip : WriterTip} : tip ∈ store.allWriterTips ↔
      ∃ entry ∈ store.allEntries,
        (∀ other ∈ store.allEntries, other.writerId = entry.writerId →
          signedSeq other ≤ signedSeq entry) ∧
        tip = ⟨entry.writerId, entry.sequence, entry.contentHash⟩ := by
  simp only [allWriterTips, AuditStore.allEntries, List.mem_map, List.mem_filter,
    decide_eq_true_eq, exists_exists_and_eq_and, forall_exists_index, and_imp,
    forall_apply_eq_imp_iff₂, signedSeq]
  constructor
  · rintro ⟨row, ⟨member, largest⟩, rfl⟩
    refine ⟨row, member, ?_, ?_⟩
    · intro other otherMember same
      rw [← other.seq_eq, ← row.seq_eq]
      exact largest other otherMember
        (other.writerId_eq.trans (same.trans row.writerId_eq.symm))
    · rw [row.writerId_eq, row.seq_eq, row.contentHash_eq, UInt64.toUInt64_toInt64]
  · rintro ⟨row, member, largest, rfl⟩
    refine ⟨row, ⟨member, ?_⟩, ?_⟩
    · intro other otherMember same
      rw [other.seq_eq, row.seq_eq]
      exact largest other otherMember
        (other.writerId_eq.symm.trans (same.trans row.writerId_eq))
    · rw [row.writerId_eq, row.seq_eq, row.contentHash_eq, UInt64.toUInt64_toInt64]

theorem exists_tip (stored : entry ∈ store.allEntries) :
    ∃ tip ∈ store.allWriterTips, tip.writerId = entry.writerId := by
  have nonempty : store.chainOf entry.writerId ≠ [] :=
    List.ne_nil_of_mem (mem_chainOf.mpr ⟨stored, rfl⟩)
  cases best : maxOn signedSeq (store.chainOf entry.writerId) with
  | none => exact absurd (maxOn_eq_none.mp best) nonempty
  | some last =>
    obtain ⟨member, largest⟩ := maxOn_spec best
    obtain ⟨lastStored, lastWriter⟩ := mem_chainOf.mp member
    refine ⟨_, mem_allWriterTips.mpr ⟨last, lastStored, ?_, rfl⟩, lastWriter⟩
    intro other otherStored same
    exact largest other (mem_chainOf.mpr ⟨otherStored, same.trans lastWriter⟩)

theorem nextCheckpoint_cases : (store.allCheckpoints = [] ∧ store.nextCheckpoint = (0, "")) ∨
      ∃ checkpoint ∈ store.allCheckpoints,
        store.nextCheckpoint = (checkpoint.checkpointSeq + 1, checkpoint.contentHash) := by
  unfold nextCheckpoint
  split
  · rename_i row found
    refine Or.inr ⟨row.data, List.mem_map_of_mem (maxOn_spec found).1, ?_⟩
    rw [row.checkpointSeq_eq, row.contentHash_eq, UInt64.toUInt64_toInt64]
  · rename_i found
    refine Or.inl ⟨?_, rfl⟩
    simp [AuditStore.allCheckpoints, maxOn_eq_none.mp found]

theorem listCheckpoints_perm : store.listCheckpoints.Perm store.allCheckpoints :=
  (sortOn_perm _ _).map _

theorem deleteEntries_allEntries (deleted : AuditEntry → Bool) :
    (store.deleteEntries deleted).allEntries =
      store.allEntries.filter fun entry => !deleted entry := by
  simp only [AuditStore.allEntries, deleteEntries, List.filter_map]
  rfl

theorem listEntries_suffix (limit : Nat) (writer : String) :
    (store.listEntries limit).filter (fun entry => entry.writerId = writer) <:+
      store.chainOf writer := by
  rw [listEntries, List.map_drop]
  exact (List.drop_suffix _ _).filter _

theorem listEntries_of_le {limit : Nat} (covers : store.entries.length ≤ limit) :
    store.listEntries limit = store.allEntries := by
  simp [listEntries, AuditStore.allEntries, Nat.sub_eq_zero_of_le covers]

end AuditStore

end QuantaWatch.Store
