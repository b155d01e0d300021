import QuantaWatch.Audit.Verifier

/-!
What the verifier accepts, said without its loops.
-/

namespace QuantaWatch.Audit

open Lib.Collections Lib.Encoding Lib.HashChain Crypto

section

variable (platform : Platform) (publicKeyBytes : Bytes)

def EntryOk (entry : AuditEntry) : Prop :=
  sha3_256Hex platform (entry.contentBytes platform) = entry.contentHash ∧
    decodeAndVerify platform publicKeyBytes entry.contentHash entry.signature = .ok true

def CheckpointOk (checkpoint : AuditCheckpoint) : Prop :=
  sha3_256Hex platform (checkpoint.contentBytes platform) = checkpoint.contentHash ∧
    AuditCheckpoint.merkleRootOf platform checkpoint.tips = checkpoint.merkleRoot ∧
    decodeAndVerify platform publicKeyBytes checkpoint.contentHash checkpoint.signature = .ok true

def writerChain (writer : String) (entries : List AuditEntry) : List AuditEntry :=
  sortOn entryPlace.order (entries.filter fun entry => entry.writerId = writer)

def checkpointChain (checkpoints : List AuditCheckpoint) : List AuditCheckpoint :=
  sortOn checkpointPlace.order checkpoints

def TipPresent (entries : List AuditEntry) (tip : WriterTip) : Prop :=
  ∃ entry ∈ entries, entry.writerId = tip.writerId ∧ entry.sequence = tip.seq ∧
    entry.contentHash = tip.contentHash

structure LogOk (entries : List AuditEntry) (checkpoints : List AuditCheckpoint) : Prop where
  entriesOk : ∀ entry ∈ entries, EntryOk platform publicKeyBytes entry
  linked : ∀ writer, (writerChain writer entries).IsChain (Follows entryPlace)
  genesis : ∀ writer, GenesisOk entryPlace (writerChain writer entries)
  checkpointsOk : ∀ checkpoint ∈ checkpoints, CheckpointOk platform publicKeyBytes checkpoint
  checkpointsLinked : (checkpointChain checkpoints).IsChain (Follows checkpointPlace)
  tipsPresent : ∀ checkpoint ∈ checkpoints, ∀ tip ∈ checkpoint.tips, TipPresent entries tip

end

variable {platform : Platform} {publicKeyBytes : Bytes}

theorem accepts_of_decodeAndVerify {contentHash signature : String}
    (accepted : decodeAndVerify platform publicKeyBytes contentHash signature = .ok true) :
    ∃ bytes, platform.base64Decode signature = .ok bytes ∧
      platform.verifyWithContext publicKeyBytes (utf8 contentHash) bytes = true := by
  unfold decodeAndVerify at accepted
  split at accepted
  · cases accepted
  · rename_i bytes decoded
    refine ⟨bytes, decoded, ?_⟩
    unfold verify at accepted
    split_ifs at accepted
    simpa using accepted

variable {writer : String} {entry : AuditEntry} {result : VerificationResult}
    {last : Option AuditEntry} {pass : ChainPass} {chain entries : List AuditEntry}
    {groups : List (String × List AuditEntry)} {state : VerificationResult × TipIndex}
    {checkpoint : AuditCheckpoint} {tipIndex : TipIndex}

@[simp] theorem checkEntryHash_valid : (checkEntryHash platform writer entry result).valid = true ↔
      result.valid = true ∧
        sha3_256Hex platform (entry.contentBytes platform) = entry.contentHash := by
  unfold checkEntryHash
  split_ifs with mismatch <;> simp_all

@[simp] theorem checkEntrySignature_valid :
    (checkEntrySignature platform publicKeyBytes writer entry result).valid = true ↔
      result.valid = true ∧
        decodeAndVerify platform publicKeyBytes entry.contentHash entry.signature = .ok true := by
  unfold checkEntrySignature
  split <;> simp_all

def FirstEntryOk (entry : AuditEntry) : Prop :=
  entry.sequence = 0 → entry.prevHash = ""

theorem checkLinkage_checkSequence_valid :
    (checkLinkage writer (last.map AuditEntry.contentHash) entry
        (checkSequence writer (last.map AuditEntry.sequence) entry result)).valid = true ↔
      result.valid = true ∧ LinkOk entryPlace FirstEntryOk last entry := by
  cases last with
  | none =>
    simp only [Option.map_none, checkLinkage, checkSequence, LinkOk, FirstEntryOk]
    split_ifs with broken
    · simp [broken.1, broken.2]
    · simp only [not_and, not_not] at broken
      simpa using fun _ => broken
  | some before =>
    simp only [Option.map_some, checkLinkage, checkSequence, LinkOk, Follows, entryPlace]
    split_ifs <;> simp_all

theorem verifyEntry_valid (hash : pass.prevHash = last.map AuditEntry.contentHash)
    (number : pass.prevSeq = last.map AuditEntry.sequence) :
    (verifyEntry platform publicKeyBytes writer pass entry).result.valid = true ↔
      pass.result.valid = true ∧ EntryOk platform publicKeyBytes entry ∧
        LinkOk entryPlace FirstEntryOk last entry := by
  simp only [verifyEntry, hash, number, checkEntrySignature_valid,
    checkLinkage_checkSequence_valid, checkEntryHash_valid, EntryOk]
  tauto

theorem foldl_verifyEntry_valid (last : Option AuditEntry)
    (hash : pass.prevHash = last.map AuditEntry.contentHash)
    (number : pass.prevSeq = last.map AuditEntry.sequence) :
    (chain.foldl (verifyEntry platform publicKeyBytes writer) pass).result.valid = true ↔
      pass.result.valid = true ∧ (∀ entry ∈ chain, EntryOk platform publicKeyBytes entry) ∧
        LinkedFrom entryPlace FirstEntryOk last chain := by
  induction chain generalizing pass last with
  | nil => simp [LinkedFrom]
  | cons entry rest ih =>
    rw [List.foldl_cons, ih (some entry) rfl rfl,
      verifyEntry_valid hash number, LinkedFrom]
    simp only [List.mem_cons, forall_eq_or_imp]
    tauto

def ChainOk (platform : Platform) (publicKeyBytes : Bytes) (chain : List AuditEntry) : Prop :=
  (∀ entry ∈ chain, EntryOk platform publicKeyBytes entry) ∧
    LinkedFrom entryPlace FirstEntryOk none chain

theorem foldl_verifyWriter_valid :
    (groups.foldl (verifyWriter platform publicKeyBytes) state).1.valid = true ↔
      state.1.valid = true ∧
        ∀ group ∈ groups, ChainOk platform publicKeyBytes (sortOn entryPlace.order group.2) := by
  induction groups generalizing state with
  | nil => simp
  | cons group rest ih =>
    rw [List.foldl_cons, ih, verifyWriter,
      foldl_verifyEntry_valid none rfl rfl]
    simp only [ChainOk, List.mem_cons, forall_eq_or_imp]
    tauto

def entryKey (entry : AuditEntry) : String × UInt64 := (entry.writerId, entry.sequence)

theorem foldl_verifyEntry_tipIndex (own : ∀ entry ∈ chain, entry.writerId = writer) :
    (chain.foldl (verifyEntry platform publicKeyBytes writer) pass).tipIndex =
      chain.foldl (indexInsert entryKey AuditEntry.contentHash) pass.tipIndex := by
  induction chain generalizing pass with
  | nil => rfl
  | cons entry rest ih =>
    have writerOf : entry.writerId = writer := own entry (by simp)
    rw [List.foldl_cons, List.foldl_cons,
      ih fun other member => own other (by simp [member])]
    simp [verifyEntry, indexInsert, entryKey, writerOf]

theorem foldl_verifyWriter_tipIndex
    (own : ∀ group ∈ groups, ∀ entry ∈ group.2, entry.writerId = group.1) :
    (groups.foldl (verifyWriter platform publicKeyBytes) state).2 =
      (groups.flatMap fun group => sortOn entryPlace.order group.2).foldl
        (indexInsert entryKey AuditEntry.contentHash) state.2 := by
  induction groups generalizing state with
  | nil => rfl
  | cons group rest ih =>
    have headOwn : ∀ entry ∈ sortOn entryPlace.order group.2, entry.writerId = group.1 := by
      intro entry member
      exact own group (by simp) entry (mem_sortOn.mp member)
    rw [List.foldl_cons, ih fun other member => own other (by simp [member]),
      List.flatMap_cons, List.foldl_append]
    simp only [verifyWriter, foldl_verifyEntry_tipIndex headOwn]

def verifyWriters (platform : Platform) (publicKeyBytes : Bytes) (entries : List AuditEntry) :
    VerificationResult × TipIndex :=
  (groupOn AuditEntry.writerId entries).foldl (verifyWriter platform publicKeyBytes)
    (VerificationResult.start, fun _ => none)

theorem verifyWriters_valid : (verifyWriters platform publicKeyBytes entries).1.valid = true ↔
      (∀ entry ∈ entries, EntryOk platform publicKeyBytes entry) ∧
        ∀ writer, (writerChain writer entries).IsChain (Follows entryPlace) ∧
          GenesisOk entryPlace (writerChain writer entries) := by
  have groupsOk : (verifyWriters platform publicKeyBytes entries).1.valid = true ↔
      ∀ writer, ChainOk platform publicKeyBytes (writerChain writer entries) := by
    rw [verifyWriters, foldl_verifyWriter_valid]
    constructor
    · rintro ⟨-, groups⟩ writer
      by_cases empty : entries.filter (fun entry => entry.writerId = writer) = []
      · simp [writerChain, empty, sortOn, ChainOk, LinkedFrom]
      · exact groups _ (mem_groupOn.mpr ⟨rfl, empty⟩)
    · intro chains
      refine ⟨rfl, ?_⟩
      rintro ⟨writer, group⟩ member
      obtain ⟨rfl, -⟩ := mem_groupOn.mp member
      exact chains writer
  have member : ∀ entry writer,
      entry ∈ writerChain writer entries ↔ entry ∈ entries ∧ entry.writerId = writer := by
    simp [writerChain]
  rw [groupsOk]
  simp only [ChainOk, linkedFrom_none_iff, member]
  constructor
  · intro chains
    exact ⟨fun entry present => (chains entry.writerId).1 entry ⟨present, rfl⟩,
      fun writer => (chains writer).2⟩
  · rintro ⟨entriesOk, chains⟩ writer
    exact ⟨fun entry present => entriesOk entry present.1, chains writer⟩

theorem verifyWriters_tipIndex (entries : List AuditEntry) :
    ∃ order, (∀ entry, entry ∈ order ↔ entry ∈ entries) ∧
      (verifyWriters platform publicKeyBytes entries).2 =
        indexOn entryKey AuditEntry.contentHash order := by
  have own : ∀ group ∈ groupOn AuditEntry.writerId entries, ∀ entry ∈ group.2,
      entry.writerId = group.1 := by
    rintro ⟨writer, group⟩ member entry present
    obtain ⟨rfl, -⟩ := mem_groupOn.mp member
    simpa using (List.mem_filter.mp present).2
  refine ⟨_, fun entry => ?_, foldl_verifyWriter_tipIndex own⟩
  simp only [List.mem_flatMap, mem_sortOn]
  constructor
  · rintro ⟨⟨writer, group⟩, member, present⟩
    obtain ⟨rfl, -⟩ := mem_groupOn.mp member
    exact (List.mem_filter.mp present).1
  · intro present
    exact ⟨_, groupOn_of_mem present, by simp [present]⟩

variable (linked : ∀ writer, (writerChain writer entries).IsChain (Follows entryPlace))

include linked

theorem entry_eq_of_key_eq {left right : AuditEntry} (leftMember : left ∈ entries)
    (rightMember : right ∈ entries) (same : entryKey left = entryKey right) : left = right := by
  obtain ⟨sameWriter, sameNumber⟩ := Prod.mk.inj same
  have increasing :=
    (consecutive_of_follows (linked left.writerId) (sortOn_sorted _ _)).increasing
  exact eq_of_key_eq increasing (by simp [writerChain, leftMember])
    (by simp [writerChain, rightMember, sameWriter]) (congrArg UInt64.toNat sameNumber)

theorem verifyWriters_tipIndex_eq_some (tip : WriterTip) :
    (verifyWriters platform publicKeyBytes entries).2 (tip.writerId, tip.seq) =
        some tip.contentHash ↔ TipPresent entries tip := by
  obtain ⟨order, sameMembers, index⟩ :=
    @verifyWriters_tipIndex platform publicKeyBytes entries
  rw [index, indexOn_eq_some]
  · simp [sameMembers, TipPresent, entryKey, and_assoc]
  · intro left leftMember right rightMember same
    rw [entry_eq_of_key_eq linked ((sameMembers _).mp leftMember) ((sameMembers _).mp rightMember)
      same]

omit linked

@[simp] theorem checkCheckpointHash_valid :
    (checkCheckpointHash platform checkpoint result).valid = true ↔
      result.valid = true ∧
        sha3_256Hex platform (checkpoint.contentBytes platform) = checkpoint.contentHash := by
  unfold checkCheckpointHash
  split_ifs with mismatch <;> simp_all

@[simp] theorem checkMerkleRoot_valid : (checkMerkleRoot platform checkpoint result).valid = true ↔
      result.valid = true ∧
        AuditCheckpoint.merkleRootOf platform checkpoint.tips = checkpoint.merkleRoot := by
  unfold checkMerkleRoot
  split_ifs with equal <;> simp_all

@[simp] theorem checkCheckpointSignature_valid :
    (checkCheckpointSignature platform publicKeyBytes checkpoint result).valid = true ↔
      result.valid = true ∧ decodeAndVerify platform publicKeyBytes checkpoint.contentHash
        checkpoint.signature = .ok true := by
  unfold checkCheckpointSignature
  split <;> simp_all

def FirstCheckpointOk (_ : AuditCheckpoint) : Prop := True

theorem checkCheckpointLink_sequence_valid {last : Option AuditCheckpoint} :
    (checkCheckpointLink (last.map AuditCheckpoint.contentHash) checkpoint
        (checkCheckpointSequence (last.map AuditCheckpoint.checkpointSeq) checkpoint
          result)).valid = true ↔
      result.valid = true ∧ LinkOk checkpointPlace FirstCheckpointOk last checkpoint := by
  cases last with
  | none => simp [checkCheckpointLink, checkCheckpointSequence, LinkOk, FirstCheckpointOk]
  | some before =>
    simp only [Option.map_some, checkCheckpointLink, checkCheckpointSequence, LinkOk, Follows,
      checkpointPlace]
    split_ifs <;> simp_all

theorem foldl_checkTip_valid {tips : List WriterTip} :
    (tips.foldl (checkTip tipIndex checkpoint) result).valid = true ↔
      result.valid = true ∧
        ∀ tip ∈ tips, tipIndex (tip.writerId, tip.seq) = some tip.contentHash := by
  induction tips generalizing result with
  | nil => simp
  | cons tip rest ih =>
    have step : (checkTip tipIndex checkpoint result tip).valid = true ↔
        result.valid = true ∧ tipIndex (tip.writerId, tip.seq) = some tip.contentHash := by
      unfold checkTip
      split
      · split_ifs <;> simp_all
      · simp_all
    rw [List.foldl_cons, ih, step]
    simp only [List.mem_cons, forall_eq_or_imp]
    tauto

theorem foldl_verifyCheckpoint_valid {chain : List AuditCheckpoint} {pass : CheckpointPass}
    (last : Option AuditCheckpoint) (hash : pass.prevHash = last.map AuditCheckpoint.contentHash)
    (number : pass.prevSeq = last.map AuditCheckpoint.checkpointSeq) :
    (chain.foldl (verifyCheckpoint platform publicKeyBytes tipIndex) pass).result.valid = true ↔
      pass.result.valid = true ∧
        (∀ checkpoint ∈ chain, CheckpointOk platform publicKeyBytes checkpoint ∧
          ∀ tip ∈ checkpoint.tips, tipIndex (tip.writerId, tip.seq) = some tip.contentHash) ∧
        LinkedFrom checkpointPlace FirstCheckpointOk last chain := by
  induction chain generalizing pass last with
  | nil => simp [LinkedFrom]
  | cons checkpoint rest ih =>
    have step :
        (verifyCheckpoint platform publicKeyBytes tipIndex pass checkpoint).result.valid = true ↔
          pass.result.valid = true ∧ CheckpointOk platform publicKeyBytes checkpoint ∧
            (∀ tip ∈ checkpoint.tips,
              tipIndex (tip.writerId, tip.seq) = some tip.contentHash) ∧
            LinkOk checkpointPlace FirstCheckpointOk last checkpoint := by
      simp only [verifyCheckpoint, hash, number, foldl_checkTip_valid,
        checkCheckpointSignature_valid, checkCheckpointLink_sequence_valid,
        checkMerkleRoot_valid, checkCheckpointHash_valid, CheckpointOk]
      tauto
    rw [List.foldl_cons, ih (some checkpoint) rfl rfl, step, LinkedFrom]
    simp only [List.mem_cons, forall_eq_or_imp]
    tauto

/-- The verifier accepts exactly the logs that `LogOk` describes. -/
theorem verifySharded_valid_iff {checkpoints : List AuditCheckpoint} :
    (verifySharded platform publicKeyBytes entries checkpoints).valid = true ↔
      LogOk platform publicKeyBytes entries checkpoints := by
  have loops : (verifySharded platform publicKeyBytes entries checkpoints).valid = true ↔
      (verifyWriters platform publicKeyBytes entries).1.valid = true ∧
        (∀ checkpoint ∈ checkpointChain checkpoints,
          CheckpointOk platform publicKeyBytes checkpoint ∧ ∀ tip ∈ checkpoint.tips,
            (verifyWriters platform publicKeyBytes entries).2 (tip.writerId, tip.seq) =
              some tip.contentHash) ∧
        LinkedFrom checkpointPlace FirstCheckpointOk none (checkpointChain checkpoints) :=
    foldl_verifyCheckpoint_valid none rfl rfl
  rw [loops, verifyWriters_valid, linkedFrom_none_iff]
  constructor
  · rintro ⟨⟨entriesOk, chains⟩, checkpointsOk, linked, -⟩
    have present := fun checkpoint member => checkpointsOk checkpoint (mem_sortOn.mpr member)
    refine ⟨entriesOk, fun writer => (chains writer).1, fun writer => (chains writer).2,
      fun checkpoint member => (present checkpoint member).1, linked, ?_⟩
    intro checkpoint member tip tipMember
    exact (verifyWriters_tipIndex_eq_some (fun writer => (chains writer).1) tip).mp
      ((present checkpoint member).2 tip tipMember)
  · intro ok
    refine ⟨⟨ok.entriesOk, fun writer => ⟨ok.linked writer, ok.genesis writer⟩⟩, ?_,
      ok.checkpointsLinked, fun _ _ => trivial⟩
    intro checkpoint member
    have stored := mem_sortOn.mp member
    exact ⟨ok.checkpointsOk checkpoint stored, fun tip tipMember =>
      (verifyWriters_tipIndex_eq_some ok.linked tip).mpr
        (ok.tipsPresent checkpoint stored tip tipMember)⟩

end QuantaWatch.Audit
