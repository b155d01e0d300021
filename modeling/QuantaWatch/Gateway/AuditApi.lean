import QuantaWatch.Audit.HonestLog

/-!
Readers of the audit log
(`qw-gateway/src/admin/audit_api.rs`, the audit part of `evidence.rs`).
-/

namespace QuantaWatch.Gateway

open Audit Crypto Lib.Collections Lib.HashChain Lib.Transition Store

def verifyCap : Nat := 1000000

section

variable (platform : Platform) (identity : GatewayIdentity)

/-- `verify_audit`: the entries are read from one state of the store and the
checkpoints, later, from another. -/
def verifyAuditReads (atEntries atCheckpoints : AuditStore) : VerificationResult :=
  verifySharded platform (identity.publicKeyBytes platform) (atEntries.listEntries verifyCap)
    atCheckpoints.listCheckpoints

/-- `POST /api/audit/verify` on a store at rest. -/
def verifyAudit (store : AuditStore) : VerificationResult :=
  verifyAuditReads platform identity store store

end

/-- `GET /api/audit/export?format=bundle`. -/
def exportBundle (limit : Option Nat) (store : AuditStore) :
    List AuditEntry × List AuditCheckpoint :=
  (store.listEntries (min (limit.getD 10000) 1000000), store.listCheckpoints)

variable {platform : Platform} {identity : GatewayIdentity} {store later : AuditStore}

theorem closing_valid_iff (honest : Honest platform identity store)
    (laterHonest : Honest platform identity later) {kept : List AuditEntry} (closing : ∀ writer,
      kept.filter (fun entry => entry.writerId = writer) <:+ store.chainOf writer) :
    (verifySharded platform (identity.publicKeyBytes platform) kept
        later.listCheckpoints).valid = true ↔
      ∀ checkpoint ∈ later.allCheckpoints, ∀ tip ∈ checkpoint.tips, TipPresent kept tip := by
  have listed : ∀ checkpoint, checkpoint ∈ later.listCheckpoints ↔
      checkpoint ∈ later.allCheckpoints :=
    fun checkpoint => AuditStore.listCheckpoints_perm.mem_iff
  have segment : ∀ writer, Segment entryPlace (writerChain writer kept) := by
    intro writer
    have closed := (honest.whole writer).suffix (closing writer)
    rw [writerChain, closed.sortOn_eq (.refl _)]
    exact closed
  rw [verifySharded_valid_iff]
  constructor
  · intro ok checkpoint member
    exact ok.tipsPresent checkpoint ((listed _).mpr member)
  · intro present
    have laterOk := laterHonest.sound.logOk
    refine ⟨?_, fun writer => (segment writer).linked, fun writer => (segment writer).genesis,
      laterOk.checkpointsOk, laterOk.checkpointsLinked, ?_⟩
    · intro entry member
      have inChain := (closing entry.writerId).subset (List.mem_filter.mpr ⟨member, by simp⟩)
      exact honest.sound.entriesOk entry (AuditStore.mem_chainOf.mp inChain).1
    · intro checkpoint member
      exact present checkpoint ((listed _).mp member)

def tipKeys (checkpoints : List AuditCheckpoint) : List (String × UInt64) :=
  checkpoints.flatMap fun checkpoint => checkpoint.tips.map fun tip => (tip.writerId, tip.seq)

variable {checkpoints : List AuditCheckpoint} {key : String × UInt64} {deleted : AuditEntry → Bool}
    {entry : AuditEntry}

theorem mem_tipKeys : key ∈ tipKeys checkpoints ↔
      ∃ checkpoint ∈ checkpoints, ∃ tip ∈ checkpoint.tips, (tip.writerId, tip.seq) = key := by
  simp [tipKeys]

theorem exists_entry_of_valid {publicKeyBytes : List UInt8} {entries : List AuditEntry}
    (valid : (verifySharded platform publicKeyBytes entries checkpoints).valid = true)
    (committed : key ∈ tipKeys checkpoints) : ∃ entry ∈ entries, entryKey entry = key := by
  obtain ⟨checkpoint, member, tip, tipMember, rfl⟩ := mem_tipKeys.mp committed
  obtain ⟨entry, stored, writer, number, -⟩ :=
    (verifySharded_valid_iff.mp valid).tipsPresent checkpoint member tip tipMember
  exact ⟨entry, stored, Prod.ext writer number⟩

theorem mem_tipKeys_listCheckpoints :
    key ∈ tipKeys store.listCheckpoints ↔ key ∈ tipKeys store.allCheckpoints := by
  simp only [mem_tipKeys, AuditStore.listCheckpoints_perm.mem_iff]

namespace SampleLog

def earlyEvents : List Event :=
  [.start "gw-0" 4 true, .log "gw-0" ⟨"a", ⟨1⟩, "s", .logout "root"⟩ true true]

def commitEvents : List Event :=
  [.log "gw-0" ⟨"b", ⟨2⟩, "s", .logout "root"⟩ true true, .checkpoint "gw-0" ⟨3⟩ true]

def lateEvents : List Event :=
  [.log "gw-0" ⟨"c", ⟨4⟩, "s", .logout "root"⟩ true true]

def early : System := earlyEvents.foldl (step samplePlatform sampleIdentity) .initial

def committed : System := commitEvents.foldl (step samplePlatform sampleIdentity) early

def late : System := lateEvents.foldl (step samplePlatform sampleIdentity) committed

theorem early_run : HonestRun samplePlatform sampleIdentity earlyEvents early :=
  .cons ⟨rfl, rfl⟩ (.cons (succeeds_log rfl (show (0 : UInt64) ∉ [] by decide) _) (.nil _))

theorem commit_run :
    Run (step samplePlatform sampleIdentity) (Succeeds samplePlatform sampleIdentity) early
      commitEvents committed :=
  .cons (succeeds_log rfl (show (1 : UInt64) ∉ [0] by decide) _) (.cons rfl (.nil _))

theorem committed_run :
    HonestRun samplePlatform sampleIdentity (earlyEvents ++ commitEvents) committed :=
  early_run.append commit_run

theorem late_run :
    HonestRun samplePlatform sampleIdentity (earlyEvents ++ commitEvents ++ lateEvents) late :=
  committed_run.append
    (.cons (succeeds_log rfl (show (2 : UInt64) ∉ [0, 1] by decide) _) (.nil _))

theorem early_keys : early.store.allEntries.map entryKey = [("gw-0", 0)] := rfl

theorem committed_keys : committed.store.allEntries.map entryKey = [("gw-0", 0), ("gw-0", 1)] := rfl

theorem committed_tipKeys : tipKeys committed.store.allCheckpoints = [("gw-0", 1)] := rfl

theorem late_tipKeys : tipKeys late.store.allCheckpoints = [("gw-0", 1)] := rfl

end SampleLog

def CommittedTip (store : AuditStore) (entry : AuditEntry) : Prop :=
  entryKey entry ∈ tipKeys store.allCheckpoints

def Committed (store : AuditStore) (entry : AuditEntry) : Prop :=
  ∃ number, (entry.writerId, number) ∈ tipKeys store.allCheckpoints ∧
    entry.sequence.toNat ≤ number.toNat

theorem entry_eq (honest : Honest platform identity store) {left right : AuditEntry}
    (leftStored : left ∈ store.allEntries) (rightStored : right ∈ store.allEntries)
    (same : entryKey left = entryKey right) : left = right := by
  obtain ⟨sameWriter, sameNumber⟩ := Prod.mk.inj same
  exact (honest.whole right.writerId).eq_of_seq_eq
    (AuditStore.mem_chainOf.mpr ⟨leftStored, sameWriter⟩)
    (AuditStore.mem_chainOf.mpr ⟨rightStored, rfl⟩) sameNumber

theorem verifyAudit_deleteEntries (capped : store.entries.length ≤ verifyCap) :
    verifyAudit platform identity (store.deleteEntries deleted) =
      verifySharded platform (identity.publicKeyBytes platform)
        (store.allEntries.filter fun entry => !deleted entry) store.listCheckpoints := by
  have few : (store.deleteEntries deleted).entries.length ≤ verifyCap :=
    (List.length_filter_le _ _).trans capped
  rw [verifyAudit, verifyAuditReads, AuditStore.listEntries_of_le few,
    AuditStore.deleteEntries_allEntries]
  rfl

variable (honest : Honest platform identity store)

include honest

variable (capped : store.entries.length ≤ verifyCap)

include capped

theorem verifyAudit_front_deleted
    (tipsKept : ∀ entry ∈ store.allEntries, deleted entry = true → ¬ CommittedTip store entry)
    (front : ∀ entry ∈ store.allEntries, deleted entry = true →
      ∀ kept ∈ store.allEntries, deleted kept = false → kept.writerId = entry.writerId →
        ¬ kept.sequence.toNat < entry.sequence.toNat) :
    (verifyAudit platform identity (store.deleteEntries deleted)).valid = true := by
  rw [verifyAudit_deleteEntries capped, closing_valid_iff honest honest]
  · intro checkpoint member tip tipMember
    obtain ⟨entry, stored, writer, number, hash⟩ :=
      (honest.tipsOk checkpoint member tip tipMember).1
    have kept : deleted entry = false := by
      by_contra gone
      refine tipsKept entry stored (by simpa using gone) (mem_tipKeys.mpr ?_)
      exact ⟨checkpoint, member, tip, tipMember, Prod.ext writer.symm number.symm⟩
    exact ⟨entry, List.mem_filter.mpr ⟨stored, by simp [kept]⟩, writer, number, hash⟩
  · intro writer
    rw [List.filter_comm]
    -- along one writer's chain, whatever follows a kept entry is kept
    refine filter_suffix ?_
    refine (honest.whole writer).increasing.imp_of_mem ?_
    intro before after beforeMember afterMember less beforeKept
    obtain ⟨beforeStored, beforeWriter⟩ := AuditStore.mem_chainOf.mp beforeMember
    obtain ⟨afterStored, afterWriter⟩ := AuditStore.mem_chainOf.mp afterMember
    by_contra gone
    exact front after afterStored (by simpa using gone) before beforeStored
      (by simpa using beforeKept) (beforeWriter.trans afterWriter.symm) less

theorem verifyAudit_tip_deleted (stored : entry ∈ store.allEntries) (gone : deleted entry = true)
    (tip : CommittedTip store entry) :
    (verifyAudit platform identity (store.deleteEntries deleted)).valid = false := by
  rw [Bool.eq_false_iff, verifyAudit_deleteEntries capped]
  intro valid
  obtain ⟨found, foundKept, same⟩ :=
    exists_entry_of_valid valid (mem_tipKeys_listCheckpoints.mpr tip)
  obtain ⟨foundStored, kept⟩ := List.mem_filter.mp foundKept
  rw [entry_eq honest foundStored stored same, gone] at kept
  cases kept

theorem verifyAudit_hole {below : AuditEntry} (stored : entry ∈ store.allEntries)
    (gone : deleted entry = true) (committed : Committed store entry)
    (belowStored : below ∈ store.allEntries) (belowKept : deleted below = false)
    (sameWriter : below.writerId = entry.writerId)
    (less : below.sequence.toNat < entry.sequence.toNat) :
    (verifyAudit platform identity (store.deleteEntries deleted)).valid = false := by
  rw [Bool.eq_false_iff, verifyAudit_deleteEntries capped]
  intro valid
  obtain ⟨number, tip, atMost⟩ := committed
  obtain ⟨top, topKept, same⟩ :=
    exists_entry_of_valid valid (mem_tipKeys_listCheckpoints.mpr tip)
  obtain ⟨topWriter, rfl⟩ := Prod.mk.inj same
  have presented : ∀ {other : AuditEntry},
      other ∈ writerChain entry.writerId (store.allEntries.filter fun entry => !deleted entry) ↔
        other ∈ store.allEntries ∧ other.writerId = entry.writerId ∧ deleted other = false := by
    simp [writerChain]
  -- the presented chain counts up from the kept entry to the tip, so it meets the hole
  have consecutive := consecutive_of_follows
    ((verifySharded_valid_iff.mp valid).linked entry.writerId) (sortOn_sorted _ _)
  obtain ⟨topStored, topNotDeleted⟩ := List.mem_filter.mp topKept
  obtain ⟨found, foundMember, foundNumber⟩ := consecutive.interval
    (presented.mpr ⟨belowStored, sameWriter, belowKept⟩)
    (presented.mpr ⟨topStored, topWriter, by simpa using topNotDeleted⟩) less.le atMost
  obtain ⟨foundStored, own, kept⟩ := presented.mp foundMember
  have hole : found = entry :=
    entry_eq honest foundStored stored (Prod.ext own (UInt64.toNat_inj.mp foundNumber))
  rw [hole, gone] at kept
  cases kept

omit capped

omit honest

/-- Rows at or below committed tips are deleted: the endpoint notices exactly
when a committed tip is among them or an older entry of the same writer stays. -/
theorem verifyAudit_deleteEntries_not_valid_iff (lawful : platform.Lawful) {events : List Event}
    {final : System} (run : HonestRun platform identity events final)
    (capped : final.store.entries.length ≤ verifyCap) (deleted : AuditEntry → Bool)
    (committed : ∀ entry ∈ final.store.allEntries, deleted entry = true →
      Committed final.store entry) :
    (verifyAudit platform identity (final.store.deleteEntries deleted)).valid = false ↔
      ∃ entry ∈ final.store.allEntries, deleted entry = true ∧
        (CommittedTip final.store entry ∨
          ∃ kept ∈ final.store.allEntries, deleted kept = false ∧
            kept.writerId = entry.writerId ∧ kept.sequence.toNat < entry.sequence.toNat) := by
  have honest := (run.healthy lawful).store
  constructor
  · intro rejected
    by_contra unnoticed
    push Not at unnoticed
    have accepted := verifyAudit_front_deleted honest capped
      (fun entry stored gone => (unnoticed entry stored gone).1)
      (fun entry stored gone kept keptStored notDeleted own less =>
        absurd ((unnoticed entry stored gone).2 kept keptStored notDeleted own)
          (not_le.mpr less))
    rw [rejected] at accepted
    cases accepted
  · rintro ⟨entry, stored, gone, tip | ⟨kept, keptStored, notDeleted, own, less⟩⟩
    · exact verifyAudit_tip_deleted honest capped stored gone tip
    · exact verifyAudit_hole honest capped stored gone (committed entry stored gone) keptStored
        notDeleted own less

def isFirst (entry : AuditEntry) : Bool := entry.sequence = 0

theorem SampleLog.committed_all (stored : entry ∈ SampleLog.committed.store.allEntries) :
    Committed SampleLog.committed.store entry := by
  have key : entryKey entry ∈ SampleLog.committed.store.allEntries.map entryKey :=
    List.mem_map_of_mem stored
  rw [committed_keys] at key
  have place : entry.writerId = "gw-0" ∧ (entry.sequence = 0 ∨ entry.sequence = 1) := by
    simpa [entryKey, ← and_or_left] using key
  obtain ⟨writer, number⟩ := place
  refine ⟨1, ?_, ?_⟩
  · rw [committed_tipKeys, writer]
    exact List.mem_singleton_self _
  · obtain number | number := number <;> simp [number]

theorem verifyAudit_first_deleted_valid :
    HonestRun samplePlatform sampleIdentity (SampleLog.earlyEvents ++ SampleLog.commitEvents)
        SampleLog.committed ∧
      SampleLog.committed.store.entries.length ≤ verifyCap ∧
      (∃ entry ∈ SampleLog.committed.store.allEntries, isFirst entry = true) ∧
      (∀ entry ∈ SampleLog.committed.store.allEntries, isFirst entry = true →
        Committed SampleLog.committed.store entry) ∧
      (verifyAudit samplePlatform sampleIdentity
        (SampleLog.committed.store.deleteEntries isFirst)).valid = true := by
  have honest := (SampleLog.committed_run.healthy samplePlatform_lawful).store
  have capped : SampleLog.committed.store.entries.length ≤ verifyCap := by decide
  refine ⟨SampleLog.committed_run, capped, ?_, fun _ stored _ => SampleLog.committed_all stored, ?_⟩
  · have key : ("gw-0", 0) ∈ SampleLog.committed.store.allEntries.map entryKey := by
      rw [SampleLog.committed_keys]
      simp
    obtain ⟨entry, stored, same⟩ := List.mem_map.mp key
    exact ⟨entry, stored, decide_eq_true (Prod.mk.inj same).2⟩
  · apply verifyAudit_front_deleted honest capped
    · intro entry _ first tip
      have zero : entry.sequence = 0 := of_decide_eq_true first
      rw [CommittedTip, SampleLog.committed_tipKeys] at tip
      simp [entryKey, zero] at tip
    · intro entry _ first kept _ _ _ less
      have zero : entry.sequence = 0 := of_decide_eq_true first
      simp [zero] at less

theorem verifyAudit_deleteEntries_not_valid_iff_first :
    (verifyAudit samplePlatform sampleIdentity
        (SampleLog.committed.store.deleteEntries isFirst)).valid = false ↔
      ∃ entry ∈ SampleLog.committed.store.allEntries, isFirst entry = true ∧
        (CommittedTip SampleLog.committed.store entry ∨
          ∃ kept ∈ SampleLog.committed.store.allEntries, isFirst kept = false ∧
            kept.writerId = entry.writerId ∧ kept.sequence.toNat < entry.sequence.toNat) :=
  verifyAudit_deleteEntries_not_valid_iff samplePlatform_lawful SampleLog.committed_run (by decide)
    isFirst fun _ stored _ => SampleLog.committed_all stored

/-- The last entries of an honest log verify with its checkpoints exactly when
they hold every tip those committed. -/
theorem exportBundle_valid_iff (lawful : platform.Lawful) {events : List Event} {final : System}
    (run : HonestRun platform identity events final) (limit : Option Nat) :
    (verifySharded platform (identity.publicKeyBytes platform)
        (exportBundle limit final.store).1 (exportBundle limit final.store).2).valid = true ↔
      ∀ checkpoint ∈ final.store.allCheckpoints, ∀ tip ∈ checkpoint.tips,
        TipPresent (exportBundle limit final.store).1 tip := by
  have honest := (run.healthy lawful).store
  apply closing_valid_iff honest honest
  intro writer
  exact AuditStore.listEntries_suffix _ writer

theorem exportBundle_valid_iff_late :
    (verifySharded samplePlatform (sampleIdentity.publicKeyBytes samplePlatform)
        (exportBundle (some 2) SampleLog.late.store).1
        (exportBundle (some 2) SampleLog.late.store).2).valid = true ↔
      ∀ checkpoint ∈ SampleLog.late.store.allCheckpoints, ∀ tip ∈ checkpoint.tips,
        TipPresent (exportBundle (some 2) SampleLog.late.store).1 tip :=
  exportBundle_valid_iff samplePlatform_lawful SampleLog.late_run _

theorem exportBundle_late_not_valid :
    HonestRun samplePlatform sampleIdentity
        (SampleLog.earlyEvents ++ SampleLog.commitEvents ++ SampleLog.lateEvents) SampleLog.late ∧
      (verifySharded samplePlatform (sampleIdentity.publicKeyBytes samplePlatform)
        (exportBundle (some 1) SampleLog.late.store).1
        (exportBundle (some 1) SampleLog.late.store).2).valid = false := by
  refine ⟨SampleLog.late_run, Bool.eq_false_iff.mpr ?_⟩
  intro valid
  have tip : ("gw-0", 1) ∈ tipKeys SampleLog.late.store.listCheckpoints := by
    rw [mem_tipKeys_listCheckpoints, SampleLog.late_tipKeys]
    exact List.mem_singleton_self _
  obtain ⟨entry, exported, same⟩ := exists_entry_of_valid valid tip
  have keys : (exportBundle (some 1) SampleLog.late.store).1.map entryKey = [("gw-0", 2)] := rfl
  have key := List.mem_map_of_mem (f := entryKey) exported
  rw [keys, same] at key
  simp at key

/-- The endpoint reads the entries, the replicas go on, and it reads the
checkpoints: it accepts exactly when every checkpoint committed in between
commits tips that were there at the first read. -/
theorem verifyAuditReads_valid_iff (lawful : platform.Lawful) {before between : List Event}
    {atEntries atCheckpoints : System} (run : HonestRun platform identity before atEntries)
    (goesOn : Run (step platform identity) (Succeeds platform identity) atEntries between
      atCheckpoints)
    (capped : atEntries.store.entries.length ≤ verifyCap) :
    (verifyAuditReads platform identity atEntries.store atCheckpoints.store).valid = true ↔
      ∀ checkpoint ∈ atCheckpoints.store.allCheckpoints,
        checkpoint ∉ atEntries.store.allCheckpoints →
          ∀ tip ∈ checkpoint.tips, TipPresent atEntries.store.allEntries tip := by
  have honest := (run.healthy lawful).store
  have laterHonest := (HonestRun.healthy lawful (run.append goesOn)).store
  rw [verifyAuditReads, AuditStore.listEntries_of_le capped,
    closing_valid_iff honest laterHonest (fun writer => List.suffix_refl _)]
  constructor
  · intro present checkpoint member _
    exact present checkpoint member
  · intro present checkpoint member tip tipMember
    by_cases old : checkpoint ∈ atEntries.store.allCheckpoints
    · exact (honest.tipsOk checkpoint old tip tipMember).1
    · exact present checkpoint member old tip tipMember

theorem verifyAuditReads_valid_iff_early :
    (verifyAuditReads samplePlatform sampleIdentity SampleLog.early.store
        SampleLog.committed.store).valid = true ↔
      ∀ checkpoint ∈ SampleLog.committed.store.allCheckpoints,
        checkpoint ∉ SampleLog.early.store.allCheckpoints →
          ∀ tip ∈ checkpoint.tips, TipPresent SampleLog.early.store.allEntries tip :=
  verifyAuditReads_valid_iff samplePlatform_lawful SampleLog.early_run SampleLog.commit_run
    (by decide)

theorem verifyAuditReads_early_not_valid :
    HonestRun samplePlatform sampleIdentity SampleLog.earlyEvents SampleLog.early ∧
      Run (step samplePlatform sampleIdentity) (Succeeds samplePlatform sampleIdentity)
        SampleLog.early SampleLog.commitEvents SampleLog.committed ∧
      SampleLog.early.store.entries.length ≤ verifyCap ∧
      (verifyAuditReads samplePlatform sampleIdentity SampleLog.early.store
        SampleLog.committed.store).valid = false := by
  refine ⟨SampleLog.early_run, SampleLog.commit_run, by decide, Bool.eq_false_iff.mpr ?_⟩
  intro valid
  have tip : ("gw-0", 1) ∈ tipKeys SampleLog.committed.store.listCheckpoints := by
    rw [mem_tipKeys_listCheckpoints, SampleLog.committed_tipKeys]
    exact List.mem_singleton_self _
  obtain ⟨entry, stored, same⟩ := exists_entry_of_valid valid tip
  have keys : (SampleLog.early.store.listEntries verifyCap).map entryKey = [("gw-0", 0)] := by
    rw [AuditStore.listEntries_of_le (by decide)]
    exact SampleLog.early_keys
  have key := List.mem_map_of_mem (f := entryKey) stored
  rw [keys, same] at key
  simp at key

end QuantaWatch.Gateway
