import QuantaWatch.Audit.HonestLog

/-!
What failed calls do to the audit log.
-/

namespace QuantaWatch.Audit

open Crypto Lib.Collections Lib.HashChain Lib.Transition Store

def Event.writer : Event → String
  | .start writer _ _ => writer
  | .stop writer => writer
  | .log writer _ _ _ => writer
  | .checkpoint writer _ _ => writer
  | .readLatest writer => writer
  | .readTips writer => writer
  | .insertCheckpoint writer _ _ => writer

def OneLogger (writer : String) (system : System) (event : Event) : Prop :=
  event.writer = writer ∧
    ∀ batchSize tipRead, event = .start writer batchSize tipRead → system.replicas writer = none

def lostInsertEvents : List Event :=
  [.start "gw-0" 4 true,
    .log "gw-0" ⟨"a", ⟨1⟩, "s", .logout "root"⟩ true true,
    .log "gw-0" ⟨"b", ⟨2⟩, "s", .logout "root"⟩ true false,
    .log "gw-0" ⟨"c", ⟨3⟩, "s", .logout "root"⟩ true true]

def lostInsertFinal : System :=
  lostInsertEvents.foldl (step samplePlatform sampleIdentity) .initial

theorem lostInsert_not_valid :
    Run (step samplePlatform sampleIdentity) (OneLogger "gw-0") .initial lostInsertEvents
        lostInsertFinal ∧
      (verifySharded samplePlatform (sampleIdentity.publicKeyBytes samplePlatform)
        lostInsertFinal.store.allEntries lostInsertFinal.store.listCheckpoints).valid = false := by
  refine ⟨?_, ?_⟩
  · refine .cons ⟨rfl, fun _ _ _ => rfl⟩ ?_
    refine .cons ⟨rfl, nofun⟩ (.cons ⟨rfl, nofun⟩ (.cons ⟨rfl, nofun⟩ (.nil _)))
  · rw [Bool.eq_false_iff]
    intro valid
    have linked := (verifySharded_valid_iff.mp valid).linked "gw-0"
    have numbers : (writerChain "gw-0" lostInsertFinal.store.allEntries).map AuditEntry.sequence =
        [0, 2] := rfl
    have consecutive : ((writerChain "gw-0" lostInsertFinal.store.allEntries).map
        AuditEntry.sequence).IsChain fun before after => after = before + 1 :=
      (List.isChain_map _).mpr (linked.imp fun _ _ follows => follows.1)
    rw [numbers] at consecutive
    revert consecutive
    decide

def InSync (store : AuditStore) (writer : String) (chain : AuditChain) : Prop :=
  match (store.chainOf writer).getLast? with
  | none => chain.sequence = 0 → chain.lastHash = ""
  | some last =>
    chain.sequence.toNat = last.sequence.toNat + 1 ∧ chain.lastHash = last.contentHash

def KeepsLog (system : System) : Event → Prop
  | .log writer _ signs inserts =>
    signs = true → inserts = true →
      ∀ chain, system.replicas writer = some ⟨chain, .idle⟩ →
        (∃ stored ∈ system.store.chainOf writer, stored.sequence = chain.sequence) ∨
          InSync system.store writer chain
  | .checkpoint writer _ signs =>
    ∀ chain, system.replicas writer = some ⟨chain, .idle⟩ →
      system.store.allWriterTips ≠ [] → signs = true
  | .insertCheckpoint writer _ signs =>
    ∀ chain nextSeq prevHash tips,
      system.replicas writer = some ⟨chain, .tipsRead nextSeq prevHash tips⟩ → signs = true
  | _ => True

variable {platform : Platform} {identity : GatewayIdentity} {store later : AuditStore}

def PendingSound (store : AuditStore) : Pending → Prop
  | .idle => True
  | .latestRead nextSeq prevHash =>
    Positioned checkpointPlace store.allCheckpoints nextSeq prevHash
  | .tipsRead nextSeq prevHash tips =>
    Positioned checkpointPlace store.allCheckpoints nextSeq prevHash ∧
      ∀ tip ∈ tips, TipPresent store.allEntries tip

theorem PendingSound.mono {pending : Pending} (sound : PendingSound store pending)
    (grows : store.Extends later) : PendingSound later pending := by
  cases pending with
  | idle => trivial
  | latestRead nextSeq prevHash => exact Positioned.mono sound grows.allCheckpoints
  | tipsRead nextSeq prevHash tips =>
    exact ⟨Positioned.mono sound.1 grows.allCheckpoints, fun tip member =>
      (sound.2 tip member).mono grows.allEntries.subset⟩

theorem InSync.segment {writer : String} {chain : AuditChain} (sync : InSync store writer chain)
    (segment : Segment entryPlace (store.chainOf writer)) (request : LogRequest) :
    Segment entryPlace
      (store.chainOf writer ++ [(loggedEntry platform identity writer chain request).1]) := by
  unfold InSync at sync
  split at sync
  · rename_i empty
    rw [List.getLast?_eq_none_iff.mp empty]
    exact Segment.singleton sync
  · rename_i last isLast
    exact segment.snoc isLast sync.1 sync.2

abbrev Contained (platform : Platform) (identity : GatewayIdentity) : System → Prop :=
  System.Keeps (Sound platform identity) fun store _ replica => PendingSound store replica.pending

namespace Contained

variable {system : System} {writer : String} {signs : Bool} {timestamp : DateTime}

theorem log (lawful : platform.Lawful) (contained : Contained platform identity system)
    {request : LogRequest} {inserts : Bool}
    (keeps : KeepsLog system (.log writer request signs inserts)) : Contained platform identity
      (system.log platform identity writer request signs inserts) := by
  unfold System.log
  split
  · rename_i chain running
    cases signs with
    | false => exact contained
    | true =>
      have idle : ∀ moved : AuditChain, ∀ replica, some (⟨moved, .idle⟩ : Replica) = some replica →
          ∀ store, PendingSound store replica.pending := by
        rintro moved _ ⟨rfl⟩ store
        trivial
      cases inserts with
      | false => exact contained.setReplica fun replica equal => idle _ replica equal _
      | true =>
        cases appended : system.store.appendEntry
          (loggedEntry platform identity writer chain request).1 with
        | none =>
          simp only [if_true, appended, Option.getD_none]
          exact contained.setReplica fun replica equal => idle _ replica equal _
        | some next =>
          simp only [if_true, appended, Option.getD_some]
          have free := (AuditStore.appendEntry_eq_some appended).2.2
          have sync : InSync system.store writer chain :=
            (keeps rfl rfl chain running).resolve_left
              fun ⟨stored, member, taken⟩ => free stored member taken
          have sound := contained.store.append appended (loggedEntry_ok lawful _ _ _)
            (sync.segment (contained.store.segments writer) request)
          exact (contained.grow PendingSound.mono sound
            (AuditStore.appendEntry_extends appended)).setReplica
              fun replica equal => idle _ replica equal _
  · exact contained

theorem checkpoint (lawful : platform.Lawful) (contained : Contained platform identity system)
    (keeps : KeepsLog system (.checkpoint writer timestamp signs)) : Contained platform identity
      (system.checkpoint platform identity writer timestamp signs) := by
  unfold System.checkpoint
  split
  · rename_i chain running
    cases committed : system.store.commitCheckpoint
      (signedCheckpoint platform identity signs timestamp) with
    | none => exact contained
    | some next =>
      obtain ⟨tips, inserted⟩ := AuditStore.commitCheckpoint_eq_some committed
      obtain rfl : signs = true := keeps chain running tips
      have sound := contained.store.commit_signed lawful timestamp
        contained.store.nextCheckpoint (fun _ => Sound.tips_present) inserted
      exact contained.grow PendingSound.mono sound
        (AuditStore.insertCheckpoint_extends inserted)
  · exact contained

theorem readLatest (contained : Contained platform identity system) (writer : String) :
    Contained platform identity (system.readLatest writer) := by
  unfold System.readLatest
  split
  · refine contained.setReplica ?_
    rintro _ ⟨rfl⟩
    exact contained.store.nextCheckpoint
  · exact contained

theorem readTips (contained : Contained platform identity system) (writer : String) :
    Contained platform identity (system.readTips writer) := by
  unfold System.readTips
  split
  · rename_i chain nextSeq prevHash running
    have position := contained.replicas writer _ running
    refine contained.setReplica ?_
    rintro _ ⟨rfl⟩
    simp only
    split_ifs
    · trivial
    · exact ⟨position, fun _ => Sound.tips_present⟩
  · exact contained

theorem insertCheckpoint (lawful : platform.Lawful) (contained : Contained platform identity system)
    (keeps : KeepsLog system (.insertCheckpoint writer timestamp signs)) :
    Contained platform identity
      (system.insertCheckpoint platform identity writer timestamp signs) := by
  unfold System.insertCheckpoint
  split
  · rename_i chain nextSeq prevHash tips running
    obtain ⟨position, present⟩ := contained.replicas writer _ running
    obtain rfl : signs = true := keeps chain nextSeq prevHash tips running
    cases inserted : system.store.insertCheckpoint
      (signedCheckpoint platform identity true timestamp nextSeq prevHash tips) with
    | none =>
      simp only [inserted, Option.getD_none]
      refine contained.setReplica ?_
      rintro _ ⟨rfl⟩
      trivial
    | some next =>
      simp only [inserted, Option.getD_some]
      have sound := contained.store.commit_signed lawful timestamp position present inserted
      refine (contained.grow PendingSound.mono sound
        (AuditStore.insertCheckpoint_extends inserted)).setReplica ?_
      rintro _ ⟨rfl⟩
      trivial
  · exact contained

theorem next (lawful : platform.Lawful) (event : Event) (keeps : KeepsLog system event)
    (contained : Contained platform identity system) :
    Contained platform identity (step platform identity system event) := by
  cases event with
  | start writer batchSize tipRead =>
    refine contained.setReplica ?_
    rintro _ ⟨rfl⟩
    trivial
  | stop writer => exact contained.setReplica (by simp)
  | log writer request signs inserts => exact contained.log lawful keeps
  | checkpoint writer timestamp signs => exact contained.checkpoint lawful keeps
  | readLatest writer => exact contained.readLatest writer
  | readTips writer => exact contained.readTips writer
  | insertCheckpoint writer timestamp signs => exact contained.insertCheckpoint lawful keeps

end Contained

/-- Whatever calls fail, if every stored entry continues what is stored and no
unsigned checkpoint is stored, all that is stored verifies. -/
theorem keepsLog_run_verifies (lawful : platform.Lawful) {events : List Event} {final : System}
    (run : Run (step platform identity) (KeepsLog) .initial events final) :
    (verifySharded platform (identity.publicKeyBytes platform) final.store.allEntries
      final.store.listCheckpoints).valid = true := by
  have contained : Contained platform identity final :=
    run.invariant (fun _ event keeps contained => contained.next lawful event keeps)
      (.initial .empty)
  exact contained.store.valid

def containedEvents : List Event :=
  [.start "gw-0" 4 false,
    .log "gw-0" ⟨"a", ⟨1⟩, "s", .logout "root"⟩ false true,
    .log "gw-0" ⟨"b", ⟨2⟩, "s", .logout "root"⟩ true false,
    .log "gw-0" ⟨"c", ⟨3⟩, "s", .logout "root"⟩ true true,
    .checkpoint "gw-0" ⟨4⟩ true, .stop "gw-0", .start "gw-0" 4 true]

def containedFinal : System :=
  containedEvents.foldl (step samplePlatform sampleIdentity) .initial

theorem containedRun :
    Run (step samplePlatform sampleIdentity) KeepsLog .initial containedEvents containedFinal := by
  refine .cons trivial (.cons nofun (.cons nofun (.cons ?_ (.cons (fun _ _ _ => rfl) ?_))))
  · intro _ _ chain running
    have number := congrArg (Option.map fun replica : Replica => replica.chain.sequence) running
    change some (1 : UInt64) = some chain.sequence at number
    refine Or.inr fun zero => ?_
    rw [zero] at number
    exact absurd number (by decide)
  · exact .cons trivial (.cons trivial (.nil _))

theorem keepsLog_run_verifies_contained :
    (verifySharded samplePlatform (sampleIdentity.publicKeyBytes samplePlatform)
      containedFinal.store.allEntries containedFinal.store.listCheckpoints).valid = true :=
  keepsLog_run_verifies samplePlatform_lawful containedRun

end QuantaWatch.Audit
