import QuantaWatch.Audit.System
import QuantaWatch.Crypto.Sample

/-!
The log that honest replicas write always verifies, whatever batch roots it carries.
-/

namespace QuantaWatch.Audit

open Crypto Lib.Collections Lib.HashChain Lib.Transition Store

section

variable (platform : Platform) (identity : GatewayIdentity)

structure Sound (store : AuditStore) : Prop where
  entriesOk : ∀ entry ∈ store.allEntries, EntryOk platform (identity.publicKeyBytes platform) entry
  segments : ∀ writer, Segment entryPlace (store.chainOf writer)
  checkpointsOk : ∀ checkpoint ∈ store.allCheckpoints,
    CheckpointOk platform (identity.publicKeyBytes platform) checkpoint
  checkpoints : Whole checkpointPlace store.allCheckpoints
  tipsPresent : ∀ checkpoint ∈ store.allCheckpoints, ∀ tip ∈ checkpoint.tips,
    TipPresent store.allEntries tip

end

variable {platform : Platform} {identity : GatewayIdentity} {store later : AuditStore}

theorem TipPresent.mono {entries more : List AuditEntry} {tip : WriterTip}
    (present : TipPresent entries tip) (grows : entries ⊆ more) : TipPresent more tip := by
  obtain ⟨entry, member, matched⟩ := present
  exact ⟨entry, grows member, matched⟩

namespace Sound

theorem empty : Sound platform identity .empty where
  entriesOk := by simp [AuditStore.allEntries, AuditStore.empty]
  segments writer := by
    simpa [AuditStore.chainOf, AuditStore.allEntries, AuditStore.empty] using Segment.nil
  checkpointsOk := by simp [AuditStore.allCheckpoints, AuditStore.empty]
  checkpoints := .nil
  tipsPresent := by simp [AuditStore.allCheckpoints, AuditStore.empty]

variable (sound : Sound platform identity store)

include sound

theorem append {entry : AuditEntry} (appended : store.appendEntry entry = some later)
    (ok : EntryOk platform (identity.publicKeyBytes platform) entry)
    (continues : Segment entryPlace (store.chainOf entry.writerId ++ [entry])) :
    Sound platform identity later := by
  have allEntries := AuditStore.appendEntry_allEntries appended
  have allCheckpoints := AuditStore.appendEntry_allCheckpoints appended
  refine ⟨?_, ?_, ?_, ?_, ?_⟩
  · intro stored member
    rw [allEntries, List.mem_append, List.mem_singleton] at member
    rcases member with old | rfl
    · exact sound.entriesOk stored old
    · exact ok
  · intro writer
    rw [AuditStore.appendEntry_chainOf appended]
    split_ifs with own
    · exact own ▸ continues
    · exact sound.segments writer
  · rw [allCheckpoints]
    exact sound.checkpointsOk
  · rw [allCheckpoints]
    exact sound.checkpoints
  · intro checkpoint member tip tipMember
    rw [allCheckpoints] at member
    refine (sound.tipsPresent checkpoint member tip tipMember).mono ?_
    simp [allEntries]

theorem commit {checkpoint : AuditCheckpoint}
    (inserted : store.insertCheckpoint checkpoint = some later)
    (ok : CheckpointOk platform (identity.publicKeyBytes platform) checkpoint)
    (continues : Whole checkpointPlace (store.allCheckpoints ++ [checkpoint]))
    (present : ∀ tip ∈ checkpoint.tips, TipPresent store.allEntries tip) :
    Sound platform identity later := by
  have allEntries := AuditStore.insertCheckpoint_allEntries inserted
  have allCheckpoints := AuditStore.insertCheckpoint_allCheckpoints inserted
  refine ⟨?_, ?_, ?_, ?_, ?_⟩
  · rw [allEntries]
    exact sound.entriesOk
  · intro writer
    rw [AuditStore.chainOf, allEntries]
    exact sound.segments writer
  · intro stored member
    rw [allCheckpoints, List.mem_append, List.mem_singleton] at member
    rcases member with old | rfl
    · exact sound.checkpointsOk stored old
    · exact ok
  · rw [allCheckpoints]
    exact continues
  · intro stored member
    rw [allCheckpoints, List.mem_append, List.mem_singleton] at member
    rw [allEntries]
    rcases member with old | rfl
    · exact sound.tipsPresent stored old
    · exact present

theorem nextCheckpoint : Positioned checkpointPlace store.allCheckpoints store.nextCheckpoint.1
      store.nextCheckpoint.2 := by
  rcases store.nextCheckpoint_cases with ⟨-, next⟩ | ⟨checkpoint, member, next⟩
  · rw [next]
    exact Positioned.start _ _
  · rw [next]
    exact Positioned.resume sound.checkpoints member

omit sound

theorem tips_present {tip : WriterTip} (member : tip ∈ store.allWriterTips) :
    TipPresent store.allEntries tip := by
  obtain ⟨entry, stored, -, rfl⟩ := AuditStore.mem_allWriterTips.mp member
  exact ⟨entry, stored, rfl, rfl, rfl⟩

theorem commit_signed (lawful : platform.Lawful) (sound : Sound platform identity store)
    {nextSeq : UInt64} {prevHash : String} {tips : List WriterTip} (timestamp : DateTime)
    (position : Positioned checkpointPlace store.allCheckpoints nextSeq prevHash)
    (present : ∀ tip ∈ tips, TipPresent store.allEntries tip) (inserted : store.insertCheckpoint
      (signedCheckpoint platform identity true timestamp nextSeq prevHash tips) = some later) :
    Sound platform identity later := by
  have free := (AuditStore.insertCheckpoint_eq_some inserted).2.2
  refine sound.commit inserted (signedCheckpoint_ok lawful _ _ _ _) ?_ ?_
  · exact position.extend sound.checkpoints rfl rfl free
  · intro tip member
    exact present tip (mem_sortOn.mp member)

variable (sound : Sound platform identity store)

include sound

theorem writerChain_eq (writer : String) :
    writerChain writer store.allEntries = store.chainOf writer :=
  (sound.segments writer).sortOn_eq (.refl _)

theorem logOk :
    LogOk platform (identity.publicKeyBytes platform) store.allEntries store.listCheckpoints := by
  have listed : ∀ checkpoint, checkpoint ∈ store.listCheckpoints ↔
      checkpoint ∈ store.allCheckpoints :=
    fun checkpoint => AuditStore.listCheckpoints_perm.mem_iff
  have sorted : checkpointChain store.listCheckpoints = store.allCheckpoints :=
    sound.checkpoints.segment.sortOn_eq AuditStore.listCheckpoints_perm.symm
  refine
    { entriesOk := sound.entriesOk
      linked := fun writer => ?_
      genesis := fun writer => ?_
      checkpointsOk := fun checkpoint member =>
        sound.checkpointsOk checkpoint ((listed _).mp member)
      checkpointsLinked := ?_
      tipsPresent := fun checkpoint member =>
        sound.tipsPresent checkpoint ((listed _).mp member) }
  · rw [sound.writerChain_eq]
    exact (sound.segments writer).linked
  · rw [sound.writerChain_eq]
    exact (sound.segments writer).genesis
  · rw [sorted]
    exact sound.checkpoints.linked

theorem valid : (verifySharded platform (identity.publicKeyBytes platform) store.allEntries
      store.listCheckpoints).valid = true :=
  verifySharded_valid_iff.mpr sound.logOk

end Sound

def TipsGrow (before after : List WriterTip) : Prop :=
  ∀ tip ∈ before, (∃ next ∈ after, next.writerId = tip.writerId) ∧
    ∀ next ∈ after, next.writerId = tip.writerId → tip.seq.toNat ≤ next.seq.toNat

def TipOk (store : AuditStore) (tip : WriterTip) : Prop :=
  TipPresent store.allEntries tip ∧ tip.seq.toNat < 2 ^ 63

structure Honest (platform : Platform) (identity : GatewayIdentity) (store : AuditStore) :
    Prop where
  sound : Sound platform identity store
  whole : ∀ writer, Whole entryPlace (store.chainOf writer)
  tipsOk : ∀ checkpoint ∈ store.allCheckpoints, ∀ tip ∈ checkpoint.tips, TipOk store tip
  growing : store.allCheckpoints.Pairwise fun before after => TipsGrow before.tips after.tips

structure CommitReady (store : AuditStore) (nextSeq : UInt64) (prevHash : String)
    (tips : List WriterTip) : Prop where
  tipsOk : ∀ tip ∈ tips, TipOk store tip
  position : ∃ count ≤ store.allCheckpoints.length, nextSeq = UInt64.ofNat count ∧
    prevHash = lastHash checkpointPlace (store.allCheckpoints.take count) ∧
    ∀ checkpoint ∈ store.allCheckpoints.take count, TipsGrow checkpoint.tips tips

def PendingOk (store : AuditStore) : Pending → Prop
  | .idle => True
  | .latestRead nextSeq prevHash =>
    Positioned checkpointPlace store.allCheckpoints nextSeq prevHash
  | .tipsRead nextSeq prevHash tips => CommitReady store nextSeq prevHash tips

structure ReplicaOk (store : AuditStore) (writer : String) (replica : Replica) : Prop where
  chain : Positioned entryPlace (store.chainOf writer) replica.chain.sequence
    replica.chain.lastHash
  pending : PendingOk store replica.pending

theorem TipOk.mono {tip : WriterTip} (ok : TipOk store tip) (grows : store.Extends later) :
    TipOk later tip :=
  ⟨ok.1.mono grows.allEntries.subset, ok.2⟩

theorem CommitReady.mono {nextSeq : UInt64} {prevHash : String} {tips : List WriterTip}
    (ready : CommitReady store nextSeq prevHash tips) (grows : store.Extends later) :
    CommitReady later nextSeq prevHash tips := by
  obtain ⟨count, le, number, link, grow⟩ := ready.position
  obtain ⟨rest, longer⟩ := grows.allCheckpoints
  have taken : later.allCheckpoints.take count = store.allCheckpoints.take count := by
    rw [← longer, List.take_append_of_le_length le]
  refine ⟨fun tip member => (ready.tipsOk tip member).mono grows, count, ?_, number, ?_, ?_⟩
  · exact le.trans grows.allCheckpoints.length_le
  · rw [taken]
    exact link
  · rw [taken]
    exact grow

theorem ReplicaOk.mono {writer : String} {replica : Replica} (ok : ReplicaOk store writer replica)
    (grows : store.Extends later) : ReplicaOk later writer replica := by
  refine ⟨ok.chain.mono (grows.chainOf writer), ?_⟩
  have pending := ok.pending
  cases state : replica.pending with
  | idle => trivial
  | latestRead nextSeq prevHash =>
    rw [state] at pending
    exact pending.mono grows.allCheckpoints
  | tipsRead nextSeq prevHash tips =>
    rw [state] at pending
    exact pending.mono grows

namespace Honest

theorem empty : Honest platform identity .empty where
  sound := .empty
  whole writer := by
    simpa [AuditStore.chainOf, AuditStore.allEntries, AuditStore.empty] using Whole.nil
  tipsOk := by simp [AuditStore.allCheckpoints, AuditStore.empty]
  growing := .nil

theorem tips (honest : Honest platform identity store) :
    (∀ tip ∈ store.allWriterTips, TipOk store tip) ∧
      ∀ checkpoint ∈ store.allCheckpoints, TipsGrow checkpoint.tips store.allWriterTips := by
  refine ⟨?_, ?_⟩
  · intro tip member
    obtain ⟨entry, stored, largest, rfl⟩ := AuditStore.mem_allWriterTips.mp member
    refine ⟨⟨entry, stored, rfl, rfl, rfl⟩, ?_⟩
    -- the writer's chain starts at zero, so its largest stored number is not negative
    have nonempty : 0 < (store.chainOf entry.writerId).length :=
      List.length_pos_of_mem (AuditStore.mem_chainOf.mpr ⟨stored, rfl⟩)
    have zero := (honest.whole entry.writerId).seq_getElem 0 nonempty
    obtain ⟨firstStored, firstWriter⟩ := AuditStore.mem_chainOf.mp (List.getElem_mem nonempty)
    have atLeast := largest _ firstStored firstWriter
    have firstZero : AuditStore.signedSeq (store.chainOf entry.writerId)[0] = 0 := by
      unfold AuditStore.signedSeq
      change (entryPlace.seq _).toInt64.toInt = 0
      rw [zero]
      rfl
    rw [firstZero] at atLeast
    exact AuditStore.lt_of_toInt_toInt64_nonneg atLeast
  · intro checkpoint member tip tipMember
    obtain ⟨⟨entry, stored, writer, number, -⟩, small⟩ :=
      honest.tipsOk checkpoint member tip tipMember
    refine ⟨?_, ?_⟩
    · rw [← writer]
      exact AuditStore.exists_tip stored
    · intro next nextMember same
      obtain ⟨last, lastStored, largest, rfl⟩ := AuditStore.mem_allWriterTips.mp nextMember
      have le := largest entry stored (writer.trans same.symm)
      rw [← number] at small ⊢
      unfold AuditStore.signedSeq at le
      rw [AuditStore.toInt_toInt64_of_lt small] at le
      have lastSmall := AuditStore.lt_of_toInt_toInt64_nonneg (le_trans (by omega) le)
      rw [AuditStore.toInt_toInt64_of_lt lastSmall] at le
      exact_mod_cast le

theorem append (lawful : platform.Lawful) (honest : Honest platform identity store)
    {writer : String} {chain : AuditChain} (request : LogRequest)
    (position : Positioned entryPlace (store.chainOf writer) chain.sequence chain.lastHash)
    (appended : store.appendEntry (loggedEntry platform identity writer chain request).1 =
      some later) :
    Honest platform identity later ∧
      Positioned entryPlace (later.chainOf writer)
        (loggedEntry platform identity writer chain request).2.sequence
        (loggedEntry platform identity writer chain request).2.lastHash := by
  have free := (AuditStore.appendEntry_eq_some appended).2.2
  have continues : Whole entryPlace
      (store.chainOf writer ++ [(loggedEntry platform identity writer chain request).1]) :=
    position.extend (honest.whole writer) rfl rfl free
  refine ⟨⟨?_, ?_, ?_, ?_⟩, ?_⟩
  · exact honest.sound.append appended (loggedEntry_ok lawful writer chain request)
      continues.segment
  · intro other
    rw [AuditStore.appendEntry_chainOf appended]
    split_ifs with own
    · rw [← own]
      exact continues
    · exact honest.whole other
  · intro checkpoint member tip tipMember
    rw [AuditStore.appendEntry_allCheckpoints appended] at member
    exact (honest.tipsOk checkpoint member tip tipMember).mono
      (AuditStore.appendEntry_extends appended)
  · rw [AuditStore.appendEntry_allCheckpoints appended]
    exact honest.growing
  · have grown : later.chainOf writer =
        store.chainOf writer ++ [(loggedEntry platform identity writer chain request).1] := by
      rw [AuditStore.appendEntry_chainOf appended, if_pos (loggedEntry_writerId _ _ _)]
    rw [grown]
    simp only [loggedEntry, AuditChain.advance_sequence, AuditChain.advance_lastHash]
    exact position.advance (honest.whole writer) _ free

theorem commit (lawful : platform.Lawful) (honest : Honest platform identity store)
    {nextSeq : UInt64} {prevHash : String} {tips : List WriterTip} (timestamp : DateTime)
    (ready : CommitReady store nextSeq prevHash tips) (inserted : store.insertCheckpoint
      (signedCheckpoint platform identity true timestamp nextSeq prevHash tips) = some later) :
    Honest platform identity later := by
  have free := (AuditStore.insertCheckpoint_eq_some inserted).2.2
  have tipMember : ∀ tip, tip ∈ (signedCheckpoint platform identity true timestamp nextSeq
      prevHash tips).tips ↔ tip ∈ tips := fun tip => mem_sortOn
  obtain ⟨count, le, rfl, rfl, grow⟩ := ready.position
  obtain ⟨rfl, -⟩ := Positioned.count_eq_of_free honest.sound.checkpoints le free
  rw [List.take_length] at grow
  refine ⟨?_, ?_, ?_, ?_⟩
  · exact honest.sound.commit_signed lawful timestamp ⟨_, le, rfl, rfl⟩
      (fun tip member => (ready.tipsOk tip member).1) inserted
  · intro writer
    rw [AuditStore.chainOf, AuditStore.insertCheckpoint_allEntries inserted]
    exact honest.whole writer
  · have extended := AuditStore.insertCheckpoint_extends inserted
    intro checkpoint member tip present
    rw [AuditStore.insertCheckpoint_allCheckpoints inserted, List.mem_append,
      List.mem_singleton] at member
    rcases member with old | rfl
    · exact (honest.tipsOk checkpoint old tip present).mono extended
    · exact (ready.tipsOk tip ((tipMember tip).mp present)).mono extended
  · rw [AuditStore.insertCheckpoint_allCheckpoints inserted]
    refine List.pairwise_append.mpr ⟨honest.growing, List.pairwise_singleton _ _, ?_⟩
    intro before beforeMember after afterMember tip present
    obtain rfl := List.mem_singleton.mp afterMember
    obtain ⟨⟨next, nextMember, same⟩, later⟩ := grow before beforeMember tip present
    exact ⟨⟨next, (tipMember next).mpr nextMember, same⟩,
      fun other otherMember => later other ((tipMember other).mp otherMember)⟩

end Honest

abbrev Healthy (platform : Platform) (identity : GatewayIdentity) : System → Prop :=
  System.Keeps (Honest platform identity) ReplicaOk

namespace Healthy

variable {system : System}

theorem start (healthy : Healthy platform identity system) (writer : String) (batchSize : Nat)
    (tipRead : Bool) : Healthy platform identity (system.start writer batchSize tipRead) := by
  refine healthy.setReplica ?_
  rintro _ ⟨rfl⟩
  refine ⟨?_, trivial⟩
  unfold startChain
  split
  · rename_i seq hash found
    have read : system.store.writerTip writer = some (seq, hash) := by
      cases tipRead <;> simp_all
    obtain ⟨entry, member, rfl, rfl⟩ := AuditStore.writerTip_eq_some read
    exact Positioned.resume (healthy.store.whole writer) member
  · exact Positioned.start _ _

theorem commitReady (healthy : Healthy platform identity system) {nextSeq : UInt64}
    {prevHash : String}
    (position : Positioned checkpointPlace system.store.allCheckpoints nextSeq prevHash) :
    CommitReady system.store nextSeq prevHash system.store.allWriterTips := by
  obtain ⟨tipsOk, grow⟩ := healthy.store.tips
  obtain ⟨count, le, number, link⟩ := position
  exact ⟨tipsOk, count, le, number, link,
    fun checkpoint member => grow checkpoint (List.mem_of_mem_take member)⟩

theorem log (lawful : platform.Lawful) (healthy : Healthy platform identity system)
    {writer : String} {request : LogRequest} {signs inserts : Bool}
    (succeeds : Succeeds platform identity system (.log writer request signs inserts)) :
    Healthy platform identity
      (system.log platform identity writer request signs inserts) := by
  obtain ⟨rfl, rfl, inserted⟩ := succeeds
  unfold System.log
  split
  · rename_i chain running
    obtain ⟨next, appended⟩ := Option.isSome_iff_exists.mp (inserted chain running)
    have position := (healthy.replicas writer _ running).chain
    obtain ⟨honest, advanced⟩ := healthy.store.append lawful request position appended
    simp only [if_true, appended, Option.getD_some]
    refine (healthy.grow ReplicaOk.mono honest
      (AuditStore.appendEntry_extends appended)).setReplica ?_
    rintro _ ⟨rfl⟩
    exact ⟨advanced, trivial⟩
  · exact healthy

theorem checkpoint (lawful : platform.Lawful) (healthy : Healthy platform identity system)
    (writer : String) (timestamp : DateTime) :
    Healthy platform identity (system.checkpoint platform identity writer timestamp true) := by
  unfold System.checkpoint
  split
  · cases committed : system.store.commitCheckpoint
      (signedCheckpoint platform identity true timestamp) with
    | none => exact healthy
    | some next =>
      obtain ⟨-, inserted⟩ := AuditStore.commitCheckpoint_eq_some committed
      have honest := healthy.store.commit lawful timestamp
        (healthy.commitReady healthy.store.sound.nextCheckpoint) inserted
      exact healthy.grow ReplicaOk.mono honest (AuditStore.insertCheckpoint_extends inserted)
  · exact healthy

theorem readLatest (healthy : Healthy platform identity system) (writer : String) :
    Healthy platform identity (system.readLatest writer) := by
  unfold System.readLatest
  split
  · rename_i chain running
    refine healthy.setReplica ?_
    rintro _ ⟨rfl⟩
    exact ⟨(healthy.replicas writer _ running).chain, healthy.store.sound.nextCheckpoint⟩
  · exact healthy

theorem readTips (healthy : Healthy platform identity system) (writer : String) :
    Healthy platform identity (system.readTips writer) := by
  unfold System.readTips
  split
  · rename_i chain nextSeq prevHash running
    have ok := healthy.replicas writer _ running
    refine healthy.setReplica ?_
    rintro _ ⟨rfl⟩
    refine ⟨ok.chain, ?_⟩
    split_ifs
    · trivial
    · exact healthy.commitReady ok.pending
  · exact healthy

theorem insertCheckpoint (lawful : platform.Lawful) (healthy : Healthy platform identity system)
    (writer : String) (timestamp : DateTime) : Healthy platform identity
      (system.insertCheckpoint platform identity writer timestamp true) := by
  unfold System.insertCheckpoint
  split
  · rename_i chain nextSeq prevHash tips running
    have ok := healthy.replicas writer _ running
    cases inserted : system.store.insertCheckpoint
      (signedCheckpoint platform identity true timestamp nextSeq prevHash tips) with
    | none =>
      -- a lost race leaves the store as it is
      simp only [inserted, Option.getD_none]
      refine healthy.setReplica ?_
      rintro _ ⟨rfl⟩
      exact ⟨ok.chain, trivial⟩
    | some next =>
      have grows := AuditStore.insertCheckpoint_extends inserted
      simp only [inserted, Option.getD_some]
      refine (healthy.grow ReplicaOk.mono
        (healthy.store.commit lawful timestamp ok.pending inserted) grows).setReplica ?_
      rintro _ ⟨rfl⟩
      exact ⟨(ok.mono grows).chain, trivial⟩
  · exact healthy

theorem next (lawful : platform.Lawful) (event : Event)
    (succeeds : Succeeds platform identity system event)
    (healthy : Healthy platform identity system) :
    Healthy platform identity (step platform identity system event) := by
  cases event with
  | start writer batchSize tipRead => exact healthy.start writer batchSize tipRead
  | stop writer => exact healthy.setReplica (by simp)
  | log writer request signs inserts => exact healthy.log lawful succeeds
  | checkpoint writer timestamp signs =>
    obtain rfl : signs = true := succeeds
    exact healthy.checkpoint lawful writer timestamp
  | readLatest writer => exact healthy.readLatest writer
  | readTips writer => exact healthy.readTips writer
  | insertCheckpoint writer timestamp signs =>
    obtain rfl : signs = true := succeeds
    exact healthy.insertCheckpoint lawful writer timestamp

end Healthy

theorem HonestRun.healthy (lawful : platform.Lawful) {events : List Event} {final : System}
    (run : HonestRun platform identity events final) : Healthy platform identity final :=
  run.invariant (fun _ event succeeds healthy => healthy.next lawful event succeeds)
    (.initial .empty)

/-- Honest logs always verify: in every reachable store the verifier accepts all
that is stored, the checkpoint numbers are `0..n-1`, and no writer's committed
tip goes back from one checkpoint to the next. -/
theorem honestRun_verifies (lawful : platform.Lawful) {events : List Event} {final : System}
    (run : HonestRun platform identity events final) :
    (verifySharded platform (identity.publicKeyBytes platform) final.store.allEntries
        final.store.listCheckpoints).valid = true ∧
      final.store.allCheckpoints.map (fun checkpoint => checkpoint.checkpointSeq.toNat) =
        List.range final.store.allCheckpoints.length ∧
      final.store.allCheckpoints.IsChain fun before after => TipsGrow before.tips after.tips := by
  have honest := (run.healthy lawful).store
  refine ⟨honest.sound.valid, ?_, honest.growing.isChain⟩
  apply List.ext_getElem
  · simp
  · intro index below _
    rw [List.length_map] at below
    rw [List.getElem_map, List.getElem_range]
    exact honest.sound.checkpoints.order_getElem index below

def raceEvents : List Event :=
  [.start "gw-0" 4 true, .start "gw-1" 4 true,
    .log "gw-0" ⟨"a", ⟨1⟩, "s", .logout "root"⟩ true true,
    .readLatest "gw-0", .readLatest "gw-1", .readTips "gw-0", .readTips "gw-1",
    .insertCheckpoint "gw-0" ⟨2⟩ true, .insertCheckpoint "gw-1" ⟨3⟩ true,
    .stop "gw-0", .start "gw-0" 4 true]

def raceFinal : System := raceEvents.foldl (step samplePlatform sampleIdentity) .initial

theorem raceRun : HonestRun samplePlatform sampleIdentity raceEvents raceFinal := by
  refine .cons ⟨rfl, rfl⟩ (.cons ⟨rfl, rfl⟩ (.cons (succeeds_log rfl ?_ _) ?_))
  · exact List.not_mem_nil
  · exact .cons trivial <| .cons trivial <| .cons trivial <| .cons trivial <| .cons rfl <|
      .cons rfl <| .cons trivial <| .cons ⟨rfl, rfl⟩ <| .nil _

theorem honestRun_verifies_race :
    (verifySharded samplePlatform (sampleIdentity.publicKeyBytes samplePlatform)
        raceFinal.store.allEntries raceFinal.store.listCheckpoints).valid = true ∧
      raceFinal.store.allCheckpoints.map (fun checkpoint => checkpoint.checkpointSeq.toNat) =
        List.range raceFinal.store.allCheckpoints.length ∧
      raceFinal.store.allCheckpoints.IsChain
        fun before after => TipsGrow before.tips after.tips :=
  honestRun_verifies samplePlatform_lawful raceRun

open Lib.Encoding

def AuditEntry.withRoot (entry : AuditEntry) (root : Option String) : AuditEntry :=
  { entry with merkleRoot := root }

variable {platform : Platform} {identity : GatewayIdentity} {publicKeyBytes : Bytes}
  (roots : AuditEntry → Option String)

theorem verifyWriter_withRoot (state : VerificationResult × TipIndex)
    (group : String × List AuditEntry) : verifyWriter platform publicKeyBytes state
        (Prod.map id (List.map fun entry => entry.withRoot (roots entry)) group) =
      verifyWriter platform publicKeyBytes state group := by
  have sorted : sortOn entryPlace.order (group.2.map fun entry => entry.withRoot (roots entry)) =
      (sortOn entryPlace.order group.2).map fun entry => entry.withRoot (roots entry) := by
    apply sortOn_map
    exact fun _ => rfl
  simp only [verifyWriter, Prod.map, id, sorted, List.foldl_map]
  -- no check of one entry looks at its root
  rfl

theorem verifySharded_map_withRoot (entries : List AuditEntry)
    (checkpoints : List AuditCheckpoint) : verifySharded platform publicKeyBytes
        (entries.map fun entry => entry.withRoot (roots entry)) checkpoints =
      verifySharded platform publicKeyBytes entries checkpoints := by
  have grouped : groupOn AuditEntry.writerId
      (entries.map fun entry => entry.withRoot (roots entry)) =
        (groupOn AuditEntry.writerId entries).map
          (Prod.map id (List.map fun entry => entry.withRoot (roots entry))) := by
    apply groupOn_map
    exact fun _ => rfl
  simp only [verifySharded, grouped, List.foldl_map, verifyWriter_withRoot]

/-- Roots of an honest log may be replaced, removed or added: the result stays
as it was, and the log valid. -/
theorem honestRun_withRoot_unnoticed (lawful : platform.Lawful) {events : List Event}
    {final : System} (run : HonestRun platform identity events final) :
    verifySharded platform (identity.publicKeyBytes platform)
          (final.store.allEntries.map fun entry => entry.withRoot (roots entry))
          final.store.listCheckpoints =
        verifySharded platform (identity.publicKeyBytes platform) final.store.allEntries
          final.store.listCheckpoints ∧
      (verifySharded platform (identity.publicKeyBytes platform)
        (final.store.allEntries.map fun entry => entry.withRoot (roots entry))
        final.store.listCheckpoints).valid = true := by
  have unchanged := @verifySharded_map_withRoot platform (identity.publicKeyBytes platform) roots
    final.store.allEntries final.store.listCheckpoints
  refine ⟨unchanged, ?_⟩
  rw [unchanged]
  exact (run.healthy lawful).store.sound.valid

def batchEvents : List Event :=
  [.start "gw-0" 1 true, .log "gw-0" ⟨"a", ⟨1⟩, "s", .logout "root"⟩ true true]

def batchFinal : System := batchEvents.foldl (step samplePlatform sampleIdentity) .initial

theorem batchRun : HonestRun samplePlatform sampleIdentity batchEvents batchFinal :=
  .cons ⟨rfl, rfl⟩ (.cons (succeeds_log rfl List.not_mem_nil _) (.nil _))

theorem honestRun_withRoot_unnoticed_batch :
    verifySharded samplePlatform (sampleIdentity.publicKeyBytes samplePlatform)
          (batchFinal.store.allEntries.map fun entry => entry.withRoot (some "forged"))
          batchFinal.store.listCheckpoints =
        verifySharded samplePlatform (sampleIdentity.publicKeyBytes samplePlatform)
          batchFinal.store.allEntries batchFinal.store.listCheckpoints ∧
      (verifySharded samplePlatform (sampleIdentity.publicKeyBytes samplePlatform)
        (batchFinal.store.allEntries.map fun entry => entry.withRoot (some "forged"))
        batchFinal.store.listCheckpoints).valid = true :=
  honestRun_withRoot_unnoticed (fun _ => some "forged") samplePlatform_lawful batchRun

theorem batch_roots_removed_valid :
    HonestRun samplePlatform sampleIdentity batchEvents batchFinal ∧
      batchFinal.store.allEntries.map (fun entry => entry.merkleRoot.isSome) = [true] ∧
      (verifySharded samplePlatform (sampleIdentity.publicKeyBytes samplePlatform)
        (batchFinal.store.allEntries.map fun entry => entry.withRoot none)
        batchFinal.store.listCheckpoints).valid = true := by
  refine ⟨batchRun, rfl, ?_⟩
  rw [verifySharded_map_withRoot fun _ => none]
  exact (batchRun.healthy samplePlatform_lawful).store.sound.valid

end QuantaWatch.Audit
