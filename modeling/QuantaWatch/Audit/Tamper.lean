import QuantaWatch.Audit.System
import QuantaWatch.Crypto.Sample

/-!
Tamper evidence of the audit log against an attacker who presents any
entries and any checkpoints.
-/

namespace QuantaWatch.Audit

open Lib.Encoding Lib.HashChain Crypto

structure SigningHistory (platform : Platform) (identity : GatewayIdentity) where
  logged : String → Set AuditEntry
  committed : Set AuditCheckpoint
  logged_built : ∀ writer, ∀ entry ∈ logged writer, ∃ chain request,
    entry = signedEntry platform identity writer chain request
  committed_built : ∀ checkpoint ∈ committed, ∃ timestamp number prevHash tips,
    checkpoint = signedCheckpoint platform identity true timestamp number prevHash tips

section

variable {platform : Platform} {identity : GatewayIdentity}

namespace SigningHistory

variable (history : SigningHistory platform identity) (entries : List AuditEntry)
  (checkpoints : List AuditCheckpoint)

def knownEntries : Set AuditEntry :=
  { entry | entry ∈ entries ∨ ∃ writer, entry ∈ history.logged writer }

def knownCheckpoints : Set AuditCheckpoint :=
  { checkpoint | checkpoint ∈ checkpoints ∨ checkpoint ∈ history.committed }

def hashedBytes : Set Bytes :=
  (fun entry => entry.contentBytes platform) '' history.knownEntries entries ∪
    (fun checkpoint => checkpoint.contentBytes platform) '' history.knownCheckpoints checkpoints

structure Secure : Prop where
  collisionFree : Set.InjOn platform.sha3_256 (history.hashedBytes entries checkpoints)
  entryEncoding : ∀ left ∈ history.knownEntries entries,
    ∀ right ∈ history.knownEntries entries,
      left.contentBytes platform = right.contentBytes platform → left.unsealed = right.unsealed
  checkpointEncoding : ∀ left ∈ history.knownCheckpoints checkpoints,
    ∀ right ∈ history.knownCheckpoints checkpoints,
      left.contentBytes platform = right.contentBytes platform → left.unsealed = right.unsealed
  unforgeable : ∀ contentHash signature,
    decodeAndVerify platform (identity.publicKeyBytes platform) contentHash signature = .ok true →
      (∃ writer, ∃ entry ∈ history.logged writer, entry.contentHash = contentHash) ∨
        ∃ checkpoint ∈ history.committed, checkpoint.contentHash = contentHash

structure Authentic : Prop where
  entriesSigned : ∀ entry ∈ entries, ∃ original ∈ history.logged entry.writerId,
    { entry with signature := original.signature, merkleRoot := original.merkleRoot } = original
  numbersDistinct : ∀ writer, (writerChain writer entries).Pairwise
    fun left right => left.sequence ≠ right.sequence
  numbersConsecutive : ∀ writer, Consecutive entryPlace (writerChain writer entries)
  hashLinked : ∀ writer, (writerChain writer entries).IsChain
    fun before after => after.prevHash = before.contentHash
  checkpointsSigned : ∀ checkpoint ∈ checkpoints, ∃ original ∈ history.committed,
    { checkpoint with signature := original.signature } = original
  checkpointsConsecutive : Consecutive checkpointPlace (checkpointChain checkpoints)
  checkpointsLinked : (checkpointChain checkpoints).IsChain
    fun before after => after.prevCheckpointHash = before.contentHash
  tipsPresent : ∀ checkpoint ∈ checkpoints, ∀ tip ∈ checkpoint.tips, TipPresent entries tip

variable {history entries checkpoints}

variable {writer : String} {entry : AuditEntry} {checkpoint : AuditCheckpoint}

private theorem logged_hash (member : entry ∈ history.logged writer) :
    sha3_256Hex platform (entry.contentBytes platform) = entry.contentHash := by
  obtain ⟨chain, request, rfl⟩ := history.logged_built writer entry member
  rfl

theorem logged_writer (member : entry ∈ history.logged writer) : entry.writerId = writer := by
  obtain ⟨chain, request, rfl⟩ := history.logged_built writer entry member
  rfl

private theorem committed_hash (member : checkpoint ∈ history.committed) :
    sha3_256Hex platform (checkpoint.contentBytes platform) = checkpoint.contentHash := by
  obtain ⟨timestamp, number, prevHash, tips, rfl⟩ := history.committed_built checkpoint member
  rfl

theorem Secure.of_lawfulText (lawful : platform.LawfulText)
    (reads : ∀ entry ∈ history.knownEntries entries,
      entry.event.ScoresReadBack platform.floats)
    (collisionFree : Set.InjOn platform.sha3_256 (history.hashedBytes entries checkpoints))
    (unforgeable : ∀ contentHash signature,
      decodeAndVerify platform (identity.publicKeyBytes platform) contentHash signature = .ok true →
        (∃ writer, ∃ entry ∈ history.logged writer, entry.contentHash = contentHash) ∨
          ∃ checkpoint ∈ history.committed, checkpoint.contentHash = contentHash) :
    history.Secure entries checkpoints where
  collisionFree := collisionFree
  entryEncoding left leftKnown right rightKnown equal :=
    AuditEntry.unsealed_eq_of_contentBytes_eq lawful (reads left leftKnown)
      (reads right rightKnown) equal
  checkpointEncoding _ _ _ _ equal := AuditCheckpoint.unsealed_eq_of_contentBytes_eq lawful equal
  unforgeable := unforgeable

variable (secure : history.Secure entries checkpoints)

include secure

theorem Secure.bytes_eq {left right : Bytes}
    (leftHashed : left ∈ history.hashedBytes entries checkpoints)
    (rightHashed : right ∈ history.hashedBytes entries checkpoints) {contentHash : String}
    (leftHash : sha3_256Hex platform left = contentHash)
    (rightHash : sha3_256Hex platform right = contentHash) : left = right :=
  secure.collisionFree leftHashed rightHashed
    (sha3_256_of_hex_eq platform (leftHash.trans rightHash.symm))

theorem Secure.entry_signed (presented : entry ∈ entries)
    (ok : EntryOk platform (identity.publicKeyBytes platform) entry) :
    ∃ original ∈ history.logged entry.writerId,
      { entry with signature := original.signature, merkleRoot := original.merkleRoot } =
        original := by
  obtain ⟨hash, verifies⟩ := ok
  have entryHashed : entry.contentBytes platform ∈ history.hashedBytes entries checkpoints :=
    Or.inl ⟨entry, Or.inl presented, rfl⟩
  rcases secure.unforgeable _ _ verifies with
    ⟨writer, original, member, same⟩ | ⟨checkpoint, member, same⟩
  · have originalHashed : original.contentBytes platform ∈
        history.hashedBytes entries checkpoints := Or.inl ⟨original, Or.inr ⟨writer, member⟩, rfl⟩
    have bytes := secure.bytes_eq entryHashed originalHashed hash ((logged_hash member).trans same)
    have content := secure.entryEncoding entry (Or.inl presented) original
      (Or.inr ⟨writer, member⟩) bytes
    have sameWriter : entry.writerId = original.writerId := by
      simpa [AuditEntry.unsealed] using congrArg AuditEntry.writerId content
    refine ⟨original, ?_, ?_⟩
    · rw [sameWriter, logged_writer member]
      exact member
    · cases entry
      cases original
      simp only [AuditEntry.unsealed, AuditEntry.mk.injEq] at content same ⊢
      simp [content, same]
  · -- the signed bytes of a checkpoint never are those of an entry
    have checkpointHashed : checkpoint.contentBytes platform ∈
        history.hashedBytes entries checkpoints := Or.inr ⟨checkpoint, Or.inr member, rfl⟩
    have bytes := secure.bytes_eq checkpointHashed entryHashed
      ((committed_hash member).trans same) hash
    exact absurd bytes (checkpoint.contentBytes_ne_entry entry)

theorem Secure.checkpoint_signed (presented : checkpoint ∈ checkpoints)
    (ok : CheckpointOk platform (identity.publicKeyBytes platform) checkpoint) :
    ∃ original ∈ history.committed,
      { checkpoint with signature := original.signature } = original := by
  obtain ⟨hash, -, verifies⟩ := ok
  have checkpointHashed : checkpoint.contentBytes platform ∈
      history.hashedBytes entries checkpoints := Or.inr ⟨checkpoint, Or.inl presented, rfl⟩
  rcases secure.unforgeable _ _ verifies with
    ⟨writer, entry, member, same⟩ | ⟨original, member, same⟩
  · have entryHashed : entry.contentBytes platform ∈ history.hashedBytes entries checkpoints :=
      Or.inl ⟨entry, Or.inr ⟨writer, member⟩, rfl⟩
    have bytes := secure.bytes_eq checkpointHashed entryHashed hash
      ((logged_hash member).trans same)
    exact absurd bytes (checkpoint.contentBytes_ne_entry entry)
  · have originalHashed : original.contentBytes platform ∈
        history.hashedBytes entries checkpoints := Or.inr ⟨original, Or.inr member, rfl⟩
    have bytes := secure.bytes_eq checkpointHashed originalHashed hash
      ((committed_hash member).trans same)
    have content := secure.checkpointEncoding checkpoint (Or.inl presented) original
      (Or.inr member) bytes
    refine ⟨original, member, ?_⟩
    cases checkpoint
    cases original
    simp only [AuditCheckpoint.unsealed, AuditCheckpoint.mk.injEq] at content same ⊢
    simp [content, same]

end SigningHistory

/-- Tamper evidence: whatever is presented, an accepted log is authentic. -/
theorem authentic_of_verifySharded_valid {history : SigningHistory platform identity}
    {entries : List AuditEntry} {checkpoints : List AuditCheckpoint}
    (secure : history.Secure entries checkpoints)
    (valid : (verifySharded platform (identity.publicKeyBytes platform) entries
      checkpoints).valid = true) :
    history.Authentic entries checkpoints := by
  have ok := verifySharded_valid_iff.mp valid
  have consecutive : ∀ writer, Consecutive entryPlace (writerChain writer entries) :=
    fun writer => consecutive_of_follows (ok.linked writer) (Lib.Collections.sortOn_sorted _ _)
  refine
    { entriesSigned := fun entry member => secure.entry_signed member (ok.entriesOk entry member)
      numbersDistinct := fun writer => (consecutive writer).increasing.imp ?_
      numbersConsecutive := consecutive
      hashLinked := fun writer => (ok.linked writer).imp fun _ _ follows => follows.2
      checkpointsSigned := fun checkpoint member =>
        secure.checkpoint_signed member (ok.checkpointsOk checkpoint member)
      checkpointsConsecutive :=
        consecutive_of_follows ok.checkpointsLinked (Lib.Collections.sortOn_sorted _ _)
      checkpointsLinked := ok.checkpointsLinked.imp fun _ _ follows => follows.2
      tipsPresent := ok.tipsPresent }
  intro left right less same
  exact absurd (congrArg UInt64.toNat same) (ne_of_lt less)

end

namespace TamperSample

open SigningHistory

def hashes : List String :=
  ["48125e924c16d63b000000000000000000000000000000000000000000000000",
    "8cff591c418458a0000000000000000000000000000000000000000000000000",
    "b68548219dc9fd40000000000000000000000000000000000000000000000000",
    "c3622c8c0517ce14000000000000000000000000000000000000000000000000"]

def platform : Platform :=
  { samplePlatform with
    verifyWithContext := fun _ message _ => message ∈ hashes.map utf8 }

@[irreducible] def entry : AuditEntry :=
  signedEntry platform sampleIdentity "gw-0" (AuditChain.new 4) ⟨"a", ⟨1⟩, "s", .logout "root"⟩

@[irreducible] def next : AuditEntry :=
  signedEntry platform sampleIdentity "gw-0"
    ((AuditChain.new 4).advance platform entry.contentHash).1 ⟨"b", ⟨2⟩, "s", .logout "root"⟩

def tip (number : UInt64) (entry : AuditEntry) : WriterTip := ⟨"gw-0", number, entry.contentHash⟩

@[irreducible] def checkpoint : AuditCheckpoint :=
  signedCheckpoint platform sampleIdentity true ⟨2⟩ 0 "" [tip 0 entry]

@[irreducible] def later : AuditCheckpoint :=
  signedCheckpoint platform sampleIdentity true ⟨3⟩ 1 checkpoint.contentHash [tip 1 next]

def history : SigningHistory platform sampleIdentity where
  logged writer := { original | writer = "gw-0" ∧ (original = entry ∨ original = next) }
  committed := {checkpoint, later}
  logged_built := by
    rintro writer original ⟨rfl, rfl | rfl⟩
    · exact ⟨_, _, by rw [entry]⟩
    · exact ⟨_, _, by rw [next]⟩
  committed_built := by
    rintro original (rfl | rfl)
    · exact ⟨_, _, _, _, by rw [checkpoint]⟩
    · exact ⟨_, _, _, _, by rw [later]⟩

private theorem accepted_hashes :
    [entry.contentHash, next.contentHash, checkpoint.contentHash, later.contentHash] = hashes := by
  decide +kernel

private theorem entry_logged : entry ∈ history.logged "gw-0" := ⟨rfl, Or.inl rfl⟩

private theorem next_logged : next ∈ history.logged "gw-0" := ⟨rfl, Or.inr rfl⟩

private theorem checkpoint_committed : checkpoint ∈ history.committed := Or.inl rfl

private theorem later_committed : later ∈ history.committed := Or.inr rfl

/-- The first entry with another Merkle root, which is not signed. -/
def presented : AuditEntry := { entry with merkleRoot := some "00" }

def contents : List Bytes :=
  [entry.contentBytes platform, next.contentBytes platform, checkpoint.contentBytes platform,
    later.contentBytes platform]

private theorem hash_contents : contents.map (sha3_256Hex platform) = hashes := by
  rw [← accepted_hashes, ← logged_hash entry_logged, ← logged_hash next_logged,
    ← committed_hash checkpoint_committed, ← committed_hash later_committed]
  rfl

theorem lawfulText : platform.LawfulText :=
  ⟨sampleFloats_lawful, parseTimeText_timeText, samplePlatform_lawfulText.rfc3339⟩

theorem known_entry {known : AuditEntry} (isKnown : known ∈ history.knownEntries [presented, next]) :
    known.contentBytes platform ∈ contents ∧ known.event.ScoresReadBack platform.floats := by
  have first : entry.event.ScoresReadBack platform.floats := by rw [entry]; trivial
  have second : next.event.ScoresReadBack platform.floats := by rw [next]; trivial
  rcases isKnown with member | ⟨writer, -, rfl | rfl⟩
  · rcases List.mem_pair.mp member with rfl | rfl
    · exact ⟨.head _, first⟩
    · exact ⟨.tail _ (.head _), second⟩
  · exact ⟨.head _, first⟩
  · exact ⟨.tail _ (.head _), second⟩

private theorem known_checkpoint {known : AuditCheckpoint}
    (isKnown : known ∈ history.knownCheckpoints [checkpoint, later]) :
    known.contentBytes platform ∈ contents := by
  have either : known = checkpoint ∨ known = later := isKnown.elim List.mem_pair.mp id
  rcases either with rfl | rfl
  · exact .tail _ (.tail _ (.head _))
  · exact .tail _ (.tail _ (.tail _ (.head _)))

private theorem secure : history.Secure [presented, next] [checkpoint, later] := by
  refine .of_lawfulText lawfulText (fun _ isKnown => (known_entry isKnown).2) ?_ ?_
  · have hashed : ∀ bytes ∈ history.hashedBytes [presented, next] [checkpoint, later],
        bytes ∈ contents := by
      rintro bytes (⟨known, isKnown, rfl⟩ | ⟨known, isKnown, rfl⟩)
      · exact (known_entry isKnown).1
      · exact known_checkpoint isKnown
    have distinct : (contents.map (sha3_256Hex platform)).Nodup := by
      rw [hash_contents]
      decide
    intro left isLeft right isRight same
    refine List.inj_on_of_nodup_map distinct (hashed left isLeft) (hashed right isRight) ?_
    rw [sha3_256Hex, same]
    rfl
  · intro contentHash signature verifies
    obtain ⟨decoded, -, accepts⟩ := accepts_of_decodeAndVerify verifies
    have accepted : contentHash ∈ hashes :=
      (List.mem_map_of_injective utf8_injective).mp (of_decide_eq_true accepts)
    rw [← accepted_hashes] at accepted
    simp only [List.mem_cons, List.not_mem_nil, or_false] at accepted
    rcases accepted with rfl | rfl | rfl | rfl
    · exact Or.inl ⟨_, entry, entry_logged, rfl⟩
    · exact Or.inl ⟨_, next, next_logged, rfl⟩
    · exact Or.inr ⟨checkpoint, checkpoint_committed, rfl⟩
    · exact Or.inr ⟨later, later_committed, rfl⟩

private theorem signature_ok {contentHash : String} (accepted : contentHash ∈
    [entry.contentHash, next.contentHash, checkpoint.contentHash, later.contentHash]) :
    decodeAndVerify platform (sampleIdentity.publicKeyBytes platform) contentHash
      (signatureOf platform sampleIdentity contentHash) = .ok true := by
  have decode : platform.base64Decode = latinDecode := rfl
  have encode : platform.base64Encode = latinEncode := rfl
  have decodes : platform.base64Decode (signatureOf platform sampleIdentity contentHash) =
      .ok (sampleIdentity.sign platform (utf8 contentHash)) := by
    rw [signatureOf, decode, encode, latinDecode_latinEncode]
  rw [accepted_hashes] at accepted
  have accepts : platform.verifyWithContext (sampleIdentity.publicKeyBytes platform)
      (utf8 contentHash) (sampleIdentity.sign platform (utf8 contentHash)) = true :=
    decide_eq_true (List.mem_map_of_mem accepted)
  simp only [decodeAndVerify, decodes, verify, accepts]
  rfl

private theorem logged_ok {known : AuditEntry} (isLogged : known ∈ history.logged "gw-0") :
    EntryOk platform (sampleIdentity.publicKeyBytes platform) known := by
  have signed : known.signature = signatureOf platform sampleIdentity known.contentHash := by
    obtain ⟨chain, request, rfl⟩ := history.logged_built _ _ isLogged
    rfl
  refine ⟨logged_hash isLogged, ?_⟩
  rw [signed]
  rcases isLogged.2 with rfl | rfl <;> exact signature_ok (by simp)

private theorem committed_ok {known : AuditCheckpoint} (isCommitted : known ∈ history.committed) :
    CheckpointOk platform (sampleIdentity.publicKeyBytes platform) known := by
  have signed : AuditCheckpoint.merkleRootOf platform known.tips = known.merkleRoot ∧
      known.signature = signatureOf platform sampleIdentity known.contentHash := by
    obtain ⟨_, _, _, _, rfl⟩ := history.committed_built _ isCommitted
    exact ⟨rfl, rfl⟩
  refine ⟨committed_hash isCommitted, signed.1, ?_⟩
  rw [signed.2]
  rcases isCommitted with rfl | rfl <;> exact signature_ok (by simp)

private theorem entry_fields : entry.writerId = "gw-0" ∧ entry.sequence = 0 ∧
    entry.prevHash = "" := by
  rw [entry]
  exact ⟨rfl, rfl, rfl⟩

private theorem next_fields : next.writerId = "gw-0" ∧ next.sequence = 1 ∧
    next.prevHash = entry.contentHash := by
  rw [next]
  exact ⟨rfl, rfl, rfl⟩

private theorem checkpoint_fields : checkpoint.checkpointSeq = 0 ∧
    checkpoint.tips = [tip 0 entry] := by
  rw [checkpoint]
  exact ⟨rfl, rfl⟩

private theorem later_fields : later.checkpointSeq = 1 ∧ later.tips = [tip 1 next] ∧
    later.prevCheckpointHash = checkpoint.contentHash := by
  rw [later]
  exact ⟨rfl, rfl, rfl⟩

private theorem writerChain_presented (writer : String) :
    writerChain writer [presented, next] = if "gw-0" = writer then [presented, next] else [] := by
  have isWriter : presented.writerId = "gw-0" := entry_fields.1
  have number : presented.sequence = 0 := entry_fields.2.1
  split_ifs with own <;>
    simp [writerChain, Lib.Collections.sortOn, isWriter, next_fields, own, Place.order,
      entryPlace, number]

theorem checkpointChain_committed : checkpointChain [checkpoint, later] = [checkpoint, later] := by
  refine List.Pairwise.insertionSort_eq ?_
  simp [Place.order, checkpointPlace, checkpoint_fields.1]

theorem logOk : LogOk platform (sampleIdentity.publicKeyBytes platform) [presented, next]
    [checkpoint, later] where
  entriesOk := by
    simp only [List.mem_pair, forall_eq_or_imp, forall_eq]
    refine ⟨?_, logged_ok next_logged⟩
    change EntryOk platform _ entry
    exact logged_ok entry_logged
  linked writer := by
    have number : next.sequence = entry.sequence + 1 := by
      rw [next_fields.2.1, entry_fields.2.1]
      rfl
    have follows : Follows entryPlace presented next := ⟨number, next_fields.2.2⟩
    rw [writerChain_presented]
    split_ifs <;> simp [follows]
  genesis writer := by
    rw [writerChain_presented]
    split_ifs <;> simp [GenesisOk]
    exact fun _ => entry_fields.2.2
  checkpointsOk := by
    simp only [List.mem_pair, forall_eq_or_imp, forall_eq]
    exact ⟨committed_ok checkpoint_committed, committed_ok later_committed⟩
  checkpointsLinked := by
    have number : later.checkpointSeq = checkpoint.checkpointSeq + 1 := by
      rw [later_fields.1, checkpoint_fields.1]
      rfl
    have follows : Follows checkpointPlace checkpoint later := ⟨number, later_fields.2.2⟩
    simp [checkpointChain_committed, follows]
  tipsPresent := by
    simp only [List.mem_pair, forall_eq_or_imp, forall_eq, checkpoint_fields.2, later_fields.2.1,
      List.mem_singleton]
    exact ⟨⟨presented, by simp, entry_fields.1, entry_fields.2.1, rfl⟩,
      next, by simp, next_fields.1, next_fields.2.1, rfl⟩

end TamperSample

theorem authentic_of_verifySharded_valid_sample :
    TamperSample.history.Authentic [TamperSample.presented, TamperSample.next]
      [TamperSample.checkpoint, TamperSample.later] :=
  authentic_of_verifySharded_valid TamperSample.secure
    (verifySharded_valid_iff.mpr TamperSample.logOk)

end QuantaWatch.Audit
