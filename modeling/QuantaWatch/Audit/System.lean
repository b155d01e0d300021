import QuantaWatch.Audit.VerifierSpec
import QuantaWatch.Lib.Transition
import QuantaWatch.Store.Audit

/-!
What one replica's audit logger writes (`qw-audit/src/chain.rs`, `qw-audit/src/logger.rs`), and
any number of gateway replicas logging into one store
(`AuditLogger::writer_task` over `impl AuditBackend for Store`).
-/

namespace QuantaWatch.Audit

open Lib.Encoding Crypto

structure AuditChain where
  lastHash : String
  sequence : UInt64
  batchBuffer : List Digest
  batchSize : Nat

namespace AuditChain

def new (batchSize : Nat) : AuditChain := ⟨"", 0, [], batchSize⟩

def resume (lastHash : String) (sequence : UInt64) (batchSize : Nat) : AuditChain :=
  ⟨lastHash, sequence, [], batchSize⟩

def advance (platform : Platform) (chain : AuditChain) (contentHash : String) :
    AuditChain × Option String :=
  let batch := chain.batchBuffer ++ [platform.sha3_256 (utf8 contentHash)]
  let next := { chain with lastHash := contentHash, sequence := chain.sequence + 1 }
  if chain.batchSize ≤ batch.length then
    ({ next with batchBuffer := [] },
      some (hexEncode (MerkleTree.computeRoot platform batch).bytes))
  else ({ next with batchBuffer := batch }, none)

@[simp] theorem advance_lastHash (platform : Platform) (chain : AuditChain) (contentHash : String) :
    (chain.advance platform contentHash).1.lastHash = contentHash := by
  simp only [advance]
  split <;> rfl

@[simp] theorem advance_sequence (platform : Platform) (chain : AuditChain) (contentHash : String) :
    (chain.advance platform contentHash).1.sequence = chain.sequence + 1 := by
  simp only [advance]
  split <;> rfl

end AuditChain

/-- A `Log` command, with the random id and the clock it will draw. -/
structure LogRequest where
  id : String
  timestamp : DateTime
  sessionId : String
  event : AuditEvent

section

variable (platform : Platform) (identity : GatewayIdentity)

def signatureOf (contentHash : String) : String :=
  platform.base64Encode (identity.sign platform (utf8 contentHash))

def signedEntry (writer : String) (chain : AuditChain) (request : LogRequest) : AuditEntry :=
  let entry := AuditEntry.new request.id request.timestamp writer chain.sequence
    request.sessionId request.event chain.lastHash
  let contentHash := sha3_256Hex platform (entry.contentBytes platform)
  { entry with contentHash, signature := signatureOf platform identity contentHash }

def loggedEntry (writer : String) (chain : AuditChain) (request : LogRequest) :
    AuditEntry × AuditChain :=
  let entry := signedEntry platform identity writer chain request
  let advanced := chain.advance platform entry.contentHash
  ({ entry with merkleRoot := advanced.2 }, advanced.1)

def signedCheckpoint (signs : Bool) (timestamp : DateTime) (checkpointSeq : UInt64)
    (prevCheckpointHash : String) (tips : List WriterTip) : AuditCheckpoint :=
  let checkpoint := AuditCheckpoint.build platform checkpointSeq prevCheckpointHash tips timestamp
  if signs then
    { checkpoint with signature := signatureOf platform identity checkpoint.contentHash }
  else checkpoint

end

variable {platform : Platform} {identity : GatewayIdentity}

theorem decodeAndVerify_signatureOf (lawful : platform.Lawful) (contentHash : String) :
    decodeAndVerify platform (identity.publicKeyBytes platform) contentHash
      (signatureOf platform identity contentHash) = .ok true := by
  simp [decodeAndVerify, signatureOf, lawful.base64, verify_sign lawful]

@[simp] theorem loggedEntry_writerId (writer : String) (chain : AuditChain) (request : LogRequest) :
    (loggedEntry platform identity writer chain request).1.writerId = writer := rfl

@[simp] theorem loggedEntry_sequence (writer : String) (chain : AuditChain) (request : LogRequest) :
    (loggedEntry platform identity writer chain request).1.sequence = chain.sequence := rfl

theorem loggedEntry_ok (lawful : platform.Lawful) (writer : String) (chain : AuditChain)
    (request : LogRequest) : EntryOk platform (identity.publicKeyBytes platform)
      (loggedEntry platform identity writer chain request).1 :=
  ⟨rfl, decodeAndVerify_signatureOf lawful _⟩

theorem signedCheckpoint_ok (lawful : platform.Lawful) (timestamp : DateTime)
    (checkpointSeq : UInt64) (prevCheckpointHash : String) (tips : List WriterTip) :
    CheckpointOk platform (identity.publicKeyBytes platform)
      (signedCheckpoint platform identity true timestamp checkpointSeq prevCheckpointHash tips) :=
  ⟨rfl, rfl, decodeAndVerify_signatureOf lawful _⟩

open Lib.Transition Store

inductive Pending where
  | idle
  | latestRead (nextSeq : UInt64) (prevHash : String)
  | tipsRead (nextSeq : UInt64) (prevHash : String) (tips : List WriterTip)

structure Replica where
  chain : AuditChain
  pending : Pending

structure System where
  store : AuditStore
  replicas : String → Option Replica

namespace System

def initial : System := ⟨.empty, fun _ => none⟩

def setReplica (system : System) (writer : String) (replica : Option Replica) : System :=
  { system with replicas := Function.update system.replicas writer replica }

end System

inductive Event where
  | start (writer : String) (batchSize : Nat) (tipRead : Bool)
  | stop (writer : String)
  | log (writer : String) (request : LogRequest) (signs inserts : Bool)
  | checkpoint (writer : String) (timestamp : DateTime) (signs : Bool)
  | readLatest (writer : String)
  | readTips (writer : String)
  | insertCheckpoint (writer : String) (timestamp : DateTime) (signs : Bool)

def startChain (store : AuditStore) (writer : String) (batchSize : Nat) (tipRead : Bool) :
    AuditChain :=
  match if tipRead then store.writerTip writer else none with
  | some (seq, hash) => AuditChain.resume hash (seq + 1) batchSize
  | none => AuditChain.new batchSize

section

variable (platform : Platform) (identity : GatewayIdentity)

namespace System

variable (system : System) (writer : String)

def start (batchSize : Nat) (tipRead : Bool) : System :=
  system.setReplica writer (some ⟨startChain system.store writer batchSize tipRead, .idle⟩)

/-- A `Log` command. -/
def log (request : LogRequest) (signs inserts : Bool) : System :=
  match system.replicas writer with
  | some ⟨chain, .idle⟩ =>
    if signs then
      let logged := loggedEntry platform identity writer chain request
      -- the chain has advanced before the insert, whose error is only logged
      let store :=
        if inserts then (system.store.appendEntry logged.1).getD system.store
        else system.store
      { system with store }.setReplica writer (some ⟨logged.2, .idle⟩)
    else system
  | _ => system

/-- A `Checkpoint` command on SQLite. -/
def checkpoint (timestamp : DateTime) (signs : Bool) : System :=
  match system.replicas writer with
  | some ⟨_, .idle⟩ =>
    { system with
      store := (system.store.commitCheckpoint
        (signedCheckpoint platform identity signs timestamp)).getD system.store }
  | _ => system

/-- A `Checkpoint` command on Postgres reads the latest checkpoint. -/
def readLatest : System :=
  match system.replicas writer with
  | some ⟨chain, .idle⟩ =>
    let next := system.store.nextCheckpoint
    system.setReplica writer (some ⟨chain, .latestRead next.1 next.2⟩)
  | _ => system

def readTips : System :=
  match system.replicas writer with
  | some ⟨chain, .latestRead nextSeq prevHash⟩ =>
    let tips := system.store.allWriterTips
    let pending := if tips = [] then .idle else .tipsRead nextSeq prevHash tips
    system.setReplica writer (some ⟨chain, pending⟩)
  | _ => system

def insertCheckpoint (timestamp : DateTime) (signs : Bool) : System :=
  match system.replicas writer with
  | some ⟨chain, .tipsRead nextSeq prevHash tips⟩ =>
    let checkpoint := signedCheckpoint platform identity signs timestamp nextSeq prevHash tips
    let store := (system.store.insertCheckpoint checkpoint).getD system.store
    { system with store }.setReplica writer (some ⟨chain, .idle⟩)
  | _ => system

end System

def step (system : System) : Event → System
  | .start writer batchSize tipRead => system.start writer batchSize tipRead
  | .stop writer => system.setReplica writer none
  | .log writer request signs inserts =>
    system.log platform identity writer request signs inserts
  | .checkpoint writer timestamp signs =>
    system.checkpoint platform identity writer timestamp signs
  | .readLatest writer => system.readLatest writer
  | .readTips writer => system.readTips writer
  | .insertCheckpoint writer timestamp signs =>
    system.insertCheckpoint platform identity writer timestamp signs

def Succeeds (system : System) : Event → Prop
  | .start writer _ tipRead => system.replicas writer = none ∧ tipRead = true
  | .log writer request signs inserts =>
    signs = true ∧ inserts = true ∧
      ∀ chain, system.replicas writer = some ⟨chain, .idle⟩ →
        (system.store.appendEntry
          (loggedEntry platform identity writer chain request).1).isSome = true
  | .checkpoint _ _ signs => signs = true
  | .insertCheckpoint _ _ signs => signs = true
  | _ => True

variable {platform identity} in
theorem succeeds_log {system : System} {writer : String} {number : UInt64}
    (running : (system.replicas writer).map (fun replica => replica.chain.sequence) = some number)
    (free : number ∉ (system.store.chainOf writer).map AuditEntry.sequence) (request : LogRequest) :
    Succeeds platform identity system (.log writer request true true) := by
  refine ⟨rfl, rfl, ?_⟩
  intro chain found
  rw [found] at running
  have isNext : chain.sequence = number := Option.some.inj running
  apply AuditStore.appendEntry_isSome
  rw [loggedEntry_writerId, loggedEntry_sequence, isNext]
  exact free

def HonestRun (events : List Event) (final : System) : Prop :=
  Run (step platform identity) (Succeeds platform identity) .initial events final

end

structure System.Keeps (StoreOk : AuditStore → Prop)
    (ReplicaOk : AuditStore → String → Replica → Prop) (system : System) : Prop where
  store : StoreOk system.store
  replicas : ∀ writer replica, system.replicas writer = some replica →
    ReplicaOk system.store writer replica

namespace System.Keeps

variable {StoreOk : AuditStore → Prop} {ReplicaOk : AuditStore → String → Replica → Prop}
  {system : System}

theorem initial (empty : StoreOk .empty) : System.initial.Keeps StoreOk ReplicaOk :=
  ⟨empty, fun _ _ running => by simp [System.initial] at running⟩

variable (keeps : system.Keeps StoreOk ReplicaOk)

include keeps

theorem grow (mono : ∀ {store later writer replica}, ReplicaOk store writer replica →
      store.Extends later → ReplicaOk later writer replica) {next : AuditStore}
    (ok : StoreOk next) (grows : system.store.Extends next) :
    System.Keeps StoreOk ReplicaOk { system with store := next } :=
  ⟨ok, fun other running found => mono (keeps.replicas other running found) grows⟩

theorem setReplica {writer : String} {replica : Option Replica}
    (ok : ∀ running, replica = some running → ReplicaOk system.store writer running) :
    (system.setReplica writer replica).Keeps StoreOk ReplicaOk := by
  refine ⟨keeps.store, ?_⟩
  intro other running found
  simp only [System.setReplica] at found
  by_cases same : other = writer
  · subst same
    rw [Function.update_self] at found
    exact ok running found
  · rw [Function.update_of_ne same] at found
    exact keeps.replicas other running found

end System.Keeps

end QuantaWatch.Audit
