import QuantaWatch.Audit.Checkpoint
import QuantaWatch.Lib.HashChain

/-!
The offline verifier `verify_sharded`
(`qw-audit/src/verifier.rs`), with all its counters and error texts.
-/

namespace QuantaWatch.Audit

open Lib.Collections Lib.Encoding Lib.HashChain Crypto

structure VerificationResult where
  valid : Bool
  entriesChecked : Nat
  signaturesValid : Nat
  chainIntact : Bool
  merkleRootsValid : Nat
  errors : List String
  writersChecked : Nat
  checkpointsChecked : Nat
deriving DecidableEq

namespace VerificationResult

def start : VerificationResult where
  valid := true
  entriesChecked := 0
  signaturesValid := 0
  chainIntact := true
  merkleRootsValid := 0
  errors := []
  writersChecked := 0
  checkpointsChecked := 0

def fail (result : VerificationResult) (message : String) : VerificationResult :=
  { result with valid := false, errors := result.errors ++ [message] }

def breakChain (result : VerificationResult) (message : String) : VerificationResult :=
  { result with valid := false, chainIntact := false, errors := result.errors ++ [message] }

variable (result : VerificationResult)

@[simp] theorem fail_valid (message : String) : (result.fail message).valid = false := rfl

@[simp] theorem breakChain_valid (message : String) :
    (result.breakChain message).valid = false := rfl

end VerificationResult

def entryPlace : Place AuditEntry :=
  ⟨AuditEntry.sequence, AuditEntry.prevHash, AuditEntry.contentHash⟩

def checkpointPlace : Place AuditCheckpoint :=
  ⟨AuditCheckpoint.checkpointSeq, AuditCheckpoint.prevCheckpointHash, AuditCheckpoint.contentHash⟩

section

variable (platform : Platform) (publicKeyBytes : Bytes)

def decodeAndVerify (contentHash signature : String) : Except String Bool :=
  match platform.base64Decode signature with
  | .error message => .error ("invalid base64 signature: " ++ message)
  | .ok bytes =>
    match verify platform publicKeyBytes (utf8 contentHash) bytes with
    | .error message => .error ("verify error: " ++ message)
    | .ok accepted => .ok accepted

abbrev TipIndex := String × UInt64 → Option String

structure ChainPass where
  result : VerificationResult
  tipIndex : TipIndex
  prevHash : Option String
  prevSeq : Option UInt64

def checkEntryHash (writer : String) (entry : AuditEntry) (result : VerificationResult) :
    VerificationResult :=
  if sha3_256Hex platform (entry.contentBytes platform) ≠ entry.contentHash then
    result.breakChain ("writer " ++ writer ++ " entry " ++ toString entry.sequence.toNat ++
      ": content hash mismatch")
  else result

def checkSequence (writer : String) (prevSeq : Option UInt64) (entry : AuditEntry)
    (result : VerificationResult) : VerificationResult :=
  match prevSeq with
  | some before =>
    if entry.sequence ≠ before + 1 then
      result.breakChain ("writer " ++ writer ++ ": sequence gap " ++ toString before.toNat ++
        " -> " ++ toString entry.sequence.toNat ++ " (missing entries)")
    else result
  | none =>
    if entry.sequence = 0 ∧ entry.prevHash ≠ "" then
      result.breakChain ("writer " ++ writer ++ ": genesis prev_hash not empty")
    else result

def checkLinkage (writer : String) (prevHash : Option String) (entry : AuditEntry)
    (result : VerificationResult) : VerificationResult :=
  match prevHash with
  | some before =>
    if entry.prevHash ≠ before then
      result.breakChain ("writer " ++ writer ++ " entry " ++ toString entry.sequence.toNat ++
        ": chain broken (prev_hash mismatch)")
    else result
  | none => result

def checkEntrySignature (writer : String) (entry : AuditEntry) (result : VerificationResult) :
    VerificationResult :=
  let place := "writer " ++ writer ++ " entry " ++ toString entry.sequence.toNat
  match decodeAndVerify platform publicKeyBytes entry.contentHash entry.signature with
  | .ok true => { result with signaturesValid := result.signaturesValid + 1 }
  | .ok false => result.fail (place ++ ": signature invalid")
  | .error message => result.fail (place ++ ": " ++ message)

def verifyEntry (writer : String) (pass : ChainPass) (entry : AuditEntry) : ChainPass :=
  let counted := { pass.result with entriesChecked := pass.result.entriesChecked + 1 }
  { result :=
      checkEntrySignature platform publicKeyBytes writer entry
        (checkLinkage writer pass.prevHash entry
          (checkSequence writer pass.prevSeq entry
            (checkEntryHash platform writer entry counted)))
    tipIndex := Function.update pass.tipIndex (writer, entry.sequence) (some entry.contentHash)
    prevHash := some entry.contentHash
    prevSeq := some entry.sequence }

def verifyWriter (state : VerificationResult × TipIndex) (group : String × List AuditEntry) :
    VerificationResult × TipIndex :=
  let pass := (sortOn entryPlace.order group.2).foldl
    (verifyEntry platform publicKeyBytes group.1)
    { result := { state.1 with writersChecked := state.1.writersChecked + 1 }
      tipIndex := state.2
      prevHash := none
      prevSeq := none }
  (pass.result, pass.tipIndex)

structure CheckpointPass where
  result : VerificationResult
  prevHash : Option String
  prevSeq : Option UInt64

def checkpointName (checkpoint : AuditCheckpoint) : String :=
  "checkpoint " ++ toString checkpoint.checkpointSeq.toNat

def checkCheckpointHash (checkpoint : AuditCheckpoint) (result : VerificationResult) :
    VerificationResult :=
  if sha3_256Hex platform (checkpoint.contentBytes platform) ≠ checkpoint.contentHash then
    result.fail (checkpointName checkpoint ++ ": content hash mismatch")
  else result

def checkMerkleRoot (checkpoint : AuditCheckpoint) (result : VerificationResult) :
    VerificationResult :=
  if AuditCheckpoint.merkleRootOf platform checkpoint.tips = checkpoint.merkleRoot then
    { result with merkleRootsValid := result.merkleRootsValid + 1 }
  else result.fail (checkpointName checkpoint ++ ": Merkle root mismatch")

def checkCheckpointSequence (prevSeq : Option UInt64) (checkpoint : AuditCheckpoint)
    (result : VerificationResult) : VerificationResult :=
  match prevSeq with
  | some before =>
    if checkpoint.checkpointSeq ≠ before + 1 then
      result.fail ("checkpoint chain: sequence gap " ++ toString before.toNat ++ " -> " ++
        toString checkpoint.checkpointSeq.toNat)
    else result
  | none => result

def checkCheckpointLink (prevHash : Option String) (checkpoint : AuditCheckpoint)
    (result : VerificationResult) : VerificationResult :=
  match prevHash with
  | some before =>
    if checkpoint.prevCheckpointHash ≠ before then
      result.fail (checkpointName checkpoint ++ ": broken link to previous")
    else result
  | none => result

def checkCheckpointSignature (checkpoint : AuditCheckpoint) (result : VerificationResult) :
    VerificationResult :=
  match decodeAndVerify platform publicKeyBytes checkpoint.contentHash checkpoint.signature with
  | .ok true => result
  | .ok false => result.fail (checkpointName checkpoint ++ ": signature invalid")
  | .error message => result.fail (checkpointName checkpoint ++ ": " ++ message)

def checkTip (tipIndex : TipIndex) (checkpoint : AuditCheckpoint) (result : VerificationResult)
    (tip : WriterTip) : VerificationResult :=
  match tipIndex (tip.writerId, tip.seq) with
  | some hash =>
    if hash = tip.contentHash then result
    else
      result.breakChain (checkpointName checkpoint ++ ": writer " ++ tip.writerId ++ " entry " ++
        toString tip.seq.toNat ++ " was altered since it was committed")
  | none =>
    result.breakChain (checkpointName checkpoint ++ ": committed tip missing (writer " ++
      tip.writerId ++ " entry " ++ toString tip.seq.toNat ++ " dropped/truncated)")

def verifyCheckpoint (tipIndex : TipIndex) (pass : CheckpointPass) (checkpoint : AuditCheckpoint) :
    CheckpointPass :=
  let counted := { pass.result with checkpointsChecked := pass.result.checkpointsChecked + 1 }
  let signed :=
    checkCheckpointSignature platform publicKeyBytes checkpoint
      (checkCheckpointLink pass.prevHash checkpoint
        (checkCheckpointSequence pass.prevSeq checkpoint
          (checkMerkleRoot platform checkpoint
            (checkCheckpointHash platform checkpoint counted))))
  { result := checkpoint.tips.foldl (checkTip tipIndex checkpoint) signed
    prevHash := some checkpoint.contentHash
    prevSeq := some checkpoint.checkpointSeq }

def verifySharded (entries : List AuditEntry) (checkpoints : List AuditCheckpoint) :
    VerificationResult :=
  let chains := (groupOn AuditEntry.writerId entries).foldl (verifyWriter platform publicKeyBytes)
    (VerificationResult.start, fun _ => none)
  ((sortOn checkpointPlace.order checkpoints).foldl
    (verifyCheckpoint platform publicKeyBytes chains.2)
    { result := chains.1, prevHash := none, prevSeq := none }).result

end

end QuantaWatch.Audit
