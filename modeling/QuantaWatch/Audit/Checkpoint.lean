import QuantaWatch.Audit.Entry
import QuantaWatch.Lib.Collections

/-!
Global checkpoints over the writers' tips
(`qw-audit/src/checkpoint.rs`).
-/

namespace QuantaWatch.Audit

open Lib.Collections Lib.Encoding Lib.Json Crypto

structure WriterTip where
  writerId : String
  seq : UInt64
  contentHash : String
deriving DecidableEq

structure AuditCheckpoint where
  checkpointSeq : UInt64
  timestamp : DateTime
  tips : List WriterTip
  merkleRoot : String
  prevCheckpointHash : String
  contentHash : String
  signature : String
deriving DecidableEq

namespace WriterTip

def toValue (tip : WriterTip) : Value :=
  .object [("writer_id", .string tip.writerId), ("seq", natValue tip.seq),
    ("content_hash", .string tip.contentHash)]

def fromValue (value : Value) : Option WriterTip := do
  let f ← recordFields ["writer_id", "seq", "content_hash"] value
  some ⟨← f.read "writer_id" Value.asStr, ← f.read "seq" Value.asU64,
    ← f.read "content_hash" Value.asStr⟩

variable (tip : WriterTip)

theorem fromValue_toValue : fromValue tip.toValue = some tip := rfl

theorem finiteNumbers_toValue : tip.toValue.FiniteNumbers := by
  simp [toValue, Value.FiniteNumbers, Value.FiniteFields, natValue, Number.Finite]

theorem uniqueKeys_toValue : tip.toValue.UniqueKeys := by
  simp [toValue, Value.UniqueKeys, Value.UniqueKeysFields, natValue]

theorem readBack_toValue (floats : FloatText) (tip : WriterTip) :
    tip.toValue.readBack floats = tip.toValue := rfl

theorem toValue_injective : Function.Injective toValue := by
  intro left right equal
  have read := left.fromValue_toValue
  rw [equal, right.fromValue_toValue] at read
  exact (Option.some.inj read).symm

end WriterTip

namespace AuditCheckpoint

variable (platform : Platform)

def leaf (tip : WriterTip) : Digest :=
  platform.sha3_256
    (utf8 (tip.writerId ++ ":" ++ toString tip.seq.toNat ++ ":" ++ tip.contentHash))

def merkleRootOf (tips : List WriterTip) : String :=
  let leaves := (sortOn WriterTip.writerId tips).map (leaf platform)
  if leaves = [] then sha3_256Hex platform (utf8 "quantawatch-audit-empty-checkpoint")
  else hexEncode (MerkleTree.computeRoot platform leaves).bytes

def contentValue (checkpoint : AuditCheckpoint) : Value :=
  .object [("checkpoint_seq", natValue checkpoint.checkpointSeq),
    ("timestamp", .string (platform.toRfc3339 checkpoint.timestamp)),
    ("tips", .array (checkpoint.tips.map WriterTip.toValue)),
    ("merkle_root", .string checkpoint.merkleRoot),
    ("prev_checkpoint_hash", .string checkpoint.prevCheckpointHash)]

def contentBytes (checkpoint : AuditCheckpoint) : Bytes :=
  utf8Chars ((checkpoint.contentValue platform).print platform.floats)

def build (checkpointSeq : UInt64) (prevCheckpointHash : String) (tips : List WriterTip)
    (timestamp : DateTime) : AuditCheckpoint :=
  let tips := sortOn WriterTip.writerId tips
  let merkleRoot := merkleRootOf platform tips
  let checkpoint : AuditCheckpoint :=
    { checkpointSeq, timestamp, tips, merkleRoot, prevCheckpointHash
      contentHash := "", signature := "" }
  { checkpoint with contentHash := sha3_256Hex platform (checkpoint.contentBytes platform) }

def toValue (checkpoint : AuditCheckpoint) : Value :=
  .object [("checkpoint_seq", natValue checkpoint.checkpointSeq),
    ("timestamp", .string (platform.serializeTime checkpoint.timestamp)),
    ("tips", .array (checkpoint.tips.map WriterTip.toValue)),
    ("merkle_root", .string checkpoint.merkleRoot),
    ("prev_checkpoint_hash", .string checkpoint.prevCheckpointHash),
    ("content_hash", .string checkpoint.contentHash),
    ("signature", .string checkpoint.signature)]

def fieldNames : List String :=
  ["checkpoint_seq", "timestamp", "tips", "merkle_root", "prev_checkpoint_hash", "content_hash",
    "signature"]

def tipsFromValue (value : Value) : Option (List WriterTip) :=
  value.asArray.bind fun values => values.mapM WriterTip.fromValue

def fromValue (value : Value) : Option AuditCheckpoint := do
  let f ← recordFields fieldNames value
  let checkpointSeq ← f.read "checkpoint_seq" Value.asU64
  let timestamp ← f.read "timestamp" fun text => text.asStr.bind platform.deserializeTime
  let tips ← f.read "tips" tipsFromValue
  let merkleRoot ← f.read "merkle_root" Value.asStr
  let prevCheckpointHash ← f.read "prev_checkpoint_hash" Value.asStr
  let contentHash ← f.read "content_hash" Value.asStr
  let signature ← f.read "signature" Value.asStr
  some ⟨checkpointSeq, timestamp, tips, merkleRoot, prevCheckpointHash, contentHash, signature⟩

def unsealed (checkpoint : AuditCheckpoint) : AuditCheckpoint :=
  { checkpoint with contentHash := "", signature := "" }

variable {platform} (tips : List WriterTip)

theorem tipsFromValue_map : tipsFromValue (.array (tips.map WriterTip.toValue)) = some tips := by
  simp only [tipsFromValue, Value.asArray_array, Option.bind_some]
  induction tips with
  | nil => rfl
  | cons tip rest ih => simp [tip.fromValue_toValue, ih]

theorem fromValue_toValue (lawful : platform.LawfulText) (checkpoint : AuditCheckpoint) :
    fromValue platform (checkpoint.toValue platform) = some checkpoint := by
  obtain ⟨checkpointSeq, timestamp, tips, merkleRoot, prevHash, contentHash, signature⟩ :=
    checkpoint
  change ((platform.deserializeTime (platform.serializeTime timestamp)).bind fun timestamp =>
    (tipsFromValue (.array (tips.map WriterTip.toValue))).bind fun tips =>
    some (⟨checkpointSeq, timestamp, tips, merkleRoot, prevHash, contentHash, signature⟩ :
      AuditCheckpoint)) = _
  simp [lawful.time, tipsFromValue_map]

theorem finiteNumbers_tips : (Value.array (tips.map WriterTip.toValue)).FiniteNumbers := by
  simp only [Value.FiniteNumbers, Value.finiteElements_iff, List.mem_map]
  rintro value ⟨tip, -, rfl⟩
  exact tip.finiteNumbers_toValue

variable (floats : FloatText)

theorem readBack_tips (tips : List WriterTip) :
    (Value.array (tips.map WriterTip.toValue)).readBack floats =
      .array (tips.map WriterTip.toValue) := by
  simp [Value.readBack, Value.readBackElements_eq_map, WriterTip.readBack_toValue,
    Function.comp_def]

variable (checkpoint : AuditCheckpoint)

theorem finiteNumbers_toValue : (checkpoint.toValue platform).FiniteNumbers := by
  simp only [toValue, natValue, Value.FiniteNumbers, Value.FiniteFields, Number.Finite,
    true_and, and_true]
  exact finiteNumbers_tips checkpoint.tips

theorem uniqueKeys_toValue : (checkpoint.toValue platform).UniqueKeys := by
  simp [toValue, Value.UniqueKeys, Value.UniqueKeysFields, natValue,
    Value.uniqueKeysElements_iff, WriterTip.uniqueKeys_toValue]

theorem height_toValue_le : (checkpoint.toValue platform).height ≤ 3 := by
  have tips : Value.heightElements (checkpoint.tips.map WriterTip.toValue) ≤ 1 := by
    apply Value.heightElements_le_iff.mpr
    simp [WriterTip.toValue, Value.height, Value.heightFields, natValue]
  simp only [toValue, Value.height, Value.heightFields, natValue]
  omega

theorem readBack_toValue (checkpoint : AuditCheckpoint) :
    (checkpoint.toValue platform).readBack floats = checkpoint.toValue platform := by
  have tips := readBack_tips floats checkpoint.tips
  simp only [toValue, Value.readBack, Value.readBackFields, natValue, Number.readBack] at tips ⊢
  rw [tips]

theorem finiteNumbers_contentValue : (checkpoint.contentValue platform).FiniteNumbers := by
  simp only [contentValue, natValue, Value.FiniteNumbers, Value.FiniteFields, Number.Finite,
    true_and, and_true]
  exact finiteNumbers_tips checkpoint.tips

theorem readBack_contentValue (checkpoint : AuditCheckpoint) :
    (checkpoint.contentValue platform).readBack floats = checkpoint.contentValue platform := by
  have tips := readBack_tips floats checkpoint.tips
  simp only [contentValue, Value.readBack, Value.readBackFields, natValue, Number.readBack]
    at tips ⊢
  rw [tips]

theorem unsealed_eq_of_contentBytes_eq (lawful : platform.LawfulText) {left right : AuditCheckpoint}
    (equal : left.contentBytes platform = right.contentBytes platform) :
    left.unsealed = right.unsealed := by
  have values := print_injective lawful.floats left.finiteNumbers_contentValue
    right.finiteNumbers_contentValue (left.readBack_contentValue _) (right.readBack_contentValue _)
    (utf8Chars_injective equal)
  simp only [contentValue, natValue, Value.object.injEq, List.cons.injEq, Prod.mk.injEq,
    Value.string.injEq, Value.number.injEq, Number.posInt.injEq, Value.array.injEq, true_and,
    and_true] at values
  obtain ⟨number, time, tips, root, prev⟩ := values
  have sameTips := List.map_injective_iff.mpr WriterTip.toValue_injective tips
  simp [unsealed, number, lawful.rfc3339 time, sameTips, root, prev]

theorem contentBytes_ne_entry (entry : AuditEntry) :
    checkpoint.contentBytes platform ≠ entry.contentBytes platform := by
  intro equal
  have third := congrArg (fun text : List Char => text[2]?) (utf8Chars_injective equal)
  change some 'c' = some 'i' at third
  simp at third

end AuditCheckpoint

end QuantaWatch.Audit
