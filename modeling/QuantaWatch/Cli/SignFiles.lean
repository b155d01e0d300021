import QuantaWatch.Crypto.Sample
import QuantaWatch.Lib.Hex
import QuantaWatch.Lib.Text
import QuantaWatch.Lib.Utf8

/-!
Signing files and checking them (`sign` and `verify-file` of `qw-cli/src/main.rs`,
with the default signature path).
-/

namespace QuantaWatch.Cli

open Crypto Lib Lib.Encoding Lib.Hex Lib.Json Lib.Text Lib.Utf8

structure FilePath where
  directory : String
  name : List Char
  regular : name ≠ [] ∧ name ≠ ['.', '.']
deriving DecidableEq

/-- `Path::file_stem`: a name whose only dot leads has no extension. -/
def fileStem (name : List Char) : List Char :=
  let before := ((name.reverse.dropWhile (· ≠ '.')).drop 1).reverse
  if before = [] then name else before

/-- `path.with_extension("sig")`: the extension is replaced. -/
def FilePath.withSig (path : FilePath) : FilePath where
  directory := path.directory
  name := fileStem path.name ++ ['.', 's', 'i', 'g']
  regular := by
    constructor <;> intro same <;> have size := congrArg List.length same <;> simp at size

abbrev Files := FilePath → Option Bytes

section Commands

variable (platform : Platform) (identity : GatewayIdentity)

def signatureText (bytes : Bytes) : Bytes :=
  utf8 (hexEncode (identity.sign platform (platform.sha3_256 bytes).bytes))

/-- `qw sign`: a file that cannot be read is an error, and nothing is written. -/
def signFile (files : Files) (path : FilePath) : Files :=
  match files path with
  | none => files
  | some bytes => Function.update files path.withSig (some (signatureText platform identity bytes))

def signFiles (files : Files) (paths : List FilePath) : Files :=
  paths.foldl (signFile platform identity) files

/-- `qw verify-file`, with the key that signed. -/
def verifyFile (files : Files) (path : FilePath) : Bool :=
  match files path.withSig, files path with
  | some text, some bytes =>
    match (fromUtf8 text).bind fun chars => hexDecode (trim (String.ofList chars)) with
    | none => false
    | some signature =>
      verify platform (identity.publicKeyBytes platform) (platform.sha3_256 bytes).bytes
        signature = .ok true
  | _, _ => false

end Commands

private theorem hexValue_of_isWhitespace {char : Char} (white : Text.isWhitespace char = true) :
    hexValue char = none := by
  have digits (low high : Char) (digit : low ≤ char ∧ char ≤ high) :
      low.toNat ≤ char.toNat ∧ char.toNat ≤ high.toNat := digit
  simp only [Text.isWhitespace, Bool.or_eq_true, Bool.and_eq_true, decide_eq_true_eq,
    beq_iff_eq] at white
  rw [hexValue, if_neg, if_neg, if_neg]
  all_goals
    intro digit
    have bounds := digits _ _ digit
    simp only [Char.reduceToNat] at bounds
    omega

private theorem trim_of_notMem {text : String}
    (dark : ∀ char ∈ text.toList, Text.isWhitespace char = false) : trim text = text := by
  have kept (chars : List Char) (dark : ∀ char ∈ chars, Text.isWhitespace char = false) :
      chars.dropWhile Text.isWhitespace = chars := by
    cases chars with
    | nil => rfl
    | cons char chars => rw [List.dropWhile_cons_of_neg (by simp [dark char])]
  rw [trim, kept _ dark, kept _ (by simpa using dark), List.reverse_reverse, String.ofList_toList]

private theorem trim_hexEncode (bytes : Bytes) : trim (hexEncode bytes) = hexEncode bytes := by
  apply trim_of_notMem
  intro char member
  by_contra white
  rw [Bool.not_eq_false] at white
  exact notMem_of_hexDecode (hexDecode_hexEncode bytes) (hexValue_of_isWhitespace white) member

section Runs

variable {platform : Platform} {identity : GatewayIdentity} {files : Files} {paths : List FilePath}

theorem verifyFile_iff {path : FilePath} {bytes signed : Bytes} (content : files path = some bytes)
    (signature : files path.withSig = some (signatureText platform identity signed)) :
    verifyFile platform identity files path = true ↔
      verify platform (identity.publicKeyBytes platform) (platform.sha3_256 bytes).bytes
        (identity.sign platform (platform.sha3_256 signed).bytes) = .ok true := by
  have reads : (fromUtf8 (signatureText platform identity signed)).bind
      (fun chars => hexDecode (trim (String.ofList chars))) =
        some (identity.sign platform (platform.sha3_256 signed).bytes) := by
    rw [signatureText, utf8, fromUtf8_utf8Chars, Option.bind_some, String.ofList_toList,
      trim_hexEncode, hexDecode_hexEncode]
  simp only [verifyFile, signature, content, reads, decide_eq_true_eq]

def lastWriter (paths : List FilePath) (target : FilePath) : Option FilePath :=
  paths.reverse.find? fun path => path.withSig = target

structure Signable (files : Files) (paths : List FilePath) : Prop where
  distinct : paths.Nodup
  present : ∀ path ∈ paths, (files path).isSome = true
  apart : ∀ left ∈ paths, ∀ right ∈ paths, left ≠ right → left.withSig ≠ right

private theorem signFiles_apply (signable : Signable files paths) (target : FilePath) :
    signFiles platform identity files paths target =
      match lastWriter paths target with
      | none => files target
      | some writer => (files writer).map (signatureText platform identity) := by
  induction paths using List.reverseRecOn generalizing target with
  | nil => rfl
  | append_singleton paths path ih =>
    obtain ⟨distinct, present, apart⟩ := signable
    obtain ⟨distinct, -, fresh⟩ := List.nodup_append.mp distinct
    have before := ih ⟨distinct, fun one member => present one (by simp [member]),
      fun left leftMember right rightMember =>
        apart left (by simp [leftMember]) right (by simp [rightMember])⟩
    -- Nobody has written the file before it is signed.
    have unwritten : lastWriter paths path = none := by
      rw [lastWriter, List.find?_eq_none]
      intro writer member
      have differ : writer ≠ path := fresh writer (by simpa using member) path (by simp)
      simpa using apart writer (by simp_all) path (by simp) differ
    have content : signFiles platform identity files paths path = files path := by
      rw [before, unwritten]
    obtain ⟨bytes, found⟩ := Option.isSome_iff_exists.mp (present path (by simp))
    rw [signFiles, List.foldl_append, List.foldl_cons, List.foldl_nil, ← signFiles, signFile,
      content, found]
    rw [lastWriter, List.reverse_append, List.reverse_singleton, List.singleton_append,
      List.find?_cons]
    by_cases same : path.withSig = target
    · subst same
      simp [found]
    · simp only [Function.update_of_ne (Ne.symm same), same, decide_false]
      exact before target

def AllVerified (platform : Platform) (identity : GatewayIdentity) (files : Files)
    (paths : List FilePath) : Prop :=
  ∀ path ∈ paths, verifyFile platform identity (signFiles platform identity files paths) path =
    true ∧ signFiles platform identity files paths path = files path

private theorem lastWriter_withSig {path : FilePath} (member : path ∈ paths) :
    ∃ writer ∈ paths, lastWriter paths path.withSig = some writer := by
  have found : (lastWriter paths path.withSig).isSome = true := by
    rw [lastWriter, List.find?_isSome]
    exact ⟨path, by simpa using member, by simp⟩
  obtain ⟨writer, last⟩ := Option.isSome_iff_exists.mp found
  exact ⟨writer, by simpa using List.mem_of_find?_eq_some last, last⟩

theorem signFiles_self (signable : Signable files paths) {path : FilePath} (member : path ∈ paths) :
    signFiles platform identity files paths path = files path ↔
      (path.withSig = path → (files path).map (signatureText platform identity) = files path) := by
  rw [signFiles_apply signable]
  by_cases own : path.withSig = path
  · obtain ⟨writer, writes, last⟩ := lastWriter_withSig member
    rw [own] at last
    have writesPath : writer.withSig = path := by simpa using List.find?_some last
    have same : writer = path := by
      by_contra differ
      exact signable.apart writer writes path member differ writesPath
    simp only [last, same, own, true_imp_iff]
  · have unwritten : lastWriter paths path = none := by
      rw [lastWriter, List.find?_eq_none]
      intro writer writes written
      by_cases same : writer = path
      · exact own (by simpa [same] using written)
      · exact signable.apart writer (by simpa using writes) path member same
          (by simpa using written)
    simp only [unwritten, own, false_imp_iff]

private theorem allVerified_iff_verify (signable : Signable files paths) :
    AllVerified platform identity files paths ↔
      ∀ path ∈ paths,
        (path.withSig = path → (files path).map (signatureText platform identity) = files path) ∧
        ∀ writer bytes signed, lastWriter paths path.withSig = some writer →
          files path = some bytes → files writer = some signed →
          verify platform (identity.publicKeyBytes platform) (platform.sha3_256 bytes).bytes
            (identity.sign platform (platform.sha3_256 signed).bytes) = .ok true := by
  refine forall₂_congr fun path member => ?_
  rw [and_comm, signFiles_self signable member]
  refine and_congr_right fun own => ?_
  have content := (@signFiles_self platform identity files paths signable path member).mpr own
  obtain ⟨writer, writes, last⟩ := lastWriter_withSig member
  obtain ⟨bytes, isBytes⟩ := Option.isSome_iff_exists.mp (signable.present path member)
  obtain ⟨signed, isSigned⟩ := Option.isSome_iff_exists.mp (signable.present writer writes)
  have signature : signFiles platform identity files paths path.withSig =
      some (signatureText platform identity signed) := by
    simp only [signFiles_apply signable, last, isSigned, Option.map_some]
  rw [verifyFile_iff (content.trans isBytes) signature]
  constructor
  · intro verified other bytes' signed' isLast isBytes' isSigned'
    obtain rfl := Option.some.inj (last.symm.trans isLast)
    obtain rfl := Option.some.inj (isBytes.symm.trans isBytes')
    obtain rfl := Option.some.inj (isSigned.symm.trans isSigned')
    exact verified
  · intro each
    exact each writer bytes signed last isBytes isSigned

/-- The signature of one of the files is good for the content it was made for and no other: the
scheme is not forged, and the hashes of the files do not collide. -/
def Binding (platform : Platform) (identity : GatewayIdentity) (files : Files)
    (paths : List FilePath) : Prop :=
  ∀ left ∈ paths, ∀ right ∈ paths, ∀ bytes ∈ files left, ∀ signed ∈ files right,
    verify platform (identity.publicKeyBytes platform) (platform.sha3_256 bytes).bytes
      (identity.sign platform (platform.sha3_256 signed).bytes) = .ok true → bytes = signed

/-- All is well exactly when no file is replaced by its own signature, and files with one
signature path have the same content. -/
theorem allVerified_iff (lawful : platform.Lawful) (binding : Binding platform identity files paths)
    (signable : Signable files paths) :
    AllVerified platform identity files paths ↔
      ∀ path ∈ paths,
        (path.withSig = path → (files path).map (signatureText platform identity) = files path) ∧
        ∀ other ∈ paths, other.withSig = path.withSig → files other = files path := by
  rw [allVerified_iff_verify signable]
  constructor
  · intro verified path member
    refine ⟨(verified path member).1, fun other otherMember shared => ?_⟩
    obtain ⟨writer, writes, last⟩ := lastWriter_withSig member
    -- both are verified by the signature of the one that was signed last
    have asWriter : ∀ one ∈ paths, one.withSig = path.withSig → files one = files writer := by
      intro one oneMember same
      obtain ⟨bytes, isBytes⟩ := Option.isSome_iff_exists.mp (signable.present one oneMember)
      obtain ⟨signed, isSigned⟩ := Option.isSome_iff_exists.mp (signable.present writer writes)
      have good := (verified one oneMember).2 writer bytes signed (same ▸ last) isBytes isSigned
      rw [isBytes, isSigned, binding one oneMember writer writes bytes isBytes signed isSigned good]
    rw [asWriter other otherMember shared, asWriter path member rfl]
  · intro condition path member
    refine ⟨(condition path member).1, fun writer bytes signed last isBytes isSigned => ?_⟩
    have writes : writer ∈ paths := by simpa using List.mem_of_find?_eq_some last
    have shared : writer.withSig = path.withSig := by simpa using List.find?_some last
    rw [(condition path member).2 writer writes shared, isBytes, Option.some_inj] at isSigned
    rw [isSigned]
    exact verify_sign lawful _ _

end Runs

def release (name : String) (regular : name.toList ≠ [] ∧ name.toList ≠ ['.', '.']) : FilePath :=
  ⟨"dist", name.toList, regular⟩

def sampleFiles : Files := fun path =>
  if path.name = "report.json".toList then some [1]
  else if path.name = "report.pdf".toList then some [2]
  else if path.name = "notes.txt".toList then some [3] else none

def json : FilePath := release "report.json" (by decide)

def pdf : FilePath := release "report.pdf" (by decide)

def notes : FilePath := release "notes.txt" (by decide)

theorem allVerified_two_stems : AllVerified samplePlatform ⟨[7]⟩ sampleFiles [json, notes] := by
  have binding : Binding samplePlatform ⟨[7]⟩ sampleFiles [json, notes] := by
    unfold Binding
    decide +kernel
  refine (allVerified_iff samplePlatform_lawful binding ⟨by decide, by decide, by decide⟩).mpr ?_
  decide +kernel

theorem second_signature_replaces_first :
    Signable sampleFiles [json, pdf] ∧
      ¬ AllVerified samplePlatform ⟨[7]⟩ sampleFiles [json, pdf] := by
  refine ⟨⟨by decide, by decide, by decide⟩, fun all => ?_⟩
  exact absurd (all json (by decide)).1 (by decide +kernel)

end QuantaWatch.Cli
