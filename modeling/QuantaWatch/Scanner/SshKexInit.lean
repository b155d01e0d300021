import QuantaWatch.Lib.Utf8

/-!
The first packet of an SSH server (`read_kexinit`, `read_u32` and `read_name_list` of
`scanners/ssh.rs`, RFC 4253). Where a function returns an option, none stands for a panic.
-/

namespace QuantaWatch.Scanner

open Lib.Encoding Lib.Utf8

inductive ScannerError where
  | connectionFailed (text : String)
  | parseError (text : String)
deriving DecidableEq

structure KexInit where
  kex : List String
  hostKey : List String
  ciphers : List String
  macs : List String
deriving DecidableEq

def maxPacket : Nat := 128 * 1024

def msgKexInit : UInt8 := 20

/-- `u32::from_be_bytes` -/
def fromBeBytes (a b c d : UInt8) : Nat :=
  ((a.toNat * 256 + b.toNat) * 256 + c.toNat) * 256 + d.toNat

/-- `&buf[start..stop]` -/
def slice (buf : Bytes) (start stop : Nat) : Option Bytes :=
  if start ≤ stop ∧ stop ≤ buf.length then some ((buf.take stop).drop start) else none

def readU32 (buf : Bytes) (pos : Nat) : Option (Except ScannerError (Nat × Nat)) :=
  if buf.length < pos + 4 then some (.error (.parseError "truncated name-list length"))
  else
    match buf[pos]?, buf[pos + 1]?, buf[pos + 2]?, buf[pos + 3]? with
    | some a, some b, some c, some d => some (.ok (fromBeBytes a b c d, pos + 4))
    | _, _, _, _ => none

def splitNames (text : List Char) : List String :=
  ((text.splitOn ',').filter (· ≠ [])).map String.ofList

def readNameList (buf : Bytes) (pos : Nat) : Option (Except ScannerError (List String × Nat)) := do
  match ← readU32 buf pos with
  | .error error => some (.error error)
  | .ok (len, pos) =>
    if buf.length < pos + len then some (.error (.parseError "truncated name-list"))
    else
      match fromUtf8 (← slice buf pos (pos + len)) with
      | none => some (.error (.parseError "non-utf8 name-list"))
      | some text => some (.ok (splitNames text, pos + len))

def readNameLists (buf : Bytes) : Nat → Nat → Option (Except ScannerError (List (List String)))
  | 0, _ => some (.ok [])
  | count + 1, pos => do
    match ← readNameList buf pos with
    | .error error => some (.error error)
    | .ok (names, pos) =>
      match ← readNameLists buf count pos with
      | .error error => some (.error error)
      | .ok lists => some (.ok (names :: lists))

def parsePayload (payload : Bytes) : Option (Except ScannerError KexInit) := do
  match ← readNameLists payload 5 17 with
  | .error error => some (.error error)
  | .ok [kex, hostKey, ciphers, _, macs] => some (.ok ⟨kex, hostKey, ciphers, macs⟩)
  | .ok _ => none

def parsePacket (packet : Bytes) : Option (Except ScannerError KexInit) := do
  let padding := (← packet[0]?).toNat
  if packet.length < padding + 1 then some (.error (.parseError "bad padding length"))
  else
    let payload ← slice packet 1 (packet.length - padding)
    if payload.head? ≠ some msgKexInit then
      some (.error (.parseError "first packet was not KEXINIT"))
    else parsePayload payload

/-- `read_kexinit` on what the peer sends before it closes, with the number of bytes read. -/
def readKexInit (stream : Bytes) : Option (Except ScannerError KexInit) × Nat :=
  match stream with
  | a :: b :: c :: d :: rest =>
    let length := fromBeBytes a b c d
    if length < 2 ∨ maxPacket < length then
      (some (.error (.parseError ("implausible packet length " ++ toString length))), 4)
    else if rest.length < length then
      (some (.error (.connectionFailed "early eof")), 4 + rest.length)
    else (parsePacket (rest.take length), 4 + length)
  | short => (some (.error (.connectionFailed "early eof")), short.length)

variable (buf : Bytes)

theorem isSome_readU32 (pos : Nat) : (readU32 buf pos).isSome = true := by
  unfold readU32
  split_ifs with short
  · rfl
  · rw [List.getElem?_eq_getElem (by omega), List.getElem?_eq_getElem (by omega),
      List.getElem?_eq_getElem (by omega), List.getElem?_eq_getElem (by omega)]
    rfl

theorem slice_eq {buf : Bytes} {start stop : Nat} (order : start ≤ stop)
    (inside : stop ≤ buf.length) : slice buf start stop = some ((buf.take stop).drop start) :=
  if_pos ⟨order, inside⟩

theorem isSome_readNameList (pos : Nat) : (readNameList buf pos).isSome = true := by
  obtain ⟨answer, read⟩ := Option.isSome_iff_exists.mp (isSome_readU32 buf pos)
  simp only [readNameList, read, Option.bind_eq_bind, Option.bind_some]
  split
  · rfl
  · split_ifs with short
    · rfl
    · rw [slice_eq (Nat.le_add_right _ _) (Nat.le_of_not_lt short), Option.bind_some]
      split <;> rfl

theorem readNameLists_total (count pos : Nat) :
    ∃ answer, readNameLists buf count pos = some answer ∧
      ∀ lists, answer = .ok lists → lists.length = count := by
  induction count generalizing pos with
  | zero => exact ⟨_, rfl, by rintro _ ⟨⟩; rfl⟩
  | succ count ih =>
    obtain ⟨first, read⟩ := Option.isSome_iff_exists.mp (isSome_readNameList buf pos)
    simp only [readNameLists, read, Option.bind_eq_bind, Option.bind_some]
    cases first with
    | error error => exact ⟨_, rfl, by rintro _ ⟨⟩⟩
    | ok found =>
      obtain ⟨later, readLater, size⟩ := ih found.2
      simp only [readLater, Option.bind_some]
      cases later with
      | error error => exact ⟨_, rfl, by rintro _ ⟨⟩⟩
      | ok lists => exact ⟨_, rfl, by rintro _ ⟨⟩; simp [size lists rfl]⟩

theorem isSome_parsePayload (payload : Bytes) : (parsePayload payload).isSome = true := by
  obtain ⟨answer, read, size⟩ := readNameLists_total payload 5 17
  simp only [parsePayload, read, Option.bind_eq_bind, Option.bind_some]
  cases answer with
  | error error => rfl
  | ok lists =>
    match lists, size lists rfl with
    | [_, _, _, _, _], _ => rfl

theorem isSome_parsePacket {packet : Bytes} (filled : packet ≠ []) :
    (parsePacket packet).isSome = true := by
  cases packet with
  | nil => contradiction
  | cons padding rest =>
    simp only [parsePacket, List.getElem?_cons_zero, Option.bind_eq_bind, Option.bind_some]
    split_ifs with short
    · rfl
    · rw [slice_eq (by omega) (Nat.sub_le _ _), Option.bind_some]
      split_ifs
      · rfl
      · exact isSome_parsePayload _

theorem readKexInit_safe (stream : Bytes) :
    (readKexInit stream).1.isSome = true ∧ (readKexInit stream).2 ≤ 4 + maxPacket := by
  unfold readKexInit
  split
  next a b c d rest =>
    dsimp only
    split_ifs with implausible short
    · exact ⟨rfl, Nat.le_add_right _ _⟩
    · exact ⟨rfl, by dsimp only; omega⟩
    · refine ⟨isSome_parsePacket ?_, by dsimp only; omega⟩
      intro empty
      have size := congrArg List.length empty
      rw [List.length_take, List.length_nil] at size
      omega
  next short =>
    refine ⟨rfl, ?_⟩
    match stream, short with
    | [], _ | [_], _ | [_, _], _ | [_, _, _], _ => simp [maxPacket]
    | a :: b :: c :: d :: rest, short => exact absurd rfl (short a b c d rest)

def toBeBytes (value : Nat) : Bytes :=
  [UInt8.ofNat (value / 16777216), UInt8.ofNat (value / 65536), UInt8.ofNat (value / 256),
    UInt8.ofNat value]

theorem fromBeBytes_toBeBytes {value : Nat} (small : value < 4294967296) :
    fromBeBytes (UInt8.ofNat (value / 16777216)) (UInt8.ofNat (value / 65536))
      (UInt8.ofNat (value / 256)) (UInt8.ofNat value) = value := by
  simp only [fromBeBytes, UInt8.toNat_ofNat']
  omega

def nameText (names : List String) : List Char := [','].intercalate (names.map String.toList)

def encodeNames (names : List String) : Bytes :=
  toBeBytes (utf8Chars (nameText names)).length ++ utf8Chars (nameText names)

def PlainNames (names : List String) : Prop := ∀ name ∈ names, name ≠ "" ∧ ',' ∉ name.toList

theorem splitNames_nameText {names : List String} (plain : PlainNames names) :
    splitNames (nameText names) = names := by
  cases names with
  | nil => rfl
  | cons name names =>
    have commas : ∀ part ∈ (name :: names).map String.toList, ',' ∉ part := by
      intro part member
      obtain ⟨one, isOne, rfl⟩ := List.mem_map.mp member
      exact (plain one isOne).2
    have filled : ((name :: names).map String.toList).filter (· ≠ []) =
        (name :: names).map String.toList := by
      rw [List.filter_eq_self]
      intro part member
      obtain ⟨one, isOne, rfl⟩ := List.mem_map.mp member
      simpa using (plain one isOne).1
    rw [splitNames, nameText, List.splitOn_intercalate ',' commas (by simp), filled, List.map_map]
    exact List.map_id'' (fun one => String.ofList_toList) _

theorem readNameList_encodeNames {names : List String} (plain : PlainNames names)
    (front back : Bytes) (small : (encodeNames names).length < 4294967296) :
    readNameList (front ++ (encodeNames names ++ back)) front.length =
      some (.ok (names, front.length + (encodeNames names).length)) := by
  generalize isText : utf8Chars (nameText names) = text
  have size : (encodeNames names).length = 4 + text.length := by
    rw [encodeNames, isText, List.length_append]
    rfl
  have header : readU32 (front ++ (encodeNames names ++ back)) front.length =
      some (.ok (text.length, front.length + 4)) := by
    have long : ¬ (front ++ (encodeNames names ++ back)).length < front.length + 4 := by
      simp only [List.length_append, size]
      omega
    rw [readU32, if_neg long]
    simp only [encodeNames, isText, toBeBytes, List.cons_append, List.nil_append,
      List.getElem?_append_right (Nat.le_add_right _ _), List.getElem?_append_right le_rfl,
      Nat.add_sub_cancel_left, Nat.sub_self, List.getElem?_cons_zero, List.getElem?_cons_succ,
      fromBeBytes_toBeBytes (show text.length < 4294967296 by omega)]
  have fits : ¬ (front ++ (encodeNames names ++ back)).length <
      front.length + 4 + text.length := by
    simp only [List.length_append, size]
    omega
  have body : ((front ++ (encodeNames names ++ back)).take (front.length + 4 + text.length)).drop
      (front.length + 4) = text := by
    have whole : front ++ (encodeNames names ++ back) =
        (front ++ toBeBytes text.length) ++ (text ++ back) := by
      simp only [encodeNames, isText, List.append_assoc]
    have start : (front ++ toBeBytes text.length).length = front.length + 4 := by
      simp [toBeBytes]
    rw [whole, ← start, List.take_length_add_append, List.drop_left, List.take_left]
  have decoded : fromUtf8 text = some (nameText names) := by rw [← isText, fromUtf8_utf8Chars]
  simp only [readNameList, header, Option.bind_eq_bind, Option.bind_some, if_neg fits,
    slice_eq (Nat.le_add_right _ _) (Nat.le_of_not_lt fits), body, decoded,
    splitNames_nameText plain]
  rw [size, Nat.add_assoc]

theorem readNameLists_encodeNames {lists : List (List String)}
    (plain : ∀ names ∈ lists, PlainNames names) (front back : Bytes)
    (small : (lists.flatMap encodeNames).length < 4294967296) :
    readNameLists (front ++ (lists.flatMap encodeNames ++ back)) lists.length front.length =
      some (.ok lists) := by
  induction lists generalizing front with
  | nil => rfl
  | cons names lists ih =>
    rw [List.flatMap_cons, List.length_append] at small
    have first := readNameList_encodeNames (plain names List.mem_cons_self) front
      (lists.flatMap encodeNames ++ back) (by omega)
    have later := ih (fun one member => plain one (List.mem_cons_of_mem _ member))
      (front ++ encodeNames names) (by omega)
    rw [List.length_append, List.append_assoc] at later
    simp only [List.length_cons, readNameLists, List.flatMap_cons, List.append_assoc, first,
      Option.bind_eq_bind, Option.bind_some, later]

structure KexPacket where
  cookie : Bytes
  lists : List (List String)
  rest : Bytes
  padding : Bytes
  cookieLength : cookie.length = 16
  tenLists : lists.length = 10
  restLength : rest.length = 5
  paddingLength : padding.length < 256

namespace KexPacket

variable (packet : KexPacket)

def payload : Bytes :=
  msgKexInit :: packet.cookie ++ (packet.lists.flatMap encodeNames ++ packet.rest)

def body : Bytes := UInt8.ofNat packet.padding.length :: packet.payload ++ packet.padding

def bytes : Bytes := toBeBytes packet.body.length ++ packet.body

variable {packet}

theorem parsePayload_payload (plain : ∀ names ∈ packet.lists, PlainNames names)
    (small : packet.body.length ≤ maxPacket) : ∃ kex hostKey ciphers other macs more,
      packet.lists = kex :: hostKey :: ciphers :: other :: macs :: more ∧
        parsePayload packet.payload = some (.ok ⟨kex, hostKey, ciphers, macs⟩) := by
  obtain ⟨cookie, lists, rest, padding, cookieLength, tenLists, restLength, paddingLength⟩ := packet
  match lists, tenLists with
  | kex :: hostKey :: ciphers :: other :: macs :: more, sized =>
    refine ⟨kex, hostKey, ciphers, other, macs, more, rfl, ?_⟩
    have size : (([kex, hostKey, ciphers, other, macs] : List (List String)).flatMap
        encodeNames).length < 4294967296 := by
      simp only [body, payload, maxPacket, List.length_cons, List.length_append,
        List.flatMap_cons, List.flatMap_nil, List.length_nil] at small ⊢
      omega
    have read := readNameLists_encodeNames
      (fun names member => plain names (by simp at member ⊢; tauto)) (msgKexInit :: cookie)
      (more.flatMap encodeNames ++ rest) size
    have start : (msgKexInit :: cookie).length = 17 := by rw [List.length_cons, cookieLength]
    have whole : (msgKexInit :: cookie) ++ (([kex, hostKey, ciphers, other, macs].flatMap
        encodeNames) ++ (more.flatMap encodeNames ++ rest)) =
          payload ⟨cookie, kex :: hostKey :: ciphers :: other :: macs :: more, rest, padding,
            cookieLength, sized, restLength, paddingLength⟩ := by
      simp [payload]
    rw [start, whole] at read
    simp only [List.length_cons, List.length_nil] at read
    simp only [parsePayload, read, Option.bind_eq_bind, Option.bind_some]

theorem parsePacket_body : parsePacket packet.body = parsePayload packet.payload := by
  have padding : (UInt8.ofNat packet.padding.length).toNat = packet.padding.length := by
    rw [UInt8.toNat_ofNat', Nat.mod_eq_of_lt packet.paddingLength]
  have size : packet.body.length - packet.padding.length = packet.payload.length + 1 := by
    simp only [body, List.length_cons, List.length_append]
    omega
  have long : ¬ packet.body.length < packet.padding.length + 1 := by
    simp only [body, List.length_cons, List.length_append]
    omega
  have inner : (packet.body.take (packet.payload.length + 1)).drop 1 = packet.payload := by
    rw [body, List.cons_append, List.take_succ_cons, List.drop_one, List.tail_cons,
      List.take_left]
  have cut := @slice_eq packet.body 1 (packet.payload.length + 1) (by omega) (by omega)
  have first : packet.body[0]? = some (UInt8.ofNat packet.padding.length) := rfl
  have message : packet.payload.head? = some msgKexInit := rfl
  simp only [parsePacket, first, Option.bind_eq_bind, Option.bind_some, padding, if_neg long, size,
    cut, inner, message, ne_eq, not_true_eq_false, if_false]

end KexPacket

theorem readKexInit_parsed {packet : KexPacket} (small : packet.body.length ≤ maxPacket)
    (plain : ∀ names ∈ packet.lists, PlainNames names) (after : Bytes) :
    ∃ kex hostKey ciphers other macs more,
      packet.lists = kex :: hostKey :: ciphers :: other :: macs :: more ∧
        (readKexInit (packet.bytes ++ after)).1 = some (.ok ⟨kex, hostKey, ciphers, macs⟩) := by
  obtain ⟨kex, hostKey, ciphers, other, macs, more, isLists, parsed⟩ :=
    KexPacket.parsePayload_payload plain small
  refine ⟨kex, hostKey, ciphers, other, macs, more, isLists, ?_⟩
  have length := @fromBeBytes_toBeBytes packet.body.length (small.trans_lt (by decide))
  have least : 2 ≤ packet.body.length := by
    simp only [KexPacket.body, KexPacket.payload, List.length_cons, List.length_append]
    omega
  have allowed : ¬ (packet.body.length < 2 ∨ maxPacket < packet.body.length) := by omega
  have enough : ¬ (packet.body ++ after).length < packet.body.length := by
    rw [List.length_append]
    omega
  simp only [KexPacket.bytes, toBeBytes, List.cons_append, List.nil_append, readKexInit, length,
    if_neg allowed, if_neg enough, List.take_left, KexPacket.parsePacket_body, parsed]

theorem readKexInit_faithful :
    (∀ stream, (readKexInit stream).1.isSome = true ∧ (readKexInit stream).2 ≤ 4 + maxPacket) ∧
      ∀ (packet : KexPacket) (after : Bytes), packet.body.length ≤ maxPacket →
        (∀ names ∈ packet.lists, PlainNames names) →
        ∃ kex hostKey ciphers other macs more,
          packet.lists = kex :: hostKey :: ciphers :: other :: macs :: more ∧
            (readKexInit (packet.bytes ++ after)).1 = some (.ok ⟨kex, hostKey, ciphers, macs⟩) :=
  ⟨readKexInit_safe, fun _ after small plain => readKexInit_parsed small plain after⟩

def sampleKexPacket : KexPacket where
  cookie := List.replicate 16 7
  lists := [["mlkem768x25519-sha256", "ecdh-sha2-nistp256"], ["ssh-ed25519"], ["aes256-ctr"],
    ["3des-cbc"], ["hmac-sha2-256"], [], [], [], [], []]
  rest := List.replicate 5 0
  padding := List.replicate 4 0
  cookieLength := rfl
  tenLists := rfl
  restLength := rfl
  paddingLength := by decide

theorem readKexInit_sample :
    (readKexInit (sampleKexPacket.bytes ++ [1])).1 = some (.ok
      ⟨["mlkem768x25519-sha256", "ecdh-sha2-nistp256"], ["ssh-ed25519"], ["aes256-ctr"],
        ["hmac-sha2-256"]⟩) := by
  obtain ⟨_, _, _, _, _, _, isLists, read⟩ :=
    readKexInit_faithful.2 sampleKexPacket [1] (by decide +kernel) (by unfold PlainNames; decide)
  cases isLists
  exact read

end QuantaWatch.Scanner
