import QuantaWatch.Crypto.Primitives
import QuantaWatch.Lib.Collections
import QuantaWatch.Lib.Glob
import QuantaWatch.Lib.Json.KeySearch

/-!
The rows of the shared store that back authentication, and the deletion of a user and of
their sessions (`qw-store`).
-/

namespace QuantaWatch.Store

open Crypto

def after (instant : DateTime) (seconds : Int) : DateTime :=
  ⟨instant.nanos + seconds * 1000000000⟩

/-- The cast `as i64` of configured seconds, which makes large ones negative. -/
def asI64 (seconds : UInt64) : Int := seconds.toInt64.toInt

/-- The most whole seconds that chrono's `Duration` holds. -/
def maxDurationSecs : Nat := 9223372036854775

theorem asI64_of_le {seconds : UInt64} (fits : seconds.toNat ≤ maxDurationSecs) :
    asI64 seconds = seconds.toNat := by
  have small : 2 * seconds.toBitVec.toNat < 2 ^ 64 := by
    have := fits.trans_lt (by decide : maxDurationSecs < 2 ^ 63)
    rw [UInt64.toNat_toBitVec]
    omega
  exact BitVec.toInt_eq_toNat_of_lt small

structure DbUser where
  username : String
  role : String
  org : String
  passwordHash : String
  totpSecret : Option String
  totpEnabled : Bool
  backupCodeHashes : List String
deriving DecidableEq

inductive PendingKind where
  | verify
  | enroll
deriving DecidableEq

structure MfaPending where
  username : String
  kind : PendingKind
  expiresAt : DateTime
deriving DecidableEq

structure AuthSession where
  username : String
  role : String
  org : String
  expiresAt : DateTime
  lastUsed : DateTime
deriving DecidableEq

structure LockoutState where
  failures : UInt32
  firstFailureAt : DateTime
  lockedUntil : Option DateTime

structure UserTable where
  rows : AList fun _ : String => DbUser
  keyed : ∀ name user, rows.lookup name = some user → user.username = name

namespace UserTable

def empty : UserTable := ⟨∅, by simp⟩

def get (table : UserTable) (name : String) : Option DbUser := table.rows.lookup name

def isEmpty (table : UserTable) : Bool := table.rows.entries.isEmpty

def upsert (table : UserTable) (user : DbUser) : UserTable where
  rows := table.rows.insert user.username user
  keyed name other found := by
    by_cases same : name = user.username
    · subst same
      rw [AList.lookup_insert] at found
      rw [Option.some.inj found]
    · rw [AList.lookup_insert_ne same] at found
      exact table.keyed name other found

def erase (table : UserTable) (name : String) : UserTable where
  rows := table.rows.erase name
  keyed other user found := by
    by_cases same : other = name
    · subst same
      rw [AList.lookup_erase] at found
      contradiction
    · rw [AList.lookup_erase_ne same] at found
      exact table.keyed other user found

variable {table : UserTable} {user : DbUser} {name : String}

theorem username_of_get (found : table.get name = some user) : user.username = name :=
  table.keyed name user found

@[simp] theorem get_upsert : (table.upsert user).get user.username = some user :=
  AList.lookup_insert _

theorem get_upsert_ne (other : name ≠ user.username) :
    (table.upsert user).get name = table.get name :=
  AList.lookup_insert_ne other

end UserTable

structure AuthStore where
  users : UserTable
  pendings : AList fun _ : String => MfaPending
  sessions : AList fun _ : String => AuthSession
  lockouts : AList fun _ : String => LockoutState

namespace AuthStore

variable (store : AuthStore)

def getUser (name : String) : Option DbUser := store.users.get name

def upsertUser (user : DbUser) : AuthStore := { store with users := store.users.upsert user }

def putMfaPending (tokenHash : String) (pending : MfaPending) : AuthStore :=
  { store with pendings := store.pendings.insert tokenHash pending }

def livePending (now : DateTime) (tokenHash : String) : Option MfaPending :=
  (store.pendings.lookup tokenHash).filter fun pending => now.nanos < pending.expiresAt.nanos

def consumeMfaPending (now : DateTime) (tokenHash : String) : Option MfaPending × AuthStore :=
  (store.livePending now tokenHash, { store with pendings := store.pendings.erase tokenHash })

def putAuthSession (tokenHash : String) (session : AuthSession) : AuthStore :=
  { store with sessions := store.sessions.insert tokenHash session }

def getAuthSession (tokenHash : String) : Option AuthSession := store.sessions.lookup tokenHash

def deleteAuthSession (tokenHash : String) : AuthStore :=
  { store with sessions := store.sessions.erase tokenHash }

def touchAuthSession (tokenHash : String) (session : AuthSession) : AuthStore :=
  if (store.sessions.lookup tokenHash).isSome then store.putAuthSession tokenHash session else store

def getLoginLockout (username : String) : Option LockoutState := store.lockouts.lookup username

def putLoginLockout (username : String) (state : LockoutState) : AuthStore :=
  { store with lockouts := store.lockouts.insert username state }

def clearLoginLockout (username : String) : AuthStore :=
  { store with lockouts := store.lockouts.erase username }

variable {store}

theorem livePending_eq_some {now : DateTime} {tokenHash : String} {pending : MfaPending} :
    store.livePending now tokenHash = some pending ↔
      store.pendings.lookup tokenHash = some pending ∧ now.nanos < pending.expiresAt.nanos := by
  simp [livePending, Option.filter_eq_some_iff]

end AuthStore

structure SignInStore where
  auth : AuthStore
  oidcStates : AList fun _ : String => DateTime

def wholeSecond (instant : DateTime) : DateTime :=
  ⟨instant.nanos - instant.nanos % 1000000000⟩

namespace SignInStore

variable (store : SignInStore)

def putOidcState (state : String) (expiresAt : DateTime) : SignInStore :=
  { store with oidcStates := store.oidcStates.insert state (wholeSecond expiresAt) }

def consumeOidcState (state : String) : Option DateTime × SignInStore :=
  (store.oidcStates.lookup state, { store with oidcStates := store.oidcStates.erase state })

end SignInStore

open Lib Lib.Collections Lib.Json

inductive Backend where
  | sqlite
  | postgres
deriving DecidableEq

/-- How `LIKE` compares characters: SQLite without regard to the case of ASCII
letters. -/
def Backend.fold : Backend → Char → Char
  | sqlite => asciiLower
  | postgres => id

theorem Backend.foldsText : ∀ backend : Backend, FoldsText backend.fold
  | sqlite => foldsText_asciiLower
  | postgres => foldsText_id

section Rows

variable (platform : Platform) (backend : Backend)

def AuthSession.otherFields (session : AuthSession) : List (String × String) :=
  [("role", session.role), ("org", session.org),
    ("expiresAt", platform.serializeTime session.expiresAt),
    ("lastUsed", platform.serializeTime session.lastUsed)]

/-- The `data` column of a session. -/
def AuthSession.text (session : AuthSession) : List Char :=
  (Value.object
    (stringFields (("username", session.username) :: session.otherFields platform))).print
    platform.floats

def sessionPattern (username : String) : List Char :=
  "%\"username\":\"".toList ++ Like.escape username.toList ++ "\"%".toList

def AuthSession.namesUser (username : String) (session : AuthSession) : Bool :=
  Like.like backend.fold (sessionPattern username) (session.text platform)

end Rows

section Search

variable {platform : Platform} {backend : Backend} {username : String} {session : AuthSession}

theorem escape_keyed {key : List Char} (value : List Char)
    (front : Like.escape ('"' :: (key ++ ['"', ':', '"'])) = '"' :: (key ++ ['"', ':', '"'])) :
    '%' :: (Like.escape (keyed key (value ++ ['"'])) ++ ['%']) =
      ('%' :: '"' :: (key ++ ['"', ':', '"'])) ++ Like.escape value ++ ['"', '%'] := by
  have quote : Like.escape ['"'] = ['"'] := by decide +kernel
  have parts : keyed key (value ++ ['"']) =
      '"' :: (key ++ ['"', ':', '"']) ++ (value ++ ['"']) := by
    simp [keyed]
  rw [parts, Like.escape_append, Like.escape_append, front, quote]
  simp

theorem sessionPattern_eq (username : String) :
    sessionPattern username = '%' :: (Like.escape (keyed "username".toList
      (username.toList ++ ['"'])) ++ ['%']) := by
  have opening : "%\"username\":\"".toList =
      '%' :: '"' :: ("username".toList ++ ['"', ':', '"']) := by decide +kernel
  have closing : "\"%".toList = ['"', '%'] := by decide +kernel
  have plain : Like.escape ('"' :: ("username".toList ++ ['"', ':', '"'])) =
      '"' :: ("username".toList ++ ['"', ':', '"']) := by decide +kernel
  have pieces := congrArg₂ (fun front last => front ++ Like.escape username.toList ++ last)
    opening closing
  exact pieces.trans (escape_keyed username.toList plain).symm

theorem isKey_username (backend : Backend) : IsKey ("username".toList.map backend.fold) := by
  have same : "username".toList.map backend.fold = "username".toList := by
    cases backend <;> decide +kernel
  rw [same]
  exact ⟨by decide +kernel, by decide +kernel, by decide +kernel⟩

theorem otherFields_keys (platform : Platform) (backend : Backend) (session : AuthSession) :
    ∀ field ∈ (charFields (session.otherFields platform)).map
        (Prod.map (List.map backend.fold) (List.map backend.fold)),
      PlainText field.1 ∧ field.1 ≠ "username".toList.map backend.fold := by
  have keys : ∀ key ∈ ["role", "org", "expiresAt", "lastUsed"],
      PlainText key.toList ∧
        key.toList.map backend.fold ≠ "username".toList.map backend.fold := by
    cases backend <;> decide +kernel
  simp only [charFields, AuthSession.otherFields, List.forall_mem_map, List.forall_mem_cons,
    Prod.map_fst, plainText_map_iff backend.foldsText] at keys ⊢
  exact ⟨keys.1, keys.2.1, keys.2.2.1, keys.2.2.2.1, by simp⟩

theorem namesUser_iff : session.namesUser platform backend username = true ↔
    username.toList.map backend.fold ++ ['"'] <+:
      escaped (session.username.toList.map backend.fold) ++ '"' :: fieldsText
        ((charFields (session.otherFields platform)).map
          (Prod.map (List.map backend.fold) (List.map backend.fold))) := by
  have folds := backend.foldsText
  have keys := otherFields_keys platform backend session
  rw [AuthSession.namesUser, sessionPattern_eq, Like.like_anywhere, AuthSession.text,
    print_stringFields, map_keyed folds, map_objectText folds,
    keyed_infix_objectText (isKey_username backend) _ (fun field member => (keys field member).1)
      (fun field member => (keys field member).2)]
  rw [List.map_append, List.map_singleton, folds.punctuation '"' (by simp)]

theorem namesUser_of_plain (plain : PlainText username.toList) :
    session.namesUser platform backend username = true ↔
      session.username.toList.map backend.fold = username.toList.map backend.fold := by
  rw [namesUser_iff, plain_quote_prefix ((plainText_map_iff backend.foldsText).mpr plain)]
  simp

theorem not_namesUser_of_special (special : ¬ PlainText username.toList)
    (own : session.username = username) : session.namesUser platform backend username = false := by
  rw [← Bool.not_eq_true, namesUser_iff, own]
  apply not_quote_prefix_escaped
  rw [plainText_map_iff backend.foldsText]
  exact special

end Search

namespace AuthStore

def deleteUser (store : AuthStore) (username : String) : AuthStore :=
  { store with users := store.users.erase username }

def deleteSessionsForUser (platform : Platform) (backend : Backend) (store : AuthStore)
    (username : String) : AuthStore :=
  { store with
    sessions := filterRows (fun session => !session.namesUser platform backend username)
      store.sessions }

end AuthStore

end QuantaWatch.Store
