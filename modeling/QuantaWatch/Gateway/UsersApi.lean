import QuantaWatch.Crypto.Sample
import QuantaWatch.Gateway.SessionRoles

/-!
The management of database users (`qw-gateway/src/admin/users_api.rs`).
-/

namespace QuantaWatch.Gateway

open Crypto Lib Lib.Encoding Store

structure UsersApi where
  manager : AuthManager
  platform : Platform
  backend : Backend

structure CreateUser where
  username : String
  password : String
  role : String
  org : Option String

structure UpdateUser where
  role : Option String
  password : Option String

inductive UserReply where
  | created (username role org : String)
  | updated (username role : String)
  | deleted (username : String)
  | error (status : Nat) (message : String) (roles : Option (List String))
deriving DecidableEq

def UserReply.succeeded : UserReply → Bool
  | error _ _ _ => false
  | _ => true

namespace UsersApi

variable (api : UsersApi)

def knownRoles : List String :=
  api.manager.config.roles.foldl
    (fun roles role => if role.1 ∈ roles then roles else roles ++ [role.1])
    ["admin", "operator", "viewer"]

variable (tenant : String) (random : AuthManager.Randomness) (store : AuthStore)

def createUser (body : CreateUser) : UserReply × AuthStore :=
  let username := Text.trim body.username
  if username = "" ∨ (utf8 body.password).length < 8 then
    (.error 400 "username required and password must be at least 8 characters" none, store)
  else if body.role ∉ api.knownRoles then
    (.error 400 ("unknown role '" ++ body.role ++ "'") (some api.knownRoles), store)
  else if api.manager.declared username then
    (.error 409 "a config-defined user already has that name" none, store)
  else if (store.getUser username).isSome then (.error 409 "user already exists" none, store)
  else
    match random.passwordHash with
    | .error reason => (.error 500 ("hash failed: " ++ reason) none, store)
    | .ok passwordHash =>
      let org := body.org.getD tenant
      (.created username body.role org,
        store.upsertUser
          { username, role := body.role, org, passwordHash, totpSecret := none,
            totpEnabled := false, backupCodeHashes := [] })

def withRole (user : DbUser) : Option String → Except UserReply DbUser
  | none => .ok user
  | some role =>
    if role ∉ api.knownRoles then .error (.error 400 ("unknown role '" ++ role ++ "'") none)
    else .ok { user with role }

def withPassword (user : DbUser) : Option String → Except UserReply DbUser
  | none => .ok user
  | some password =>
    if (utf8 password).length < 8 then
      .error (.error 400 "password must be at least 8 characters" none)
    else
      match random.passwordHash with
      | .error reason => .error (.error 500 ("hash failed: " ++ reason) none)
      | .ok passwordHash => .ok { user with passwordHash }

def updateUser (username : String) (body : UpdateUser) : UserReply × AuthStore :=
  match store.getUser username with
  | none =>
    (.error 404 "no such runtime user (config users are edited in the YAML)" none, store)
  | some user =>
    match do withPassword random (← api.withRole user body.role) body.password with
    | .error reply => (reply, store)
    | .ok user => (.updated user.username user.role, store.upsertUser user)

def deleteUser (principal : Option String) (username : String) : UserReply × AuthStore :=
  if principal = some username then
    (.error 400 "you can't delete the account you're signed in as" none, store)
  else if (store.getUser username).isNone then
    (.error 404 "no such runtime user (config users are removed from the YAML)" none, store)
  else
    (.deleted username,
      (store.deleteUser username).deleteSessionsForUser api.platform api.backend username)

end UsersApi

inductive UserRequest where
  | create (tenant : String) (body : CreateUser)
  | update (username : String) (body : UpdateUser)
  | delete (principal : Option String) (username : String)

def UsersApi.answer (api : UsersApi) (random : AuthManager.Randomness) (store : AuthStore) :
    UserRequest → UserReply × AuthStore
  | .create tenant body => api.createUser tenant random store body
  | .update username body => api.updateUser random store username body
  | .delete principal username => api.deleteUser store principal username

namespace UsersApi

variable {api : UsersApi} {random : AuthManager.Randomness} {store : AuthStore}
  {request : UserRequest}

def revokes (before after : AuthStore) : UserRequest → Option String
  | .create _ _ => none
  | .update username _ =>
    if (before.getUser username).map DbUser.role = (after.getUser username).map DbUser.role
    then none else some username
  | .delete _ username => some username

structure Exact (manager : AuthManager) (now : DateTime) (before after : AuthStore)
    (user : String) : Prop where
  revoked : ∀ credential session, manager.LiveSession now before credential session →
    session.username = user → ∀ context, (manager.validate now after credential).1 = some context →
      ¬ (context.method = .session ∧ context.roleName = session.role)
  kept : ∀ credential session, manager.LiveSession now before credential session →
    session.username ≠ user →
      (manager.validate now after credential).1 = (manager.validate now before credential).1

section Sessions

variable {manager : AuthManager} {now : DateTime} {before after : AuthStore} {user : String}

theorem method_of_no_session {credential : String} {context : AuthManager.AuthContext}
    (gone : after.getAuthSession (manager.tokenHash credential) = none)
    (validated : (manager.validate now after credential).1 = some context) :
    context.method = .apiKey := by
  simp only [AuthManager.validate, gone] at validated
  split at validated
  · rw [← Option.some.inj validated]
    rfl
  · contradiction

theorem exact_iff_of_filter {keep : AuthSession → Bool}
    (filtered : ∀ hash, after.getAuthSession hash = (before.getAuthSession hash).filter keep) :
    Exact manager now before after user ↔
      ∀ credential session, manager.LiveSession now before credential session →
        (keep session = false ↔ session.username = user) := by
  have stays {credential : String} {session : AuthSession}
      (live : manager.LiveSession now before credential session) (kept : keep session = true) :
      (manager.validate now after credential).1 = (manager.validate now before credential).1 := by
    have stored : after.getAuthSession (manager.tokenHash credential) = some session := by
      rw [filtered, live.stored, Option.filter_some, if_pos kept]
    rw [AuthManager.validate_of_live live,
      AuthManager.validate_of_live ⟨stored, live.unexpired, live.busy⟩]
  have goes {credential : String} {session : AuthSession}
      (live : manager.LiveSession now before credential session) (deleted : keep session = false) :
      after.getAuthSession (manager.tokenHash credential) = none := by
    rw [filtered, live.stored, Option.filter_some, if_neg (by simp [deleted])]
  constructor
  · intro exact credential session live
    constructor
    · intro deleted
      by_contra other
      have same := exact.kept credential session live other
      rw [AuthManager.validate_of_live live] at same
      have method := method_of_no_session (goes live deleted) same
      contradiction
    · intro own
      by_contra keeps
      have same := stays live (by simpa using keeps)
      rw [AuthManager.validate_of_live live] at same
      exact exact.revoked credential session live own _ same ⟨rfl, rfl⟩
  · intro tested
    refine ⟨?_, ?_⟩
    · intro credential session live own context validated both
      have method := method_of_no_session (goes live ((tested _ _ live).mpr own)) validated
      rw [method] at both
      exact absurd both.1 (by simp)
    · intro credential session live other
      apply stays live
      rw [← Bool.not_eq_false, tested _ _ live]
      exact other

end Sessions

def Condition (api : UsersApi) (now : DateTime) (store : AuthStore) : UserRequest → Prop
  | .create _ _ => True
  | .update username _ =>
    ∀ credential session, api.manager.LiveSession now store credential session →
      session.username ≠ username
  | .delete _ username =>
    ∀ credential session, api.manager.LiveSession now store credential session →
      if Json.PlainText username.toList then
        session.username.toList.map api.backend.fold = username.toList.map api.backend.fold →
          session.username = username
      else
        session.username ≠ username ∧
          session.namesUser api.platform api.backend username = false

variable {username : String}

theorem getAuthSession_updateUser {body : UpdateUser} (hash : String) :
    (api.updateUser random store username body).2.getAuthSession hash =
      store.getAuthSession hash := by
  unfold updateUser
  split
  · rfl
  · split <;> rfl

theorem getAuthSession_deleteUser {principal : Option String}
    (done : (api.deleteUser store principal username).1.succeeded = true) (hash : String) :
    (api.deleteUser store principal username).2.getAuthSession hash =
      (store.getAuthSession hash).filter
        fun session => !session.namesUser api.platform api.backend username := by
  unfold deleteUser at done ⊢
  split_ifs at done ⊢
  · contradiction
  · contradiction
  · exact Collections.lookup_filterRows

theorem namesUser_iff_username {session : AuthSession} :
    (session.namesUser api.platform api.backend username = true ↔ session.username = username) ↔
      if Json.PlainText username.toList then
        session.username.toList.map api.backend.fold = username.toList.map api.backend.fold →
          session.username = username
      else
        session.username ≠ username ∧
          session.namesUser api.platform api.backend username = false := by
  split
  · next plain =>
      rw [namesUser_of_plain plain]
      exact ⟨fun same => same.mp, fun only => ⟨only, fun own => by rw [own]⟩⟩
  · next special =>
      by_cases own : session.username = username
      · simp [own, not_namesUser_of_special special own]
      · simp [own]

/-- A revocation that succeeds is exact, at any later instant, if and only if its
condition holds of the sessions before it. -/
theorem revocation_iff {now : DateTime} {user : String}
    (done : (api.answer random store request).1.succeeded = true)
    (revoked : revokes store (api.answer random store request).2 request = some user) :
    Exact api.manager now store (api.answer random store request).2 user ↔
      api.Condition now store request := by
  cases request with
  | create tenant body => contradiction
  | update username body =>
    have own : username = user := by
      simp only [revokes] at revoked
      split at revoked
      · contradiction
      · exact Option.some.inj revoked
    have unfiltered (hash : String) :
        (api.updateUser random store username body).2.getAuthSession hash =
          (store.getAuthSession hash).filter fun _ => true := by
      rw [getAuthSession_updateUser]
      cases store.getAuthSession hash <;> rfl
    rw [← own, answer, exact_iff_of_filter unfiltered]
    simp [Condition]
  | delete principal username =>
    rw [revokes, Option.some.injEq] at revoked
    rw [← revoked, answer, exact_iff_of_filter (getAuthSession_deleteUser done)]
    simp only [Condition, Bool.not_eq_false', namesUser_iff_username]

section Sample

open AuthSample

def sampleApi (backend : Backend) : UsersApi := ⟨managerOf 0, samplePlatform, backend⟩

def noRandomness : AuthManager.Randomness := ⟨"", "", [], .error "unused"⟩

def adminNamed (username : String) : DbUser :=
  ⟨username, "admin", "default", "hash", none, true, []⟩

def signedIn : AuthStore :=
  let session (username : String) : AuthSession :=
    ⟨username, "admin", "default", after ⟨0⟩ 3600, ⟨0⟩⟩
  ((storeOf [adminNamed "bob", adminNamed "Bob"]).putAuthSession ((managerOf 0).tokenHash "t-bob")
    (session "bob")).putAuthSession ((managerOf 0).tokenHash "t-Bob") (session "Bob")

def demote : UserRequest := .update "bob" ⟨some "viewer", none⟩

theorem delete_bob_exact :
    Exact (sampleApi .postgres).manager ⟨1⟩ signedIn
        ((sampleApi .postgres).answer noRandomness signedIn (.delete none "bob")).2 "bob" ↔
      (sampleApi .postgres).Condition ⟨1⟩ signedIn (.delete none "bob") := by
  apply revocation_iff
  · decide +kernel
  · rfl

theorem sessions_after_revocation :
    ((sampleApi .postgres).answer noRandomness signedIn demote).1 = .updated "bob" "viewer" ∧
      (((managerOf 0).validate ⟨1⟩ ((sampleApi .postgres).answer noRandomness signedIn demote).2
        "t-bob").1.map fun context => (context.principal, context.roleName)) =
          some ("bob", "admin") ∧
      ((sampleApi .sqlite).answer noRandomness signedIn (.delete none "bob")).1 = .deleted "bob" ∧
      ((managerOf 0).validate ⟨1⟩
        ((sampleApi .sqlite).answer noRandomness signedIn (.delete none "bob")).2
          "t-Bob").1.isNone = true := by
  decide +kernel

end Sample

end UsersApi

end QuantaWatch.Gateway
