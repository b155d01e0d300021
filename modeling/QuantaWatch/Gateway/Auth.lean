import QuantaWatch.Gateway.Rbac
import QuantaWatch.Lib.Text
import QuantaWatch.Store.Auth

/-!
The authentication manager (`qw-gateway/src/auth.rs`, `mfa.rs`).
-/

namespace QuantaWatch.Gateway

open Crypto Lib Lib.Encoding Store

structure UserConfig where
  username : String
  passwordHash : String
  role : String
  org : String

structure ApiKeyConfig where
  name : String
  keyHash : String
  role : String
  org : String

structure AuthConfig where
  enabled : Bool
  sessionTtlSecs : UInt64
  users : List UserConfig
  apiKeys : List ApiKeyConfig
  roles : List (String × List String)
  maxFailedLogins : UInt32
  lockoutSecs : UInt64
  idleTimeoutSecs : UInt64

structure AuthPlatform where
  sha3_256Hex : Bytes → String
  verifyPassword : String → String → Bool
  totpUrl : String → String → Option String
  /-- `check_current`, at an instant, where the constructor succeeds. -/
  checkCode : String → String → DateTime → String → Bool
  lowercase : String → String

structure AuthPlatform.Lawful (platform : AuthPlatform) : Prop where
  emptySecret : ∀ account, platform.totpUrl "" account = none

inductive Role where
  | viewer
  | auditor
  | operator
  | admin
deriving DecidableEq

def Role.label : Role → String
  | viewer => "viewer"
  | auditor => "auditor"
  | operator => "operator"
  | admin => "admin"

structure AuthManager where
  platform : AuthPlatform
  config : AuthConfig

namespace AuthManager

variable (manager : AuthManager)

def parseRole (name : String) : Role :=
  match manager.platform.lowercase name with
  | "admin" => .admin
  | "operator" => .operator
  | "auditor" => .auditor
  | _ => .viewer

def permsFor (roleName : String) : PermissionSet :=
  ((resolveRoles manager.platform.lowercase manager.config.roles).lookup
    (manager.platform.lowercase roleName)).getD ⟨[]⟩

def tokenHash (token : String) : String := manager.platform.sha3_256Hex (utf8 token)

def hashBackupCode (code : String) : String :=
  manager.platform.sha3_256Hex (utf8 (manager.platform.lowercase (Text.trim code)))

def verifyTotp (secret account : String) (now : DateTime) (code : String) : Bool :=
  (manager.platform.totpUrl secret account).isSome &&
    manager.platform.checkCode secret account now (Text.trim code)

def declared (username : String) : Bool :=
  manager.config.users.any fun user => user.username = username

structure Randomness where
  token : String
  secret : String
  backupCodes : List String
  passwordHash : Except String String

variable (now : DateTime) (random : Randomness)

def issueSession (store : AuthStore) (username : String) (role : Role) (org : String) : AuthStore :=
  store.putAuthSession (manager.tokenHash random.token)
    { username, role := role.label, org, lastUsed := now,
      expiresAt := after now (asI64 manager.config.sessionTtlSecs) }

def pendingSecs : Nat := 600

def issuePending (store : AuthStore) (username : String) (kind : PendingKind) : AuthStore :=
  store.putMfaPending (manager.tokenHash random.token)
    { username, kind, expiresAt := after now pendingSecs }

def lockedFor (store : AuthStore) (username : String) : Option Nat :=
  if manager.config.maxFailedLogins = 0 then none
  else do
    let deadline ← (← store.getLoginLockout username).lockedUntil
    if now.nanos < deadline.nanos then
      some (((deadline.nanos - now.nanos).tdiv 1000000000).toNat)
    else none

def countedFrom (previous : Option LockoutState) : LockoutState :=
  match previous with
  | some state =>
    if state.lockedUntil.any fun deadline => deadline.nanos ≤ now.nanos then ⟨0, now, none⟩
    else state
  | none => ⟨0, now, none⟩

def addFailure (state : LockoutState) : LockoutState :=
  let failures := state.failures + 1
  { state with
    failures
    lockedUntil :=
      if manager.config.maxFailedLogins ≤ failures then
        some (after now (asI64 manager.config.lockoutSecs))
      else state.lockedUntil }

def recordLoginFailure (store : AuthStore) (username : String) : AuthStore :=
  if manager.config.maxFailedLogins = 0 then store
  else
    store.putLoginLockout username
      (manager.addFailure now (countedFrom now (store.getLoginLockout username)))

inductive LoginOutcome where
  | ok (token : String) (role : Role) (ttl : UInt64)
  | totpRequired (pending : String)
  | enrollmentRequired (pending : String)
  | badCredentials
  | lockedOut (retryAfterSecs : Nat)
deriving DecidableEq

def credentials (store : AuthStore) (username : String) : Option (String × String × String) :=
  match manager.config.users.find? fun user => user.username = username with
  | some user => some (user.passwordHash, user.role, user.org)
  | none => (store.getUser username).map fun user => (user.passwordHash, user.role, user.org)

def passwordOk (store : AuthStore) (username password : String) : Bool :=
  (manager.credentials store username).any fun found =>
    manager.platform.verifyPassword password found.1

def authenticate (store : AuthStore) (username password : String) : Option (String × String) :=
  if manager.passwordOk store username password then
    (manager.credentials store username).map Prod.snd
  else none

def login (store : AuthStore) (username password : String) : LoginOutcome × AuthStore :=
  match manager.lockedFor now store username with
  | some secs => (.lockedOut secs, store)
  | none =>
    match manager.authenticate store username password with
    | none => (.badCredentials, manager.recordLoginFailure now store username)
    | some (roleName, org) =>
      let store := store.clearLoginLockout username
      if manager.declared username then
        let role := manager.parseRole roleName
        (.ok random.token role manager.config.sessionTtlSecs,
          manager.issueSession now random store username role org)
      else if ((store.getUser username).map DbUser.totpEnabled).getD false then
        (.totpRequired random.token, manager.issuePending now random store username .verify)
      else
        (.enrollmentRequired random.token,
          manager.issuePending now random store username .enroll)

def setupRequired (store : AuthStore) : Bool :=
  manager.config.users.isEmpty && store.users.isEmpty

def firstAdmin (username passwordHash : String) : DbUser where
  username := username
  role := "admin"
  org := "default"
  passwordHash := passwordHash
  totpSecret := none
  totpEnabled := false
  backupCodeHashes := []

def setupAdmin (store : AuthStore) (username password : String) :
    Except String String × AuthStore :=
  if manager.setupRequired store then
    let username := Text.trim username
    if username = "" then (.error "username is required", store)
    else if password.length < 12 then (.error "password must be at least 12 characters", store)
    else
      match random.passwordHash with
      | .error reason => (.error ("hash: " ++ reason), store)
      | .ok passwordHash =>
        (.ok random.token,
          manager.issuePending now random (store.upsertUser (firstAdmin username passwordHash))
            username .enroll)
  else (.error "setup already completed", store)

def challenge (store : AuthStore) (kind : PendingKind) (pendingToken : String) :
    Option (MfaPending × DbUser) := do
  let pending ← store.livePending now (manager.tokenHash pendingToken)
  if pending.kind = kind then some (pending, ← store.getUser pending.username) else none

def consumed (store : AuthStore) (pendingToken : String) : AuthStore :=
  (store.consumeMfaPending now (manager.tokenHash pendingToken)).2

def consumeBackupCode (user : DbUser) (code : String) : Option DbUser :=
  let hash := manager.hashBackupCode code
  if hash ∈ user.backupCodeHashes then
    some { user with backupCodeHashes := user.backupCodeHashes.erase hash }
  else none

def verifyTotpLogin (store : AuthStore) (pendingToken code : String) : LoginOutcome × AuthStore :=
  let rest := manager.consumed now store pendingToken
  match manager.challenge now store .verify pendingToken with
  | none => (.badCredentials, rest)
  | some (pending, user) =>
    let succeed (store : AuthStore) : LoginOutcome × AuthStore :=
      let role := manager.parseRole user.role
      (.ok random.token role manager.config.sessionTtlSecs,
        manager.issueSession now random store pending.username role user.org)
    if manager.verifyTotp (user.totpSecret.getD "") pending.username now code then succeed rest
    else
      match manager.consumeBackupCode user code with
      | some user => succeed (rest.upsertUser user)
      | none => (.badCredentials, manager.recordLoginFailure now rest pending.username)

structure EnrollInfo where
  secret : String
  otpauthUrl : String
  pending : String
deriving DecidableEq

def enrollmentSecret (user : DbUser) : String :=
  (user.totpSecret.filter fun _ => !user.totpEnabled).getD random.secret

def beginEnrollment (store : AuthStore) (pendingToken : String) : Option EnrollInfo × AuthStore :=
  let rest := manager.consumed now store pendingToken
  match manager.challenge now store .enroll pendingToken with
  | none => (none, rest)
  | some (pending, user) =>
    let secret := enrollmentSecret random user
    match manager.platform.totpUrl secret pending.username with
    | none => (none, rest)
    | some url =>
      (some ⟨secret, url, random.token⟩,
        manager.issuePending now random
          (rest.upsertUser { user with totpSecret := some secret, totpEnabled := false })
          pending.username .enroll)

structure EnrollResult where
  token : String
  role : Role
  ttl : UInt64
  backupCodes : List String

def confirmEnrollment (store : AuthStore) (pendingToken code : String) :
    Option EnrollResult × AuthStore :=
  let rest := manager.consumed now store pendingToken
  match manager.challenge now store .enroll pendingToken with
  | none => (none, rest)
  | some (pending, user) =>
    match user.totpSecret with
    | none => (none, rest)
    | some secret =>
      if manager.verifyTotp secret pending.username now code then
        let role := manager.parseRole user.role
        let hashes := random.backupCodes.map manager.hashBackupCode
        (some ⟨random.token, role, manager.config.sessionTtlSecs, random.backupCodes⟩,
          manager.issueSession now random
            (rest.upsertUser { user with totpEnabled := true, backupCodeHashes := hashes })
            pending.username role user.org)
      else (none, rest)

inductive AuthMethod where
  | session
  | apiKey
deriving DecidableEq

structure AuthContext where
  principal : String
  role : Role
  roleName : String
  permissions : PermissionSet
  org : String
  method : AuthMethod

def contextOf (principal roleName org : String) (method : AuthMethod) : AuthContext where
  principal := principal
  role := manager.parseRole roleName
  roleName := roleName
  permissions := manager.permsFor roleName
  org := org
  method := method

def validate (store : AuthStore) (credential : String) : Option AuthContext × AuthStore :=
  let hash := manager.tokenHash credential
  match store.getAuthSession hash with
  | some session =>
    let idle := now.nanos - session.lastUsed.nanos
    if session.expiresAt.nanos ≤ now.nanos then (none, store.deleteAuthSession hash)
    else if 0 < manager.config.idleTimeoutSecs ∧
        asI64 manager.config.idleTimeoutSecs * 1000000000 < idle then
      (none, store.deleteAuthSession hash)
    else
      (some (manager.contextOf session.username session.role session.org .session),
        if 60 * 1000000000 < idle then store.touchAuthSession hash { session with lastUsed := now }
        else store)
  | none =>
    match manager.config.apiKeys.find? fun key => key.keyHash = hash with
    | some key =>
      (some (manager.contextOf ("apikey:" ++ key.name) key.role key.org .apiKey), store)
    | none => (none, store)

end AuthManager

inductive AuthCall where
  | login (username password : String)
  | setupAdmin (username password : String)
  | beginEnrollment (pendingToken : String)
  | confirmEnrollment (pendingToken code : String)
  | verifyTotpLogin (pendingToken code : String)

structure AuthEvent where
  now : DateTime
  random : AuthManager.Randomness
  call : AuthCall

def AuthCall.presents : AuthCall → Option String
  | login _ _ => none
  | setupAdmin _ _ => none
  | beginEnrollment pendingToken => some pendingToken
  | confirmEnrollment pendingToken _ => some pendingToken
  | verifyTotpLogin pendingToken _ => some pendingToken

def AuthCall.code : AuthCall → Option String
  | login _ _ => none
  | setupAdmin _ _ => none
  | beginEnrollment _ => none
  | confirmEnrollment _ code => some code
  | verifyTotpLogin _ code => some code

inductive AuthReply where
  | login (outcome : AuthManager.LoginOutcome)
  | setup (result : Except String String)
  | enrolling (info : Option AuthManager.EnrollInfo)
  | enrolled (result : Option AuthManager.EnrollResult)

def AuthReply.sessionToken : AuthReply → Option String
  | login (.ok token _ _) => some token
  | enrolled (some result) => some result.token
  | _ => none

def AuthReply.pendingToken : AuthReply → Option String
  | login (.totpRequired pending) => some pending
  | login (.enrollmentRequired pending) => some pending
  | setup (.ok pending) => some pending
  | enrolling (some info) => some info.pending
  | _ => none

namespace AuthManager

variable (manager : AuthManager)

def answer (store : AuthStore) (event : AuthEvent) : AuthReply × AuthStore :=
  match event.call with
  | .login username password =>
    (manager.login event.now event.random store username password).map .login id
  | .setupAdmin username password =>
    (manager.setupAdmin event.now event.random store username password).map .setup id
  | .beginEnrollment pendingToken =>
    (manager.beginEnrollment event.now event.random store pendingToken).map .enrolling id
  | .confirmEnrollment pendingToken code =>
    (manager.confirmEnrollment event.now event.random store pendingToken code).map .enrolled id
  | .verifyTotpLogin pendingToken code =>
    (manager.verifyTotpLogin event.now event.random store pendingToken code).map .login id

def step (store : AuthStore) (event : AuthEvent) : AuthStore := (manager.answer store event).2

def run (start : AuthStore) (events : List AuthEvent) : AuthStore :=
  events.foldl manager.step start

theorem run_append (start : AuthStore) (front later : List AuthEvent) :
    manager.run start (front ++ later) = manager.run (manager.run start front) later :=
  List.foldl_append

def Issues (store : AuthStore) (event : AuthEvent) (user : String) : Prop :=
  ∃ token session, (manager.answer store event).1.sessionToken = some token ∧
    (manager.step store event).getAuthSession (manager.tokenHash token) = some session ∧
    session.username = user

end AuthManager

namespace AuthSample

def platform : AuthPlatform where
  sha3_256Hex := hexEncode
  verifyPassword password hash := password = hash
  totpUrl secret _ := if secret = "" then none else some secret
  checkCode secret _ _ code := code = secret
  lowercase text := text

theorem lawful : platform.Lawful := ⟨fun _ => rfl⟩

def managerOf (maxFailedLogins : UInt32) : AuthManager where
  platform := platform
  config :=
    { enabled := true, sessionTtlSecs := 3600, users := [], apiKeys := [], roles := [],
      maxFailedLogins, lockoutSecs := 900, idleTimeoutSecs := 0 }

theorem tokenHash_injective (maxFailedLogins : UInt32) :
    Function.Injective (managerOf maxFailedLogins).tokenHash :=
  hexEncode_injective.comp utf8_injective

def storeOf (users : List DbUser) : AuthStore where
  users := users.foldl UserTable.upsert UserTable.empty
  pendings := ∅
  sessions := ∅
  lockouts := ∅

def callAt (second : Nat) (token secret : String) (call : AuthCall) : AuthEvent where
  now := after ⟨0⟩ second
  random := { token, secret, backupCodes := ["spare"], passwordHash := .ok "hunter2hunter2" }
  call := call

end AuthSample

end QuantaWatch.Gateway
