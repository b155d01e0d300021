import QuantaWatch.Gateway.Oidc
import QuantaWatch.Gateway.SetupRace
import QuantaWatch.Gateway.UsersApi

/-!
The requests that sign users in or manage them, as the store operations
that they make, one at a time (`auth.rs`, `oidc.rs`, `users_api.rs`).
-/

namespace QuantaWatch.Gateway

open Crypto Lib Lib.Encoding Lib.Interleaving Store

structure Replicas where
  users : UsersApi
  oidc : Option OidcConfig

def Replicas.manager (replicas : Replicas) : AuthManager := replicas.users.manager

inductive Request where
  | auth (call : AuthCall)
  | oidcLogin (answers : OidcAnswers)
  | callback (params : CallbackParams) (answers : OidcAnswers)
  | users (request : UserRequest)

inductive Reply where
  | auth (reply : AuthReply)
  | oidc (reply : OidcReply)
  | users (reply : UserReply)

inductive Purpose where
  | verify (code : String)
  | begin
  | confirm (code : String)

namespace Purpose

def kind : Purpose → PendingKind
  | verify _ => .verify
  | begin => .enroll
  | confirm _ => .enroll

def refused : Purpose → Reply
  | verify _ => .auth (.login .badCredentials)
  | begin => .auth (.enrolling none)
  | confirm _ => .auth (.enrolled none)

end Purpose

inductive PendingReply where
  | totpRequired
  | enrollmentRequired
  | enrolling (secret url : String)

def PendingReply.reply (token : String) : PendingReply → Reply
  | totpRequired => .auth (.login (.totpRequired token))
  | enrollmentRequired => .auth (.login (.enrollmentRequired token))
  | enrolling secret url => .auth (.enrolling (some ⟨secret, url, token⟩))

inductive SessionReply where
  | login
  | enrolled (backupCodes : List String)
  | signedIn (appUrl : String)

def SessionReply.reply (role : Role) (ttl : UInt64) (token : String) : SessionReply → Reply
  | login => .auth (.login (.ok token role ttl))
  | enrolled backupCodes => .auth (.enrolled (some ⟨token, role, ttl, backupCodes⟩))
  | signedIn appUrl =>
    .oidc (.signedIn appUrl (if appUrl.contains '?' then '&' else '?') token)

inductive Sequel where
  | pending (username : String) (reply : PendingReply)
  | session (username : String) (role : Role) (org : String) (reply : SessionReply)
  | finish (reply : UserReply)

inductive Phase where
  /-- `get_login_lockout` of `login` -/
  | login (username password : String)
  /-- `get_user` of `login`, for the password -/
  | loginUser (since : DateTime) (username password : String)
  /-- `get_login_lockout` of `record_login_failure` -/
  | failureRead (since : DateTime) (username : String)
  /-- `put_login_lockout` -/
  | failureWrite (username : String) (state : LockoutState)
  /-- `clear_login_lockout` -/
  | clearLockout (username roleName org : String)
  /-- `get_user` of `login`, for the second factor -/
  | loginEnrolled (username : String)
  /-- `put_mfa_pending` -/
  | putPending (username : String) (kind : PendingKind) (reply : PendingReply)
  /-- `put_auth_session` -/
  | putSession (username : String) (role : Role) (org : String) (reply : SessionReply)
  | setup (phase : SetupPhase)
  /-- the `SELECT` of `consume_mfa_pending` -/
  | selectPending (tokenHash : String) (purpose : Purpose)
  /-- the `DELETE` of `consume_mfa_pending` -/
  | deletePending (tokenHash : String) (purpose : Purpose) (found : Option MfaPending)
  /-- `get_user` of the user of a challenge -/
  | factorUser (username : String) (purpose : Purpose)
  /-- `upsert_user`, of a row that the request read before, with the backup code that
  it takes out -/
  | putUser (user : DbUser) (spent : Option String) (sequel : Sequel)
  /-- `put_oidc_state` -/
  | putNonce (location : String)
  /-- the `SELECT` of `consume_oidc_state` -/
  | selectNonce (config : OidcConfig) (answers : OidcAnswers) (state : String)
  /-- the `DELETE` of `consume_oidc_state` -/
  | deleteNonce (config : OidcConfig) (answers : OidcAnswers) (state : String)
      (expiresAt : DateTime)
  /-- `get_user` of `create_user` -/
  | createUser (tenant : String) (body : CreateUser)
  /-- `get_user` of `update_user` -/
  | updateUser (username : String) (body : UpdateUser)
  /-- `get_user` of `delete_user` -/
  | deleteUser (principal : Option String) (username : String)
  /-- `Store::delete_user` -/
  | deleteRow (username : String)
  /-- `delete_sessions_for_user` -/
  | deleteSessions (username : String)
  | done (reply : Reply)

namespace Sequel

def phase : Sequel → Phase
  | pending username reply => .putPending username .enroll reply
  | session username role org reply => .putSession username role org reply
  | finish reply => .done (.users reply)

end Sequel

def Phase.ofSetup : SetupPhase → Phase
  | .done result => .done (.auth (.setup result))
  | phase => .setup phase

namespace Replicas

variable (replicas : Replicas)

def update (moment : Moment) (store : SignInStore) : Phase → SignInStore
  | .failureWrite username state =>
    { store with auth := store.auth.putLoginLockout username state }
  | .clearLockout username _ _ => { store with auth := store.auth.clearLoginLockout username }
  | .putPending username kind _ =>
    { store with
      auth := replicas.manager.issuePending moment.now moment.random store.auth username kind }
  | .putSession username role org _ =>
    { store with
      auth := replicas.manager.issueSession moment.now moment.random store.auth username role
        org }
  | .setup phase =>
    { store with auth := (replicas.manager.setupStep moment store.auth phase).2 }
  | .deletePending tokenHash _ _ =>
    { store with auth := (store.auth.consumeMfaPending moment.now tokenHash).2 }
  | .putUser user _ _ => { store with auth := store.auth.upsertUser user }
  | .putNonce _ => AuthManager.beginOidc moment.now moment.random store
  | .deleteNonce _ _ state _ => (store.consumeOidcState state).2
  | .deleteRow username => { store with auth := store.auth.deleteUser username }
  | .deleteSessions username =>
    { store with
      auth := store.auth.deleteSessionsForUser replicas.users.platform replicas.users.backend
        username }
  | _ => store

def challenged (moment : Moment) (purpose : Purpose) (found : Option MfaPending) :
    Option MfaPending :=
  found.filter fun pending =>
    moment.now.nanos < pending.expiresAt.nanos && pending.kind = purpose.kind

def factorNext (moment : Moment) (username : String) (user : DbUser) : Purpose → Phase
  | .verify code =>
    let role := replicas.manager.parseRole user.role
    if replicas.manager.verifyTotp (user.totpSecret.getD "") username moment.now code then
      .putSession username role user.org .login
    else
      match replicas.manager.consumeBackupCode user code with
      | some rest =>
        .putUser rest (some (replicas.manager.hashBackupCode code))
          (.session username role user.org .login)
      | none => .failureRead moment.now username
  | .begin =>
    let secret := AuthManager.enrollmentSecret moment.random user
    match replicas.manager.platform.totpUrl secret username with
    | none => .done (.auth (.enrolling none))
    | some url =>
      .putUser { user with totpSecret := some secret, totpEnabled := false } none
        (.pending username (.enrolling secret url))
  | .confirm code =>
    match user.totpSecret with
    | none => .done (.auth (.enrolled none))
    | some secret =>
      if replicas.manager.verifyTotp secret username moment.now code then
        .putUser
          { user with
            totpEnabled := true
            backupCodeHashes :=
              moment.random.backupCodes.map replicas.manager.hashBackupCode }
          none
          (.session username (replicas.manager.parseRole user.role) user.org
            (.enrolled moment.random.backupCodes))
      else .done (.auth (.enrolled none))

def createNext (moment : Moment) (store : AuthStore) (tenant : String) (body : CreateUser) :
    Phase :=
  let refuse (status : Nat) (message : String) (roles : Option (List String)) : Phase :=
    .done (.users (.error status message roles))
  let username := Text.trim body.username
  if username = "" ∨ (utf8 body.password).length < 8 then
    refuse 400 "username required and password must be at least 8 characters" none
  else if body.role ∉ replicas.users.knownRoles then
    refuse 400 ("unknown role '" ++ body.role ++ "'") (some replicas.users.knownRoles)
  else if replicas.manager.declared username then
    refuse 409 "a config-defined user already has that name" none
  else if (store.getUser username).isSome then refuse 409 "user already exists" none
  else
    match moment.random.passwordHash with
    | .error reason => refuse 500 ("hash failed: " ++ reason) none
    | .ok passwordHash =>
      let org := body.org.getD tenant
      .putUser
        { username, role := body.role, org, passwordHash, totpSecret := none,
          totpEnabled := false, backupCodeHashes := [] }
        none (.finish (.created username body.role org))

def updateNext (moment : Moment) (store : AuthStore) (username : String) (body : UpdateUser) :
    Phase :=
  match store.getUser username with
  | none =>
    .done (.users
      (.error 404 "no such runtime user (config users are edited in the YAML)" none))
  | some user =>
    match do
      UsersApi.withPassword moment.random (← replicas.users.withRole user body.role)
        body.password with
    | .error reply => .done (.users reply)
    | .ok user => .putUser user none (.finish (.updated user.username user.role))

def next (moment : Moment) (store : SignInStore) : Phase → Phase
  | .login username password =>
    match replicas.manager.lockedFor moment.now store.auth username with
    | some secs => .done (.auth (.login (.lockedOut secs)))
    | none => .loginUser moment.now username password
  | .loginUser since username password =>
    match replicas.manager.authenticate store.auth username password with
    | none => .failureRead since username
    | some (roleName, org) => .clearLockout username roleName org
  | .failureRead since username =>
    if replicas.manager.config.maxFailedLogins = 0 then .done (.auth (.login .badCredentials))
    else
      .failureWrite username (replicas.manager.addFailure since
        (AuthManager.countedFrom since (store.auth.getLoginLockout username)))
  | .failureWrite _ _ => .done (.auth (.login .badCredentials))
  | .clearLockout username roleName org =>
    if replicas.manager.declared username then
      .putSession username (replicas.manager.parseRole roleName) org .login
    else .loginEnrolled username
  | .loginEnrolled username =>
    if ((store.auth.getUser username).map DbUser.totpEnabled).getD false then
      .putPending username .verify .totpRequired
    else .putPending username .enroll .enrollmentRequired
  | .putPending _ _ reply => .done (reply.reply moment.random.token)
  | .putSession _ role _ reply =>
    .done (reply.reply role replicas.manager.config.sessionTtlSecs moment.random.token)
  | .setup phase => .ofSetup (replicas.manager.setupStep moment store.auth phase).1
  | .selectPending tokenHash purpose =>
    .deletePending tokenHash purpose (store.auth.pendings.lookup tokenHash)
  | .deletePending _ purpose found =>
    match challenged moment purpose found with
    | none => .done purpose.refused
    | some pending => .factorUser pending.username purpose
  | .factorUser username purpose =>
    match store.auth.getUser username with
    | none => .done purpose.refused
    | some user => replicas.factorNext moment username user purpose
  | .putUser _ _ sequel => sequel.phase
  | .putNonce location => .done (.oidc (.authorize (location ++ moment.random.token)))
  | .selectNonce config answers state =>
    match store.oidcStates.lookup state with
    | none => .done (.oidc (.error 400 "invalid or expired state"))
    | some expiresAt => .deleteNonce config answers state expiresAt
  | .deleteNonce config answers _ expiresAt =>
    if moment.now.nanos < expiresAt.nanos then
      match AuthManager.exchange answers with
      | .error (status, text) => .done (.oidc (.error status text))
      | .ok claims =>
        let (username, role, org) := mapClaims claims config
        .putSession username role org (.signedIn config.appUrl)
    else .done (.oidc (.error 400 "invalid or expired state"))
  | .createUser tenant body => replicas.createNext moment store.auth tenant body
  | .updateUser username body => replicas.updateNext moment store.auth username body
  | .deleteUser principal username =>
    if principal = some username then
      .done (.users (.error 400 "you can't delete the account you're signed in as" none))
    else if (store.auth.getUser username).isNone then
      .done (.users
        (.error 404 "no such runtime user (config users are removed from the YAML)" none))
    else .deleteRow username
  | .deleteRow username => .deleteSessions username
  | .deleteSessions username => .done (.users (.deleted username))
  | .done reply => .done reply

def start : Request → Phase
  | .auth (.login username password) => .login username password
  | .auth (.setupAdmin username password) => .setup (.check username password)
  | .auth (.beginEnrollment pendingToken) =>
    .selectPending (replicas.manager.tokenHash pendingToken) .begin
  | .auth (.confirmEnrollment pendingToken code) =>
    .selectPending (replicas.manager.tokenHash pendingToken) (.confirm code)
  | .auth (.verifyTotpLogin pendingToken code) =>
    .selectPending (replicas.manager.tokenHash pendingToken) (.verify code)
  | .oidcLogin answers =>
    match replicas.oidc with
    | none => .done (.oidc (.error 404 "OIDC not configured"))
    | some config =>
      match answers.discovery with
      | .error reason => .done (.oidc (.error 502 ("OIDC discovery failed: " ++ reason)))
      | .ok endpoint =>
        .putNonce (endpoint ++ "?response_type=code&client_id=" ++
          urlencoding config.clientId ++ "&redirect_uri=" ++
          urlencoding config.redirectUri ++ "&scope=" ++
          urlencoding "openid email profile groups" ++ "&state=")
  | .callback params answers =>
    match replicas.oidc with
    | none => .done (.oidc (.error 404 "OIDC not configured"))
    | some config =>
      match params.error, params.code, params.state with
      | some reason, _, _ => .done (.oidc (.error 401 ("IdP error: " ++ reason)))
      | none, some _, some state => .selectNonce config answers state
      | none, _, _ => .done (.oidc (.error 400 "missing code/state"))
  | .users (.create tenant body) => .createUser tenant body
  | .users (.update username body) => .updateUser username body
  | .users (.delete principal username) => .deleteUser principal username

end Replicas

inductive Credential where
  | pending (tokenHash : String)
  | nonce (state : String)
  | backup (username hash : String)
deriving DecidableEq

namespace Replicas

variable (replicas : Replicas)

def accepts (moment : Moment) : Phase → Option Credential
  | .deletePending tokenHash purpose found =>
    (challenged moment purpose found).map fun _ => .pending tokenHash
  | .deleteNonce _ _ state expiresAt =>
    if moment.now.nanos < expiresAt.nanos then some (.nonce state) else none
  | .putUser user spent _ => spent.map (.backup user.username)
  | _ => none

def machine : Machine Moment SignInStore Phase Credential where
  step moment store phase := (replicas.next moment store phase, replicas.update moment store phase)
  accepts moment _ phase := accepts moment phase

def answer (moment : Moment) (store : SignInStore) : Request → Reply × SignInStore
  | .auth call =>
    let answered := replicas.manager.answer store.auth ⟨moment.now, moment.random, call⟩
    (.auth answered.1, { store with auth := answered.2 })
  | .oidcLogin answers =>
    (AuthManager.oidcLogin replicas.oidc moment.now moment.random answers store).map .oidc id
  | .callback params answers =>
    (replicas.manager.callback replicas.oidc moment.now moment.random answers store params).map
      .oidc id
  | .users request =>
    let answered := replicas.users.answer moment.random store.auth request
    (.users answered.1, { store with auth := answered.2 })

variable {replicas} {moment : Moment} {store : SignInStore}

variable {final : Phase × SignInStore}

/-- The end of a request that made this of the user tables. -/
def ended {α : Type} (store : SignInStore) (reply : α → Reply) (result : α × AuthStore) :
    Phase × SignInStore :=
  (.done (reply result.1), { store with auth := result.2 })

theorem reaches_of_next {phase : Phase} (rest : replicas.machine.Reaches moment
      (replicas.next moment store phase, replicas.update moment store phase) final) :
    replicas.machine.Reaches moment (phase, store) final :=
  .head rest

theorem reaches_failure (username : String) :
    replicas.machine.Reaches moment (.failureRead moment.now username, store)
      (.done (.auth (.login .badCredentials)),
        { store with
          auth := replicas.manager.recordLoginFailure moment.now store.auth username }) := by
  apply reaches_of_next
  by_cases unlimited : replicas.manager.config.maxFailedLogins = 0
  · simp only [next, update, AuthManager.recordLoginFailure, if_pos unlimited]
    exact .refl
  · simp only [next, update, AuthManager.recordLoginFailure, if_neg unlimited]
    exact .head .refl

theorem reaches_login (username password : String) :
    replicas.machine.Reaches moment (.login username password, store) (ended store (.auth ∘ .login)
      (replicas.manager.login moment.now moment.random store.auth username password)) := by
  apply reaches_of_next
  simp only [next, update, AuthManager.login]
  cases locked : replicas.manager.lockedFor moment.now store.auth username with
  | some secs => exact .refl
  | none =>
    apply reaches_of_next
    simp only [next, update]
    cases replicas.manager.authenticate store.auth username password with
    | none => exact reaches_failure username
    | some found =>
      apply reaches_of_next
      simp only [next, update]
      by_cases declared : replicas.manager.declared username = true
      · simp only [if_pos declared]
        exact .head .refl
      · simp only [if_neg declared]
        apply reaches_of_next
        simp only [next, update]
        split_ifs <;> exact .head .refl

theorem reaches_setup (username password : String) :
    replicas.machine.Reaches moment (.setup (.check username password), store)
      (ended store (.auth ∘ .setup)
        (replicas.manager.setupAdmin moment.now moment.random store.auth username password)) := by
  apply reaches_of_next
  simp only [next, update]
  rcases AuthManager.setupStep_check replicas.manager moment store.auth username password with
    ⟨reason, stepped, whole⟩ | ⟨user, _, _, stepped, whole⟩
  · rw [stepped, whole]
    exact .refl
  · rw [stepped, whole]
    exact .head (.head .refl)

theorem challenge_eq (purpose : Purpose) (pendingToken : String) :
    replicas.manager.challenge moment.now store.auth purpose.kind pendingToken =
      (challenged moment purpose
        (store.auth.pendings.lookup (replicas.manager.tokenHash pendingToken))).bind fun pending =>
          (store.auth.getUser pending.username).map fun user => (pending, user) := by
  rw [AuthManager.challenge, AuthStore.livePending, challenged]
  cases store.auth.pendings.lookup (replicas.manager.tokenHash pendingToken) with
  | none => rfl
  | some pending =>
    by_cases live : moment.now.nanos < pending.expiresAt.nanos <;>
      by_cases kind : pending.kind = purpose.kind <;>
      simp [Option.filter_some, live, kind, Option.map_eq_bind]

theorem reaches_challenge {pendingToken : String} {purpose : Purpose}
    (refused : replicas.manager.challenge moment.now store.auth purpose.kind pendingToken = none →
      final = (.done purpose.refused,
        { store with auth := replicas.manager.consumed moment.now store.auth pendingToken }))
    (goesOn : ∀ pending user,
      replicas.manager.challenge moment.now store.auth purpose.kind pendingToken =
        some (pending, user) →
      replicas.machine.Reaches moment
        (replicas.factorNext moment pending.username user purpose,
          { store with auth := replicas.manager.consumed moment.now store.auth pendingToken })
        final) :
    replicas.machine.Reaches moment
      (.selectPending (replicas.manager.tokenHash pendingToken) purpose, store) final := by
  rw [challenge_eq] at refused
  simp only [challenge_eq] at goesOn
  apply reaches_of_next
  apply reaches_of_next
  simp only [next, update]
  cases found : challenged moment purpose
      (store.auth.pendings.lookup (replicas.manager.tokenHash pendingToken)) with
  | none =>
    rw [found] at refused
    rw [refused rfl]
    exact .refl
  | some pending =>
    simp only [found, Option.bind_some] at refused goesOn
    apply reaches_of_next
    simp only [next, update, AuthStore.consumeMfaPending, AuthStore.getUser] at *
    cases present : store.auth.users.get pending.username with
    | none =>
      rw [present] at refused
      rw [refused rfl]
      exact .refl
    | some user =>
      apply goesOn pending user
      rw [present, Option.map_some]

theorem reaches_verify (pendingToken code : String) : replicas.machine.Reaches moment
      (.selectPending (replicas.manager.tokenHash pendingToken) (.verify code), store)
      (ended store (.auth ∘ .login) (replicas.manager.verifyTotpLogin moment.now moment.random
        store.auth pendingToken code)) := by
  apply reaches_challenge
  · intro none
    simp only [Purpose.kind] at none
    simp only [AuthManager.verifyTotpLogin, none, Purpose.refused]
    rfl
  · intro pending user found
    simp only [Purpose.kind] at found
    simp only [AuthManager.verifyTotpLogin, found, factorNext]
    split_ifs
    · exact .head .refl
    · cases replicas.manager.consumeBackupCode user code with
      | none => exact reaches_failure pending.username
      | some rest => exact .head (.head .refl)

theorem reaches_begin (pendingToken : String) : replicas.machine.Reaches moment
      (.selectPending (replicas.manager.tokenHash pendingToken) .begin, store)
      (ended store (.auth ∘ .enrolling) (replicas.manager.beginEnrollment moment.now moment.random
        store.auth pendingToken)) := by
  apply reaches_challenge
  · intro none
    simp only [Purpose.kind] at none
    simp only [AuthManager.beginEnrollment, none, Purpose.refused]
    rfl
  · intro pending user found
    simp only [Purpose.kind] at found
    simp only [AuthManager.beginEnrollment, found, factorNext]
    cases replicas.manager.platform.totpUrl (AuthManager.enrollmentSecret moment.random user)
        pending.username with
    | none => exact .refl
    | some url => exact .head (.head .refl)

theorem reaches_confirm (pendingToken code : String) : replicas.machine.Reaches moment
      (.selectPending (replicas.manager.tokenHash pendingToken) (.confirm code), store)
      (ended store (.auth ∘ .enrolled) (replicas.manager.confirmEnrollment moment.now moment.random
        store.auth pendingToken code)) := by
  apply reaches_challenge
  · intro none
    simp only [Purpose.kind] at none
    simp only [AuthManager.confirmEnrollment, none, Purpose.refused]
    rfl
  · intro pending user found
    simp only [Purpose.kind] at found
    simp only [AuthManager.confirmEnrollment, found, factorNext]
    cases user.totpSecret with
    | none => exact .refl
    | some secret =>
      by_cases accepted :
          replicas.manager.verifyTotp secret pending.username moment.now code = true
      · simp only [if_pos accepted]
        exact .head (.head .refl)
      · simp only [if_neg accepted]
        exact .refl

theorem reaches_nonce {config : OidcConfig} (isConfig : replicas.oidc = some config)
    (answers : OidcAnswers) (code state : String) :
    replicas.machine.Reaches moment (.selectNonce config answers state, store)
      ((replicas.manager.callback replicas.oidc moment.now moment.random answers store
        ⟨some code, some state, none⟩).map (fun reply => .done (.oidc reply)) id) := by
  simp only [isConfig, AuthManager.callback]
  apply reaches_of_next
  cases found : store.oidcStates.lookup state with
  | none =>
    have unchanged : (store.consumeOidcState state).2 = store := by
      have absent : state ∉ store.oidcStates := AList.lookup_eq_none.mp found
      have erased : store.oidcStates.erase state = store.oidcStates :=
        AList.ext (List.kerase_of_notMem_keys absent)
      simp only [SignInStore.consumeOidcState, erased]
    have dead : AuthManager.liveOidcState moment.now store state = false := by
      simp [AuthManager.liveOidcState, found]
    simp only [next, update, found, dead, unchanged]
    exact .refl
  | some expiresAt =>
    have live : AuthManager.liveOidcState moment.now store state =
        decide (moment.now.nanos < expiresAt.nanos) := by
      simp [AuthManager.liveOidcState, found]
    simp only [next, update, found, live, decide_eq_true_eq]
    apply reaches_of_next
    by_cases unexpired : moment.now.nanos < expiresAt.nanos
    · simp only [next, update, if_pos unexpired]
      cases AuthManager.exchange answers with
      | error reason => exact .refl
      | ok claims => exact .head .refl
    · simp only [next, update, if_neg unexpired]
      exact .refl

theorem reaches_callback (params : CallbackParams) (answers : OidcAnswers) :
    replicas.machine.Reaches moment (replicas.start (.callback params answers), store)
      ((replicas.manager.callback replicas.oidc moment.now moment.random answers store params).map
        (fun reply => .done (.oidc reply)) id) := by
  simp only [start]
  cases isConfig : replicas.oidc with
  | none => exact .refl
  | some config =>
    rcases params with ⟨code, state, error⟩
    cases error with
    | some reason => exact .refl
    | none =>
      cases code with
      | none => exact .refl
      | some code =>
        cases state with
        | none => exact .refl
        | some state =>
          have reached := @reaches_nonce replicas moment store config isConfig answers code state
          rwa [isConfig] at reached

theorem reaches_users (request : UserRequest) :
    replicas.machine.Reaches moment (replicas.start (.users request), store)
      (ended store .users (replicas.users.answer moment.random store.auth request)) := by
  cases request with
  | create tenant body =>
    apply reaches_of_next
    simp only [start, next, update, createNext, UsersApi.answer, UsersApi.createUser, manager]
    split_ifs
    · exact .refl
    · exact .refl
    · exact .refl
    · cases moment.random.passwordHash with
      | error reason => exact .refl
      | ok passwordHash => exact .head .refl
    · exact .refl
  | update username body =>
    apply reaches_of_next
    simp only [start, next, update, updateNext, UsersApi.answer, UsersApi.updateUser]
    cases store.auth.getUser username with
    | none => exact .refl
    | some user =>
      simp only
      cases replicas.users.withRole user body.role >>= fun changed =>
          UsersApi.withPassword moment.random changed body.password with
      | error reply => exact .refl
      | ok changed => exact .head .refl
  | delete principal username =>
    apply reaches_of_next
    simp only [start, next, update, UsersApi.answer, UsersApi.deleteUser]
    split_ifs
    · exact .refl
    · exact .refl
    · exact .head (.head .refl)

theorem reaches_answer (request : Request) :
    replicas.machine.Reaches moment (replicas.start request, store)
      ((replicas.answer moment store request).map .done id) := by
  cases request with
  | auth call =>
    cases call with
    | login username password => exact reaches_login username password
    | setupAdmin username password => exact reaches_setup username password
    | beginEnrollment pendingToken => exact reaches_begin pendingToken
    | confirmEnrollment pendingToken code => exact reaches_confirm pendingToken code
    | verifyTotpLogin pendingToken code => exact reaches_verify pendingToken code
  | oidcLogin answers =>
    simp only [start, answer, AuthManager.oidcLogin]
    cases replicas.oidc with
    | none => exact .refl
    | some config =>
      cases answers.discovery with
      | error reason => exact .refl
      | ok endpoint => exact .head .refl
  | callback params answers => exact reaches_callback params answers
  | users request => exact reaches_users request

end Replicas

end QuantaWatch.Gateway
