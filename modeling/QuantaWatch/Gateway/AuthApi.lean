import QuantaWatch.Audit.Entry
import QuantaWatch.Gateway.AuthEffects
import QuantaWatch.Gateway.Oidc

/-!
The sign-in endpoints and what they audit
(`qw-gateway/src/admin/auth_api.rs`, `oidc.rs`).
-/

namespace QuantaWatch.Gateway

open Audit Crypto Lib Store

structure ProxyHeaders where
  forwardedFor : Option String
  realIp : Option String

def clientIp (headers : ProxyHeaders) : String :=
  ((headers.forwardedFor.map fun text =>
    Text.trim (String.ofList (text.toList.takeWhile (· ≠ ',')))) <|> headers.realIp).getD "unknown"

inductive SignInReply where
  | session (token : String) (role : Role) (expiresIn : UInt64) (username : Option String)
      (backupCodes : List String)
  | challenge (status pending : String)
  | enrolling (info : AuthManager.EnrollInfo)
  | locked (retryAfterSecs : Nat)
  | error (status : Nat) (message : String)
  | oidc (reply : OidcReply)
deriving DecidableEq

def SignInReply.sessionToken : SignInReply → Option String
  | session token _ _ _ _ => some token
  | oidc (.signedIn _ _ token) => some token
  | _ => none

abbrev Logged := String × AuditEvent

namespace AuthApi

open AuthManager

variable (ip : String)

def login (username : String) : LoginOutcome → SignInReply × List Logged
  | .ok token role ttl =>
    (.session token role ttl (some username) [],
      [(username, .loginSucceeded username "password" ip)])
  | .totpRequired pending => (.challenge "totp_required" pending, [])
  | .enrollmentRequired pending => (.challenge "enroll_required" pending, [])
  | .lockedOut retryAfterSecs => (.locked retryAfterSecs, [(username, .loginFailed username ip)])
  | .badCredentials => (.error 401 "invalid credentials", [(username, .loginFailed username ip)])

def setup (username : String) : Except String String → SignInReply × List Logged
  | .ok pending =>
    (.challenge "enroll_required" pending,
      [(username, .loginSucceeded username "first-run-setup" ip)])
  | .error reason => (.error 409 reason, [])

def verify2fa : LoginOutcome → SignInReply × List Logged
  | .ok token role ttl => (.session token role ttl none [], [])
  | _ => (.error 401 "invalid or expired code", [("unknown", .loginFailed "2fa" ip)])

def enrollBegin : Option EnrollInfo → SignInReply × List Logged
  | some info => (.enrolling info, [])
  | none => (.error 401 "invalid or expired enrollment session", [])

def enrollConfirm : Option EnrollResult → SignInReply × List Logged
  | some result => (.session result.token result.role result.ttl none result.backupCodes, [])
  | none => (.error 401 "invalid code or enrollment session", [])

end AuthApi

inductive SignInRequest where
  | login (username password : String)
  | setup (username password : String)
  | verify2fa (pending code : String)
  | enrollBegin (pending : String)
  | enrollConfirm (pending code : String)
  | oidcLogin
  | oidcCallback (params : CallbackParams)

structure SignInEvent where
  now : DateTime
  random : AuthManager.Randomness
  headers : ProxyHeaders
  answers : OidcAnswers
  request : SignInRequest

structure SignInSystem where
  manager : AuthManager
  oidc : Option OidcConfig

structure SignInResult where
  reply : SignInReply
  logged : List Logged
  store : SignInStore

namespace SignInSystem

open AuthManager

variable (system : SignInSystem)

def handle (store : SignInStore) (event : SignInEvent) : SignInResult :=
  let manager := system.manager
  let ip := clientIp event.headers
  let handled {α : Type} (handler : α → SignInReply × List Logged) (result : α × AuthStore) :
      SignInResult :=
    ⟨(handler result.1).1, (handler result.1).2, { store with auth := result.2 }⟩
  let viaOidc (result : OidcReply × SignInStore) : SignInResult := ⟨.oidc result.1, [], result.2⟩
  match event.request with
  | .login username password =>
    handled (AuthApi.login ip username)
      (manager.login event.now event.random store.auth username password)
  | .setup username password =>
    handled (AuthApi.setup ip username)
      (manager.setupAdmin event.now event.random store.auth username password)
  | .verify2fa pending code =>
    handled (AuthApi.verify2fa ip)
      (manager.verifyTotpLogin event.now event.random store.auth pending code)
  | .enrollBegin pending =>
    handled AuthApi.enrollBegin
      (manager.beginEnrollment event.now event.random store.auth pending)
  | .enrollConfirm pending code =>
    handled AuthApi.enrollConfirm
      (manager.confirmEnrollment event.now event.random store.auth pending code)
  | .oidcLogin => viaOidc (oidcLogin system.oidc event.now event.random event.answers store)
  | .oidcCallback params =>
    viaOidc (manager.callback system.oidc event.now event.random event.answers store params)

def step (store : SignInStore) (event : SignInEvent) : SignInStore :=
  (system.handle store event).store

def run (start : SignInStore) (events : List SignInEvent) : SignInStore :=
  events.foldl system.step start

def attempts : SignInRequest → Option String
  | .verify2fa pending _ => some pending
  | .enrollConfirm pending _ => some pending
  | _ => none

structure Audited (store : SignInStore) (event : SignInEvent) : Prop where
  succeeded : ∀ token, (system.handle store event).reply.sessionToken = some token →
    ∃ session method ip,
      (system.step store event).auth.getAuthSession (system.manager.tokenHash token) =
        some session ∧
      AuditEvent.loginSucceeded session.username method ip ∈
        (system.handle store event).logged.map Prod.snd
  failed : (system.handle store event).reply.sessionToken = none →
    ∀ token pending, attempts event.request = some token →
      store.auth.livePending event.now (system.manager.tokenHash token) = some pending →
      ∃ ip, AuditEvent.loginFailed pending.username ip ∈
        (system.handle store event).logged.map Prod.snd

def codeAccepted (store : SignInStore) (now : DateTime) (token code : String) : Prop :=
  ∃ pending user, system.manager.challenge now store.auth .verify token = some (pending, user) ∧
    (system.manager.verifyTotp (user.totpSecret.getD "") pending.username now code = true ∨
      system.manager.hashBackupCode code ∈ user.backupCodeHashes)

def callbackAccepted (store : SignInStore) (event : SignInEvent) (params : CallbackParams) : Prop :=
  system.oidc.isSome ∧ params.error = none ∧ params.code.isSome ∧
    (∃ state, params.state = some state ∧ liveOidcState event.now store state = true) ∧
    ∃ claims, exchange event.answers = .ok claims

def Condition (store : SignInStore) (event : SignInEvent) : Prop :=
  match event.request with
  | .verify2fa token code =>
    ∀ pending, store.auth.livePending event.now (system.manager.tokenHash token) = some pending →
      pending.username = "2fa" ∧ ¬ system.codeAccepted store event.now token code
  | .enrollConfirm token _ =>
    store.auth.livePending event.now (system.manager.tokenHash token) = none
  | .oidcCallback params => ¬ system.callbackAccepted store event params
  | _ => True

variable {system} {store : SignInStore} {event : SignInEvent}

private theorem audited_iff_of_unlogged (unlogged : (system.handle store event).logged = []) :
    system.Audited store event ↔
      (system.handle store event).reply.sessionToken = none ∧
        ∀ token, attempts event.request = some token →
          store.auth.livePending event.now (system.manager.tokenHash token) = none := by
  constructor
  · intro audited
    have nothing : (system.handle store event).reply.sessionToken = none := by
      cases handsOut : (system.handle store event).reply.sessionToken with
      | none => rfl
      | some token =>
        rcases audited.succeeded token handsOut with ⟨_, _, _, _, member⟩
        simp [unlogged] at member
    refine ⟨nothing, ?_⟩
    intro token attempt
    cases live : store.auth.livePending event.now (system.manager.tokenHash token) with
    | none => rfl
    | some pending =>
      rcases audited.failed nothing token pending attempt live with ⟨_, member⟩
      simp [unlogged] at member
  · intro quiet
    refine ⟨?_, ?_⟩
    · intro token handsOut
      rw [quiet.1] at handsOut
      contradiction
    · intro _ token pending attempt live
      rw [quiet.2 token attempt] at live
      contradiction

private theorem audited_of_nothing (noAttempt : attempts event.request = none)
    (nothing : (system.handle store event).reply.sessionToken = none) :
    system.Audited store event := by
  refine ⟨?_, ?_⟩
  · intro token handsOut
    rw [nothing] at handsOut
    contradiction
  · intro _ token pending attempt
    rw [noAttempt] at attempt
    contradiction

variable {username password token code : String} {params : CallbackParams}

private theorem login_ok {manager : AuthManager} {now : DateTime} {random : Randomness}
    {auth : AuthStore} {role : Role} {ttl : UInt64}
    (ok : (manager.login now random auth username password).1 = .ok token role ttl) :
    ∃ session, (manager.login now random auth username password).2.getAuthSession
        (manager.tokenHash token) = some session ∧ session.username = username := by
  unfold AuthManager.login at ok ⊢
  cases locked : manager.lockedFor now auth username with
  | some secs => simp [locked] at ok
  | none =>
    cases found : manager.authenticate auth username password with
    | none => simp [locked, found] at ok
    | some row =>
      cases declared : manager.declared username with
      | true =>
        simp only [locked, found, declared, if_true, LoginOutcome.ok.injEq] at ok
        rw [← ok.1]
        exact ⟨_, AList.lookup_insert _, rfl⟩
      | false =>
        simp only [locked, found, declared, Bool.false_eq_true, if_false] at ok
        split at ok <;> contradiction

private theorem audited_login (request : event.request = .login username password) :
    system.Audited store event := by
  refine ⟨?_, ?_⟩
  · intro token handsOut
    simp only [step, handle, request] at handsOut ⊢
    cases outcome : (system.manager.login event.now event.random store.auth username password).1
      with
    | ok issued role ttl =>
      rw [outcome] at handsOut
      cases handsOut
      rcases login_ok outcome with ⟨session, stored, name⟩
      refine ⟨session, "password", clientIp event.headers, stored, ?_⟩
      simp [AuthApi.login, name]
    | totpRequired pending => rw [outcome] at handsOut; contradiction
    | enrollmentRequired pending => rw [outcome] at handsOut; contradiction
    | badCredentials => rw [outcome] at handsOut; contradiction
    | lockedOut secs => rw [outcome] at handsOut; contradiction
  · intro _ token pending attempt
    rw [request] at attempt
    contradiction

private theorem verifyTotpLogin_accepted (event : SignInEvent)
    (accepted : system.codeAccepted store event.now token code) :
    ∃ role ttl, (system.manager.verifyTotpLogin event.now event.random store.auth token code).1 =
      .ok event.random.token role ttl := by
  rcases accepted with ⟨pending, user, challenge, valid⟩
  simp only [verifyTotpLogin, challenge]
  by_cases totp : system.manager.verifyTotp (user.totpSecret.getD "") pending.username event.now
      code = true
  · exact ⟨_, _, by rw [if_pos totp]⟩
  · rw [if_neg totp, consumeBackupCode]
    simp only [if_pos (valid.resolve_left totp)]
    exact ⟨_, _, rfl⟩

private theorem verifyTotpLogin_rejected (event : SignInEvent)
    (rejected : ¬ system.codeAccepted store event.now token code) :
    (system.manager.verifyTotpLogin event.now event.random store.auth token code).1 =
      .badCredentials := by
  unfold verifyTotpLogin
  cases challenge : system.manager.challenge event.now store.auth .verify token with
  | none => rfl
  | some found =>
    have wrong : ¬ (system.manager.verifyTotp (found.2.totpSecret.getD "") found.1.username
        event.now code = true ∨
        system.manager.hashBackupCode code ∈ found.2.backupCodeHashes) :=
      fun valid => rejected ⟨found.1, found.2, challenge, valid⟩
    rw [not_or] at wrong
    simp only [if_neg wrong.1, consumeBackupCode, if_neg wrong.2]

private theorem audited_verify2fa_iff (request : event.request = .verify2fa token code) :
    system.Audited store event ↔ system.Condition store event := by
  have attempt : attempts event.request = some token := by rw [request]; rfl
  simp only [Condition, request]
  by_cases accepted : system.codeAccepted store event.now token code
  · rcases verifyTotpLogin_accepted event accepted with ⟨role, ttl, ok⟩
    have unlogged : (system.handle store event).logged = [] := by
      simp only [handle, request, ok, AuthApi.verify2fa]
    have handsOut : (system.handle store event).reply.sessionToken = some event.random.token := by
      simp only [handle, request, ok, AuthApi.verify2fa, SignInReply.sessionToken]
    rw [audited_iff_of_unlogged unlogged, handsOut]
    rcases accepted with ⟨pending, user, challenge, valid⟩
    have live := (challenge_eq_some.mp challenge).1
    constructor
    · intro quiet
      exact absurd quiet.1 (by simp)
    · intro condition
      exact absurd ⟨pending, user, challenge, valid⟩ (condition pending live).2
  · have rejected := verifyTotpLogin_rejected event accepted
    have nothing : (system.handle store event).reply.sessionToken = none := by
      simp only [handle, request, rejected, AuthApi.verify2fa, SignInReply.sessionToken]
    have logged : (system.handle store event).logged.map Prod.snd =
        [.loginFailed "2fa" (clientIp event.headers)] := by
      simp only [handle, request, rejected, AuthApi.verify2fa, List.map_cons, List.map_nil]
    constructor
    · intro audited pending live
      rcases audited.failed nothing token pending attempt live with ⟨ip, member⟩
      rw [logged, List.mem_singleton, AuditEvent.loginFailed.injEq] at member
      exact ⟨member.1, accepted⟩
    · intro condition
      refine ⟨?_, ?_⟩
      · intro token handsOut
        rw [nothing] at handsOut
        contradiction
      · intro _ presented pending presents live
        rw [attempt, Option.some.injEq] at presents
        subst presents
        rw [logged, (condition pending live).1]
        exact ⟨_, List.mem_singleton_self _⟩

private theorem audited_enrollConfirm_iff (request : event.request = .enrollConfirm token code) :
    system.Audited store event ↔ system.Condition store event := by
  have unlogged : (system.handle store event).logged = [] := by
    simp only [handle, request]
    cases (system.manager.confirmEnrollment event.now event.random store.auth token code).1 <;> rfl
  rw [audited_iff_of_unlogged unlogged]
  simp only [Condition, request, attempts, Option.some.injEq, forall_eq']
  constructor
  · exact fun quiet => quiet.2
  · intro dead
    refine ⟨?_, dead⟩
    simp [handle, request, confirmEnrollment, challenge, dead, AuthApi.enrollConfirm,
      SignInReply.sessionToken]

private theorem callback_sessionToken :
    (SignInReply.oidc (system.manager.callback system.oidc event.now event.random event.answers
      store params).1).sessionToken = none ↔ ¬ system.callbackAccepted store event params := by
  rcases params with ⟨code, state, error⟩
  unfold callback callbackAccepted
  cases system.oidc with
  | none => simp [SignInReply.sessionToken]
  | some config =>
    cases error with
    | some reason => simp [SignInReply.sessionToken]
    | none =>
      cases code with
      | none => simp [SignInReply.sessionToken]
      | some code =>
        cases state with
        | none => simp [SignInReply.sessionToken]
        | some nonce =>
          cases live : liveOidcState event.now store nonce with
          | false => simp [live, SignInReply.sessionToken]
          | true =>
            cases exchange event.answers with
            | error reply => simp [live, SignInReply.sessionToken]
            | ok claims => simp [live, SignInReply.sessionToken]

private theorem audited_oidcCallback_iff (request : event.request = .oidcCallback params) :
    system.Audited store event ↔ system.Condition store event := by
  have unlogged : (system.handle store event).logged = [] := by simp only [handle, request]
  rw [audited_iff_of_unlogged unlogged]
  simp only [Condition, request, attempts, reduceCtorEq, false_implies, implies_true, and_true,
    handle]
  exact callback_sessionToken

private theorem audited_iff (store : SignInStore) (event : SignInEvent) :
    system.Audited store event ↔ system.Condition store event := by
  cases request : event.request with
  | login username password => simp [Condition, request, audited_login request]
  | setup username password =>
    have nothing : (system.handle store event).reply.sessionToken = none := by
      simp only [handle, request]
      cases (system.manager.setupAdmin event.now event.random store.auth username password).1 <;>
        rfl
    simp [Condition, request, audited_of_nothing (by rw [request]; rfl) nothing]
  | verify2fa token code => exact audited_verify2fa_iff request
  | enrollBegin token =>
    have nothing : (system.handle store event).reply.sessionToken = none := by
      simp only [handle, request]
      cases (system.manager.beginEnrollment event.now event.random store.auth token).1 <;> rfl
    simp [Condition, request, audited_of_nothing (by rw [request]; rfl) nothing]
  | enrollConfirm token code => exact audited_enrollConfirm_iff request
  | oidcLogin =>
    have nothing : (system.handle store event).reply.sessionToken = none := by
      simp only [handle, request, AuthManager.oidcLogin]
      split
      · rfl
      · split <;> rfl
    simp [Condition, request, audited_of_nothing (by rw [request]; rfl) nothing]
  | oidcCallback params => exact audited_oidcCallback_iff request

/-- Every request of a sequence is audited if and only if each meets its condition in
the state before it. -/
theorem audited_run_iff (system : SignInSystem) (start : SignInStore) (events : List SignInEvent) :
    (∀ front event later, events = front ++ event :: later →
      system.Audited (system.run start front) event) ↔
    ∀ front event later, events = front ++ event :: later →
      system.Condition (system.run start front) event := by
  simp only [audited_iff]

section Sample

open AuthSample

def signInSample : SignInSystem := ⟨managerOf 0, none⟩

def eve : DbUser := ⟨"eve", "operator", "default", "hunter2hunter2", some "JBSW", true, []⟩

def signInAt (second : Nat) (token : String) (request : SignInRequest) : SignInEvent where
  now := after ⟨0⟩ second
  random := ⟨token, "", [], .error "unused"⟩
  headers := ⟨none, some "10.0.0.7"⟩
  answers := ⟨false, .error "", .error "", .error ""⟩
  request := request

theorem second_step_unaudited :
    let start : SignInStore := ⟨storeOf [eve], ∅⟩
    let store := signInSample.run start [signInAt 0 "p" (.login "eve" "hunter2hunter2")]
    let right := signInSample.handle store (signInAt 1 "s" (.verify2fa "p" "JBSW"))
    let wrong := signInSample.handle store (signInAt 1 "s" (.verify2fa "p" "000000"))
    (store.auth.livePending (after ⟨0⟩ 1) ((managerOf 0).tokenHash "p")).map MfaPending.username =
        some "eve" ∧
      right.reply.sessionToken = some "s" ∧ right.logged.length = 0 ∧
      wrong.reply = .error 401 "invalid or expired code" ∧
      (wrong.logged.map fun logged => match logged.2 with
        | .loginFailed username _ => username
        | _ => "") = ["2fa"] := by
  decide +kernel

end Sample

end SignInSystem

end QuantaWatch.Gateway
