import QuantaWatch.Gateway.AuthEffects
import QuantaWatch.Lib.Transition

/-!
The permissions of a session against those of its user's role.
-/

namespace QuantaWatch.Gateway

open Crypto Lib Store

def AuthPlatform.FixesLabels (platform : AuthPlatform) : Prop :=
  ∀ role : Role, platform.lowercase role.label = role.label

namespace AuthManager

variable (manager : AuthManager)

def givenRole (store : AuthStore) (event : AuthEvent) : Option String :=
  match event.call with
  | .login username password => (manager.authenticate store username password).map Prod.fst
  | .verifyTotpLogin pendingToken _ =>
    (manager.challenge event.now store .verify pendingToken).map fun found => found.2.role
  | .confirmEnrollment pendingToken _ =>
    (manager.challenge event.now store .enroll pendingToken).map fun found => found.2.role
  | _ => none

def Issued (event : AuthEvent) (token roleName : String) (store : AuthStore) : Prop :=
  ∃ session, store.getAuthSession (manager.tokenHash token) = some session ∧
    session.role = (manager.parseRole roleName).label ∧
    session.expiresAt = after event.now (asI64 manager.config.sessionTtlSecs) ∧
    session.lastUsed = event.now

variable {manager} {store : AuthStore} {event : AuthEvent} {token roleName : String}

variable {username pendingToken code hash : String} {now : DateTime}

theorem issued_issueSession {base : AuthStore} {org : String} :
    manager.Issued event event.random.token roleName (manager.issueSession event.now event.random
      base username (manager.parseRole roleName) org) :=
  ⟨_, AList.lookup_insert _, rfl, rfl, rfl⟩

theorem issued_login {password : String} (call : event.call = .login username password)
    (issued : (manager.answer store event).1.sessionToken = some token)
    (given : manager.givenRole store event = some roleName) :
    manager.Issued event token roleName (manager.step store event) := by
  simp only [givenRole, call] at given
  rw [step]
  simp only [answer, call, Prod.map_fst, Prod.map_snd, id_eq, login] at issued ⊢
  cases locked : manager.lockedFor event.now store username with
  | some secs => simp [locked, AuthReply.sessionToken] at issued
  | none =>
    cases found : manager.authenticate store username password with
    | none => simp [found] at given
    | some row =>
      rw [found, Option.map_some, Option.some.injEq] at given
      subst given
      cases declared : manager.declared username with
      | true =>
        simp only [locked, found, declared, if_true, AuthReply.sessionToken,
          Option.some.injEq] at issued
        rw [← issued]
        exact issued_issueSession
      | false =>
        simp only [locked, found, declared, Bool.false_eq_true, if_false] at issued
        split at issued <;> simp [AuthReply.sessionToken] at issued

theorem issued_verifyTotpLogin (call : event.call = .verifyTotpLogin pendingToken code)
    (issued : (manager.answer store event).1.sessionToken = some token)
    (given : manager.givenRole store event = some roleName) :
    manager.Issued event token roleName (manager.step store event) := by
  simp only [givenRole, call] at given
  rw [step]
  simp only [answer, call, Prod.map_fst, Prod.map_snd, id_eq, verifyTotpLogin] at issued ⊢
  cases found : manager.challenge event.now store .verify pendingToken with
  | none => simp [found] at given
  | some pair =>
    rw [found, Option.map_some, Option.some.injEq] at given
    subst given
    simp only [found] at issued ⊢
    by_cases valid : manager.verifyTotp (pair.2.totpSecret.getD "") pair.1.username event.now
        code = true
    · rw [if_pos valid] at issued ⊢
      rw [← Option.some.inj issued]
      exact issued_issueSession
    · rw [if_neg valid] at issued ⊢
      cases spent : manager.consumeBackupCode pair.2 code with
      | none => simp [spent, AuthReply.sessionToken] at issued
      | some user =>
        simp only [spent, AuthReply.sessionToken, Option.some.injEq] at issued
        rw [← issued]
        exact issued_issueSession

theorem issued_confirmEnrollment (call : event.call = .confirmEnrollment pendingToken code)
    (issued : (manager.answer store event).1.sessionToken = some token)
    (given : manager.givenRole store event = some roleName) :
    manager.Issued event token roleName (manager.step store event) := by
  simp only [givenRole, call] at given
  rw [step]
  simp only [answer, call, Prod.map_fst, Prod.map_snd, id_eq, confirmEnrollment] at issued ⊢
  cases found : manager.challenge event.now store .enroll pendingToken with
  | none => simp [found] at given
  | some pair =>
    rw [found, Option.map_some, Option.some.injEq] at given
    subst given
    simp only [found] at issued ⊢
    cases has : pair.2.totpSecret with
    | none => simp [has, AuthReply.sessionToken] at issued
    | some secret =>
      simp only [has] at issued
      by_cases valid : manager.verifyTotp secret pair.1.username event.now code = true
      · rw [if_pos valid] at issued
        simp only [if_pos valid]
        rw [← Option.some.inj issued]
        exact issued_issueSession
      · rw [if_neg valid] at issued
        simp [AuthReply.sessionToken] at issued

theorem issued_step (issued : (manager.answer store event).1.sessionToken = some token)
    (given : manager.givenRole store event = some roleName) :
    manager.Issued event token roleName (manager.step store event) := by
  cases call : event.call with
  | login username password => exact issued_login call issued given
  | setupAdmin username password => simp [givenRole, call] at given
  | beginEnrollment pendingToken => simp [givenRole, call] at given
  | confirmEnrollment pendingToken code => exact issued_confirmEnrollment call issued given
  | verifyTotpLogin pendingToken code => exact issued_verifyTotpLogin call issued given

theorem getAuthSession_step (fresh : manager.tokenHash event.random.token ≠ hash) :
    (manager.step store event).getAuthSession hash = store.getAuthSession hash := by
  have issuing {base : AuthStore} {username org : String} {role : Role}
      (same : base.sessions = store.sessions) :
      (manager.issueSession event.now event.random base username role org).getAuthSession hash =
        store.getAuthSession hash := by
    rw [AuthStore.getAuthSession, AuthStore.getAuthSession, ← same]
    exact AList.lookup_insert_ne fresh.symm
  have failing {base : AuthStore} {username : String} (same : base.sessions = store.sessions) :
      (manager.recordLoginFailure event.now base username).getAuthSession hash =
        store.getAuthSession hash := by
    unfold recordLoginFailure
    split
    · rw [AuthStore.getAuthSession, AuthStore.getAuthSession, same]
    · rw [AuthStore.getAuthSession, AuthStore.getAuthSession, ← same]
      rfl
  have effect := manager.effect store event
  generalize manager.step store event = next at effect ⊢
  generalize (manager.answer store event).1 = reply at effect
  cases effect with
  | refused => rfl
  | wrongPassword => exact failing rfl
  | declaredLogin => exact issuing rfl
  | challenged => rfl
  | setUp => rfl
  | spent => rfl
  | enrolling => rfl
  | enrolled => exact issuing rfl
  | wrongCode => exact failing rfl
  | verified => exact issuing rfl
  | recovered => exact issuing rfl

theorem getAuthSession_run {events : List AuthEvent}
    (fresh : ∀ event ∈ events, manager.tokenHash event.random.token ≠ hash) :
    (manager.run store events).getAuthSession hash = store.getAuthSession hash := by
  apply Transition.foldl_history
    fun _ (next : AuthStore) => next.getAuthSession hash = store.getAuthSession hash
  · rfl
  · intro history event later split same
    exact (getAuthSession_step (fresh event (by simp [split]))).trans same

structure LiveSession (manager : AuthManager) (now : DateTime) (store : AuthStore)
    (credential : String) (session : AuthSession) : Prop where
  stored : store.getAuthSession (manager.tokenHash credential) = some session
  unexpired : now.nanos < session.expiresAt.nanos
  busy : manager.config.idleTimeoutSecs = 0 ∨
    now.nanos - session.lastUsed.nanos ≤ asI64 manager.config.idleTimeoutSecs * 1000000000

theorem validate_of_live {credential : String} {session : AuthSession}
    (live : LiveSession manager now store credential session) :
    (manager.validate now store credential).1 =
      some (manager.contextOf session.username session.role session.org .session) := by
  have unexpired : ¬ session.expiresAt.nanos ≤ now.nanos := Int.not_le.mpr live.unexpired
  have busy : ¬ (0 < manager.config.idleTimeoutSecs ∧
      asI64 manager.config.idleTimeoutSecs * 1000000000 < now.nanos - session.lastUsed.nanos) := by
    rcases live.busy with off | recent
    · simp [off]
    · omega
  simp only [validate, live.stored, if_neg unexpired, if_neg busy]

def SessionLive (manager : AuthManager) (issuedAt now : DateTime) : Prop :=
  now.nanos < (after issuedAt (asI64 manager.config.sessionTtlSecs)).nanos ∧
    (manager.config.idleTimeoutSecs = 0 ∨
      now.nanos - issuedAt.nanos ≤ asI64 manager.config.idleTimeoutSecs * 1000000000)

theorem permissions_of_issued (issued : manager.Issued event token roleName store)
    (live : manager.SessionLive event.now now) :
    ∃ context, (manager.validate now store token).1 = some context ∧
      context.permissions = manager.permsFor (manager.parseRole roleName).label := by
  rcases issued with ⟨session, stored, role, expires, used⟩
  refine ⟨_, validate_of_live ⟨stored, ?_, ?_⟩, ?_⟩
  · rw [expires]
    exact live.1
  · rw [used]
    exact live.2
  · rw [← role]
    rfl

theorem permsFor_label_of_builtin {role : Role} (labels : manager.platform.FixesLabels)
    (builtin : manager.platform.lowercase roleName = role.label) :
    manager.permsFor (manager.parseRole roleName).label = manager.permsFor roleName := by
  have same : manager.parseRole roleName = role := by
    unfold parseRole
    rw [builtin]
    cases role <;> rfl
  rw [same, permsFor, permsFor, labels role, builtin]

theorem parseRole_of_custom
    (custom : ∀ role : Role, manager.platform.lowercase roleName ≠ role.label) :
    manager.parseRole roleName = .viewer := by
  unfold parseRole
  split
  · next isAdmin => exact absurd isAdmin (custom .admin)
  · next isOperator => exact absurd isOperator (custom .operator)
  · next isAuditor => exact absurd isAuditor (custom .auditor)
  · rfl

/-- A session that a call issues gives exactly the permissions of its user's role if
and only if the name of the role, in lower case, is that of a built-in role, or the
role allows what the role called viewer allows. -/
theorem sessionPermissions_iff {now : DateTime} {later : List AuthEvent}
    (labels : manager.platform.FixesLabels)
    (handsOut : (manager.answer store event).1.sessionToken = some token)
    (given : manager.givenRole store event = some roleName)
    (fresh : ∀ other ∈ later, manager.tokenHash other.random.token ≠ manager.tokenHash token)
    (live : manager.SessionLive event.now now) :
    ∃ context,
      (manager.validate now (manager.run (manager.step store event) later) token).1 =
        some context ∧
      ((∀ permission, context.permissions.allows permission =
          (manager.permsFor roleName).allows permission) ↔
        (∃ role : Role, manager.platform.lowercase roleName = role.label) ∨
          ∀ permission, (manager.permsFor roleName).allows permission =
            (manager.permsFor "viewer").allows permission) := by
  have issued : manager.Issued event token roleName
      (manager.run (manager.step store event) later) := by
    rcases issued_step handsOut given with ⟨session, stored, rest⟩
    exact ⟨session, (getAuthSession_run fresh).trans stored, rest⟩
  rcases permissions_of_issued issued live with ⟨context, validated, permissions⟩
  refine ⟨context, validated, ?_⟩
  rw [permissions]
  by_cases known : ∃ role : Role, manager.platform.lowercase roleName = role.label
  · rcases known with ⟨role, builtin⟩
    rw [permsFor_label_of_builtin labels builtin]
    exact ⟨fun _ => .inl ⟨role, builtin⟩, fun _ _ => rfl⟩
  · rw [parseRole_of_custom fun role isLabel => known ⟨role, isLabel⟩]
    constructor
    · exact fun same => .inr fun permission => (same permission).symm
    · intro holds permission
      exact ((holds.resolve_left known) permission).symm

section Sample

open AuthSample

def releaseManager : AuthManager where
  platform := AuthSample.platform
  config :=
    { enabled := true, sessionTtlSecs := 3600
      users :=
        [⟨"ann", "secret-a", "operator", "default"⟩, ⟨"rob", "secret-r", "release", "default"⟩]
      apiKeys := [], roles := [("release", ["remediation:write"])], maxFailedLogins := 0
      lockoutSecs := 900, idleTimeoutSecs := 0 }

theorem fixesLabels_platform : AuthSample.platform.FixesLabels := fun _ => rfl

theorem operator_session_permissions :
    ∃ context,
      (releaseManager.validate (after ⟨0⟩ 5) (releaseManager.run (releaseManager.step (storeOf [])
        (callAt 1 "token-a" "" (.login "ann" "secret-a"))) []) "token-a").1 = some context ∧
      ((∀ permission, context.permissions.allows permission =
          (releaseManager.permsFor "operator").allows permission) ↔
        (∃ role : Role, releaseManager.platform.lowercase "operator" = role.label) ∨
          ∀ permission, (releaseManager.permsFor "operator").allows permission =
            (releaseManager.permsFor "viewer").allows permission) := by
  apply sessionPermissions_iff fixesLabels_platform
  · decide +kernel
  · decide +kernel
  · simp
  · exact ⟨by decide, .inl rfl⟩

theorem release_session_permissions :
    (releaseManager.permsFor "release").allows "remediation:write" = true ∧
      ((releaseManager.validate (after ⟨0⟩ 5) (releaseManager.step (storeOf [])
        (callAt 1 "token-r" "" (.login "rob" "secret-r"))) "token-r").1.map fun context =>
          (context.permissions.allows "remediation:write",
            context.permissions.allows "audit:read")) = some (false, true) := by
  decide +kernel

end Sample

end AuthManager

end QuantaWatch.Gateway
