import QuantaWatch.Gateway.Auth

/-!
What one authentication call can do to the store.
-/

namespace QuantaWatch.Gateway

open Crypto Lib Store

inductive Effect (manager : AuthManager) (store : AuthStore) (event : AuthEvent) :
    AuthReply → AuthStore → Prop where
  | refused {reply : AuthReply} (presents : event.call.presents = none)
      (noSession : reply.sessionToken = none) : Effect manager store event reply store
  | wrongPassword {username password : String} (call : event.call = .login username password)
      (unlocked : manager.lockedFor event.now store username = none)
      (wrong : manager.passwordOk store username password = false) :
      Effect manager store event (.login .badCredentials)
        (manager.recordLoginFailure event.now store username)
  | declaredLogin {username password org : String} {role : Role}
      (call : event.call = .login username password)
      (declared : manager.declared username = true)
      (unlocked : manager.lockedFor event.now store username = none)
      (right : manager.passwordOk store username password = true) :
      Effect manager store event
        (.login (.ok event.random.token role manager.config.sessionTtlSecs))
        (manager.issueSession event.now event.random (store.clearLoginLockout username) username
          role org)
  | challenged {reply : AuthReply} {username password : String} {kind : PendingKind}
      (call : event.call = .login username password)
      (notDeclared : manager.declared username = false)
      (unlocked : manager.lockedFor event.now store username = none)
      (right : manager.passwordOk store username password = true)
      (noSession : reply.sessionToken = none)
      (handsOut : reply.pendingToken = some event.random.token) :
      Effect manager store event reply
        (manager.issuePending event.now event.random (store.clearLoginLockout username) username
          kind)
  | setUp {username password passwordHash : String}
      (call : event.call = .setupAdmin username password)
      (due : manager.setupRequired store = true) :
      Effect manager store event (.setup (.ok event.random.token))
        (manager.issuePending event.now event.random
          (store.upsertUser (AuthManager.firstAdmin (Text.trim username) passwordHash))
          (Text.trim username) .enroll)
  | spent {reply : AuthReply} {token : String} (presents : event.call.presents = some token)
      (noSession : reply.sessionToken = none)
      (unread : ∀ code, event.call = .verifyTotpLogin token code →
        manager.challenge event.now store .verify token = none) :
      Effect manager store event reply (manager.consumed event.now store token)
  | enrolling {token url : String} {pending : MfaPending} {user : DbUser}
      (call : event.call = .beginEnrollment token)
      (challenge : manager.challenge event.now store .enroll token = some (pending, user))
      (provisioned : manager.platform.totpUrl
        (AuthManager.enrollmentSecret event.random user) pending.username = some url) :
      Effect manager store event
        (.enrolling (some ⟨AuthManager.enrollmentSecret event.random user,
          url, event.random.token⟩))
        (manager.issuePending event.now event.random
          ((manager.consumed event.now store token).upsertUser
            { user with
              totpSecret := some (AuthManager.enrollmentSecret event.random user)
              totpEnabled := false })
          pending.username .enroll)
  | enrolled {token code secret : String} {pending : MfaPending} {user : DbUser}
      {result : AuthManager.EnrollResult} {role : Role} {hashes : List String}
      (call : event.call = .confirmEnrollment token code)
      (challenge : manager.challenge event.now store .enroll token = some (pending, user))
      (hasSecret : user.totpSecret = some secret)
      (valid : manager.verifyTotp secret pending.username event.now code = true)
      (handsOut : result.token = event.random.token) :
      Effect manager store event (.enrolled (some result))
        (manager.issueSession event.now event.random
          ((manager.consumed event.now store token).upsertUser
            { user with totpEnabled := true, backupCodeHashes := hashes })
          pending.username role user.org)
  | wrongCode {token code : String} {pending : MfaPending} {user : DbUser}
      (call : event.call = .verifyTotpLogin token code)
      (challenge : manager.challenge event.now store .verify token = some (pending, user))
      (notTotp :
        manager.verifyTotp (user.totpSecret.getD "") pending.username event.now code = false)
      (notBackup : manager.hashBackupCode code ∉ user.backupCodeHashes) :
      Effect manager store event (.login .badCredentials)
        (manager.recordLoginFailure event.now (manager.consumed event.now store token)
          pending.username)
  | verified {token code : String} {pending : MfaPending} {user : DbUser} {role : Role}
      (call : event.call = .verifyTotpLogin token code)
      (challenge : manager.challenge event.now store .verify token = some (pending, user))
      (valid :
        manager.verifyTotp (user.totpSecret.getD "") pending.username event.now code = true) :
      Effect manager store event
        (.login (.ok event.random.token role manager.config.sessionTtlSecs))
        (manager.issueSession event.now event.random (manager.consumed event.now store token)
          pending.username role user.org)
  | recovered {token code : String} {pending : MfaPending} {user : DbUser} {role : Role}
      (call : event.call = .verifyTotpLogin token code)
      (challenge : manager.challenge event.now store .verify token = some (pending, user))
      (backup : manager.hashBackupCode code ∈ user.backupCodeHashes) :
      Effect manager store event
        (.login (.ok event.random.token role manager.config.sessionTtlSecs))
        (manager.issueSession event.now event.random
          ((manager.consumed event.now store token).upsertUser
            { user with
              backupCodeHashes := user.backupCodeHashes.erase (manager.hashBackupCode code) })
          pending.username role user.org)

namespace AuthManager

variable (manager : AuthManager) (store : AuthStore) (event : AuthEvent)

variable {username password code : String}

theorem effect_login (call : event.call = .login username password) :
    Effect manager store event (manager.answer store event).1 (manager.answer store event).2 := by
  rw [answer, call]
  simp only [Prod.map_fst, Prod.map_snd, id_eq, login]
  cases locked : manager.lockedFor event.now store username with
  | some secs => exact .refused (by rw [call, AuthCall.presents]) rfl
  | none =>
    cases right : manager.passwordOk store username password with
    | false =>
      simp only [authenticate, right, Bool.false_eq_true, if_false]
      exact .wrongPassword call locked right
    | true =>
      cases found : manager.credentials store username with
      | none => simp [passwordOk, found] at right
      | some row =>
        cases declared : manager.declared username with
        | true =>
          simp only [authenticate, right, if_true, found, Option.map_some]
          exact .declaredLogin call declared locked right
        | false =>
          simp only [authenticate, right, if_true, found, Option.map_some,
            Bool.false_eq_true, if_false]
          split
          · exact .challenged call declared locked right rfl rfl
          · exact .challenged call declared locked right rfl rfl

theorem effect_setupAdmin (call : event.call = .setupAdmin username password) :
    Effect manager store event (manager.answer store event).1 (manager.answer store event).2 := by
  have nothing : event.call.presents = none := by rw [call, AuthCall.presents]
  rw [answer, call]
  simp only [Prod.map_fst, Prod.map_snd, id_eq, setupAdmin]
  split
  case isFalse => exact .refused nothing rfl
  case isTrue due =>
    split
    case isTrue => exact .refused nothing rfl
    case isFalse =>
      split
      case isTrue => exact .refused nothing rfl
      case isFalse =>
        split
        · exact .refused nothing rfl
        · exact .setUp call due

theorem effect_beginEnrollment {token : String} (call : event.call = .beginEnrollment token) :
    Effect manager store event (manager.answer store event).1 (manager.answer store event).2 := by
  have presents : event.call.presents = some token := by rw [call, AuthCall.presents]
  have spent {reply : AuthReply} (noSession : reply.sessionToken = none) :
      Effect manager store event reply (manager.consumed event.now store token) :=
    .spent presents noSession (by simp [call])
  rw [answer, call]
  simp only [Prod.map_fst, Prod.map_snd, id_eq, beginEnrollment]
  split
  · exact spent rfl
  · next challenge =>
      split
      · exact spent rfl
      · next provisioned => exact .enrolling call challenge provisioned

theorem effect_confirmEnrollment {token : String}
    (call : event.call = .confirmEnrollment token code) :
    Effect manager store event (manager.answer store event).1 (manager.answer store event).2 := by
  have presents : event.call.presents = some token := by rw [call, AuthCall.presents]
  have spent {reply : AuthReply} (noSession : reply.sessionToken = none) :
      Effect manager store event reply (manager.consumed event.now store token) :=
    .spent presents noSession (by simp [call])
  rw [answer, call]
  simp only [Prod.map_fst, Prod.map_snd, id_eq, confirmEnrollment]
  split
  · exact spent rfl
  · next challenge =>
      split
      · exact spent rfl
      · next hasSecret =>
          split
          case isTrue valid => exact .enrolled call challenge hasSecret valid rfl
          case isFalse => exact spent rfl

theorem effect_verifyTotpLogin {token : String} (call : event.call = .verifyTotpLogin token code) :
    Effect manager store event (manager.answer store event).1 (manager.answer store event).2 := by
  have presents : event.call.presents = some token := by rw [call, AuthCall.presents]
  rw [answer, call]
  simp only [Prod.map_fst, Prod.map_snd, id_eq, verifyTotpLogin]
  split
  · next absent => exact .spent presents rfl fun _ _ => absent
  · next pending user challenge =>
      split
      case isTrue valid => exact .verified call challenge valid
      case isFalse invalid =>
        by_cases backup : manager.hashBackupCode code ∈ user.backupCodeHashes
        · simp only [consumeBackupCode, backup, if_true]
          exact .recovered call challenge backup
        · simp only [consumeBackupCode, backup, if_false]
          exact .wrongCode call challenge (by simpa using invalid) backup

theorem effect :
    Effect manager store event (manager.answer store event).1 (manager.step store event) := by
  cases call : event.call with
  | login username password => exact manager.effect_login store event call
  | setupAdmin username password => exact manager.effect_setupAdmin store event call
  | beginEnrollment token => exact manager.effect_beginEnrollment store event call
  | confirmEnrollment token code => exact manager.effect_confirmEnrollment store event call
  | verifyTotpLogin token code => exact manager.effect_verifyTotpLogin store event call

variable {manager store} {now : DateTime} {kind : PendingKind} {token : String}
  {pending : MfaPending} {user : DbUser}

theorem challenge_eq_some : manager.challenge now store kind token = some (pending, user) ↔
      store.livePending now (manager.tokenHash token) = some pending ∧ pending.kind = kind ∧
        store.getUser pending.username = some user := by
  cases live : store.livePending now (manager.tokenHash token) with
  | none => simp [challenge, live]
  | some found =>
    cases row : store.getUser found.username with
    | none => grind [challenge]
    | some other => grind [challenge]

inductive Starts (manager : AuthManager) (store : AuthStore) (event : AuthEvent) (user : String) :
    Prop where
  | password {given : String} (call : event.call = .login user given)
      (right : manager.passwordOk store user given = true)
  | setup {name given : String} (call : event.call = .setupAdmin name given)
      (absent : store.getUser user = none)
      (created : ((manager.step store event).getUser user).isSome)

def restPendings (manager : AuthManager) (store : AuthStore) (event : AuthEvent) :
    AList fun _ : String => MfaPending :=
  event.call.presents.elim store.pendings fun token =>
    store.pendings.erase (manager.tokenHash token)

inductive Grants (manager : AuthManager) (store : AuthStore) (event : AuthEvent) (user : String) :
    Prop where
  | first (starts : Starts manager store event user)
  | next {token : String} {pending : MfaPending} (presents : event.call.presents = some token)
      (live : store.livePending event.now (manager.tokenHash token) = some pending)
      (same : pending.username = user)

@[simp] theorem pendings_recordLoginFailure :
    (manager.recordLoginFailure now store username).pendings = store.pendings := by
  unfold recordLoginFailure
  split <;> rfl

theorem restPendings_none {event : AuthEvent} (presents : event.call.presents = none) :
    manager.restPendings store event = store.pendings := by
  rw [restPendings, presents, Option.elim_none]

theorem restPendings_some {event : AuthEvent} (presents : event.call.presents = some token) :
    manager.restPendings store event = store.pendings.erase (manager.tokenHash token) := by
  rw [restPendings, presents, Option.elim_some]

theorem getUser_of_setupRequired {name : String} (due : manager.setupRequired store = true) :
    store.getUser name = none := by
  unfold setupRequired UserTable.isEmpty at due
  rw [Bool.and_eq_true, List.isEmpty_iff, List.isEmpty_iff] at due
  unfold AuthStore.getUser UserTable.get AList.lookup
  rw [due.2, List.dlookup_nil]

theorem pendings_step (store : AuthStore) (event : AuthEvent) :
    (manager.step store event).pendings = manager.restPendings store event ∨
      ∃ user kind, (manager.step store event).pendings =
          (manager.restPendings store event).insert (manager.tokenHash event.random.token)
            ⟨user, kind, after event.now pendingSecs⟩ ∧
        (manager.answer store event).1.pendingToken = some event.random.token ∧
        Grants manager store event user := by
  have effect := manager.effect store event
  generalize resultIs : manager.step store event = next at effect ⊢
  generalize (manager.answer store event).1 = reply at effect ⊢
  cases effect with
  | refused presents noSession => exact .inl (restPendings_none presents).symm
  | wrongPassword call unlocked wrong =>
    apply Or.inl
    rw [pendings_recordLoginFailure, restPendings_none (by rw [call, AuthCall.presents])]
  | declaredLogin call declared unlocked right =>
    exact .inl (restPendings_none (by rw [call, AuthCall.presents])).symm
  | @challenged _ username _ kind call notDeclared unlocked right noSession handsOut =>
    refine .inr ⟨username, kind, ?_, handsOut, .first (.password call right)⟩
    rw [restPendings_none (by rw [call, AuthCall.presents])]
    rfl
  | @setUp username _ _ call due =>
    refine .inr ⟨Text.trim username, .enroll, ?_, rfl, .first (.setup call ?_ ?_)⟩
    · rw [restPendings_none (by rw [call, AuthCall.presents])]
      rfl
    · exact getUser_of_setupRequired due
    · rw [resultIs]
      exact Option.isSome_of_mem UserTable.get_upsert
  | spent presents noSession => exact .inl (restPendings_some presents).symm
  | @enrolling token url pending user call challenge provisioned =>
    have presents : event.call.presents = some token := by rw [call, AuthCall.presents]
    have live := (challenge_eq_some.mp challenge).1
    refine .inr ⟨pending.username, .enroll, ?_, rfl, .next presents live rfl⟩
    rw [restPendings_some presents]
    rfl
  | enrolled call challenge hasSecret valid handsOut =>
    exact .inl (restPendings_some (by rw [call, AuthCall.presents])).symm
  | wrongCode call challenge notTotp notBackup =>
    apply Or.inl
    rw [pendings_recordLoginFailure, restPendings_some (by rw [call, AuthCall.presents])]
    rfl
  | verified call challenge valid =>
    exact .inl (restPendings_some (by rw [call, AuthCall.presents])).symm
  | recovered call challenge backup =>
    exact .inl (restPendings_some (by rw [call, AuthCall.presents])).symm

end AuthManager

end QuantaWatch.Gateway
