import QuantaWatch.Gateway.AuthEffects
import QuantaWatch.Lib.Transition

/-!
Sessions of database users over whole runs of authentication calls.
-/

namespace QuantaWatch.Gateway.AuthManager

open Crypto Lib Store

variable (manager : AuthManager)

def accepted (store : AuthStore) (event : AuthEvent) : Option String :=
  event.call.presents.filter fun token =>
    (store.livePending event.now (manager.tokenHash token)).isSome

def acceptances (store : AuthStore) : List AuthEvent → List String
  | [] => []
  | event :: events =>
    (manager.accepted store event).toList ++ acceptances (manager.step store event) events

def minted (events : List AuthEvent) : List String := events.map fun event => event.random.token

def Seen (events : List AuthEvent) (token : String) : Prop :=
  ∃ event ∈ events, event.random.token = token ∨ event.call.presents = some token

structure Fresh (events : List AuthEvent) : Prop where
  distinct : (minted events).Nodup
  collisionFree : Set.InjOn manager.tokenHash {token | Seen events token}

inductive Chain (start : AuthStore) :
    List AuthEvent → String → List String → String → DateTime → Prop where
  | first {front later : List AuthEvent} {event : AuthEvent} {user token : String}
      (starts : Starts manager (manager.run start front) event user)
      (handsOut : (manager.answer (manager.run start front) event).1.pendingToken = some token) :
      Chain start (front ++ event :: later) user [] token event.now
  | next {front later : List AuthEvent} {event : AuthEvent} {user previous token : String}
      {used : List String} {issuedAt : DateTime}
      (chain : Chain start front user used previous issuedAt)
      (uses : manager.accepted (manager.run start front) event = some previous)
      (inTime : event.now.nanos < (after issuedAt pendingSecs).nanos)
      (handsOut : (manager.answer (manager.run start front) event).1.pendingToken = some token) :
      Chain start (front ++ event :: later) user (used ++ [previous]) token event.now

def CodeValid (row : DbUser) (now : DateTime) (code : String) : Prop :=
  (∃ secret, row.totpSecret = some secret ∧
    manager.verifyTotp secret row.username now code = true) ∨
  manager.hashBackupCode code ∈ row.backupCodeHashes

variable {manager} {start store : AuthStore} {event : AuthEvent} {token user : String}

theorem accepted_eq_some : manager.accepted store event = some token ↔
      event.call.presents = some token ∧
        ∃ pending, store.livePending event.now (manager.tokenHash token) = some pending := by
  rw [accepted, Option.filter_eq_some_iff, Option.isSome_iff_exists]

theorem acceptances_append (start : AuthStore) (front later : List AuthEvent) :
    manager.acceptances start (front ++ later) =
      manager.acceptances start front ++ manager.acceptances (manager.run start front) later := by
  induction front generalizing start with
  | nil => rfl
  | cons event front ih =>
    rw [List.cons_append, acceptances, ih, acceptances, List.append_assoc]
    rfl

variable {later history : List AuthEvent}

theorem mem_acceptances_of_accepted {front : List AuthEvent}
    (uses : manager.accepted (manager.run start front) event = some token) :
    token ∈ manager.acceptances start (front ++ event :: later) := by
  rw [acceptances_append, acceptances, uses]
  simp

variable {used : List String} {issuedAt now : DateTime} {random : Randomness} {base : AuthStore}
    {org : String} {role : Role} {session : AuthSession} {row : DbUser}

theorem Chain.append (chain : Chain manager start history user used token issuedAt) :
    Chain manager start (history ++ later) user used token issuedAt := by
  cases chain with
  | first starts handsOut =>
    rw [List.append_assoc, List.cons_append]
    exact .first starts handsOut
  | next chain uses inTime handsOut =>
    rw [List.append_assoc, List.cons_append]
    exact .next chain uses inTime handsOut

theorem Chain.used_accepted (chain : Chain manager start history user used token issuedAt) :
    ∀ link ∈ used, link ∈ manager.acceptances start history := by
  induction chain with
  | first starts handsOut => simp
  | next chain uses inTime handsOut ih =>
    intro link linked
    rcases List.mem_append.mp linked with earlier | last
    · rw [acceptances_append]
      exact List.mem_append_left _ (ih link earlier)
    · rw [List.mem_singleton.mp last]
      exact mem_acceptances_of_accepted uses

def IssuedBy (manager : AuthManager) (start : AuthStore) (history : List AuthEvent) (hash : String)
    (pending : MfaPending) : Prop :=
  ∃ used token issuedAt, manager.tokenHash token = hash ∧ token ∈ minted history ∧
    pending.expiresAt = after issuedAt pendingSecs ∧
    Chain manager start history pending.username used token issuedAt

structure Tracked (manager : AuthManager) (start : AuthStore) (history : List AuthEvent)
    (store : AuthStore) : Prop where
  issued : ∀ hash pending, store.pendings.lookup hash = some pending →
    IssuedBy manager start history hash pending
  gone : ∀ token ∈ manager.acceptances start history,
    token ∈ minted history ∧ store.pendings.lookup (manager.tokenHash token) = none
  once : (manager.acceptances start history).Nodup

section Step

variable {events history later : List AuthEvent} {pending : MfaPending} {hash : String}

theorem lookup_of_restPendings
    (found : (manager.restPendings store event).lookup hash = some pending) :
    store.pendings.lookup hash = some pending := by
  cases presents : event.call.presents with
  | none => rwa [restPendings_none presents] at found
  | some token =>
    rw [restPendings_some presents] at found
    by_cases same : hash = manager.tokenHash token
    · rw [same, AList.lookup_erase] at found
      contradiction
    · rwa [AList.lookup_erase_ne same] at found

theorem restPendings_of_accepted (uses : manager.accepted store event = some token) :
    (manager.restPendings store event).lookup (manager.tokenHash token) = none := by
  rw [restPendings_some (accepted_eq_some.mp uses).1]
  exact AList.lookup_erase _ _

theorem mem_minted_append (drawn : token ∈ minted history) : token ∈ minted (history ++ later) := by
  rw [minted, List.map_append]
  exact List.mem_append_left _ drawn

theorem seen_of_minted (split : events = history ++ event :: later)
    (drawn : token ∈ minted history) : Seen events token := by
  rcases List.mem_map.mp drawn with ⟨earlier, member, rfl⟩
  rw [split]
  exact ⟨earlier, List.mem_append_left _ member, .inl rfl⟩

theorem Tracked.issued_of_accepted (tracked : Tracked manager start history store)
    (fresh : manager.Fresh events) (split : events = history ++ event :: later)
    (presents : event.call.presents = some token)
    (live : store.livePending event.now (manager.tokenHash token) = some pending) :
    token ∈ minted history ∧ ∃ used issuedAt, event.now.nanos < (after issuedAt pendingSecs).nanos ∧
      Chain manager start history pending.username used token issuedAt := by
  rw [AuthStore.livePending_eq_some] at live
  rcases tracked.issued _ _ live.1 with ⟨used, other, issuedAt, same, drawn, expires, chain⟩
  have equal : other = token := by
    apply fresh.collisionFree (seen_of_minted split drawn) _ same
    exact ⟨event, by simp [split], .inr presents⟩
  subst equal
  rw [expires] at live
  exact ⟨drawn, used, issuedAt, live.2, chain⟩

theorem Fresh.hash_ne (fresh : manager.Fresh events) (split : events = history ++ event :: later)
    (drawn : token ∈ minted history) :
    manager.tokenHash token ≠ manager.tokenHash event.random.token := by
  intro same
  have equal : token = event.random.token := by
    apply fresh.collisionFree (seen_of_minted split drawn) _ same
    exact ⟨event, by simp [split], .inl rfl⟩
  have distinct := fresh.distinct
  rw [split, minted, List.map_append, List.map_cons, List.nodup_append] at distinct
  exact distinct.2.2 token drawn event.random.token (List.mem_cons_self ..) equal

theorem lookup_step_eq_none (fresh : manager.Fresh events)
    (split : events = history ++ event :: later) (drawn : token ∈ minted history)
    (absent : (manager.restPendings store event).lookup (manager.tokenHash token) = none) :
    (manager.step store event).pendings.lookup (manager.tokenHash token) = none := by
  rcases manager.pendings_step store event with same | ⟨owner, kind, same, _⟩
  · rw [same, absent]
  · rw [same, AList.lookup_insert_ne (fresh.hash_ne split drawn), absent]

theorem IssuedBy.append (issued : IssuedBy manager start history hash pending) :
    IssuedBy manager start (history ++ later) hash pending := by
  rcases issued with ⟨used, token, issuedAt, same, drawn, expires, chain⟩
  exact ⟨used, token, issuedAt, same, mem_minted_append drawn, expires, chain.append⟩

variable (tracked : Tracked manager start history (manager.run start history))

include tracked

theorem Tracked.issued_step (fresh : manager.Fresh events)
    (split : events = history ++ event :: later)
    (found : (manager.step (manager.run start history) event).pendings.lookup hash = some pending) :
    IssuedBy manager start (history ++ [event]) hash pending := by
  have kept (old : (manager.restPendings (manager.run start history) event).lookup hash =
      some pending) : IssuedBy manager start (history ++ [event]) hash pending :=
    (tracked.issued _ _ (lookup_of_restPendings old)).append
  rcases manager.pendings_step (manager.run start history) event with
    same | ⟨owner, kind, same, handsOut, grants⟩
  · exact kept (by rwa [← same])
  · by_cases new : hash = manager.tokenHash event.random.token
    · rw [same, new, AList.lookup_insert] at found
      rw [← Option.some.inj found, new]
      have drawn : event.random.token ∈ minted (history ++ [event]) := by simp [minted]
      cases grants with
      | first starts =>
        exact ⟨[], event.random.token, event.now, rfl, drawn, rfl, .first starts handsOut⟩
      | @next previous earlier presents live owned =>
        rcases (tracked.issued_of_accepted fresh split presents live).2 with
          ⟨used, issuedAt, inTime, chain⟩
        have uses := accepted_eq_some.mpr ⟨presents, earlier, live⟩
        rw [owned] at chain
        exact ⟨used ++ [previous], event.random.token, event.now, rfl, drawn, rfl,
          .next chain uses inTime handsOut⟩
    · exact kept (by rwa [same, AList.lookup_insert_ne new] at found)

theorem Tracked.step (fresh : manager.Fresh events) (split : events = history ++ event :: later) :
    Tracked manager start (history ++ [event])
      (manager.step (manager.run start history) event) := by
  have uses : manager.acceptances start (history ++ [event]) =
      manager.acceptances start history ++
        (manager.accepted (manager.run start history) event).toList := by
    rw [acceptances_append, acceptances, acceptances, List.append_nil]
  refine ⟨fun hash pending found => tracked.issued_step fresh split found, ?_, ?_⟩
  · rw [uses]
    intro token member
    rcases List.mem_append.mp member with earlier | now
    · have before := tracked.gone token earlier
      refine ⟨mem_minted_append before.1, lookup_step_eq_none fresh split before.1 ?_⟩
      apply Option.eq_none_iff_forall_ne_some.mpr
      intro pending found
      rw [lookup_of_restPendings found] at before
      exact Option.some_ne_none _ before.2
    · have used := Option.mem_toList.mp now
      rcases accepted_eq_some.mp used with ⟨presents, pending, live⟩
      have drawn := (tracked.issued_of_accepted fresh split presents live).1
      exact ⟨mem_minted_append drawn,
        lookup_step_eq_none fresh split drawn (restPendings_of_accepted used)⟩
  · rw [uses, List.nodup_append]
    refine ⟨tracked.once, by cases manager.accepted (manager.run start history) event <;> simp, ?_⟩
    -- a token that was used before has no challenge left
    intro token earlier other now same
    subst same
    rcases accepted_eq_some.mp (Option.mem_toList.mp now) with ⟨presents, pending, live⟩
    have absent := (tracked.gone token earlier).2
    rw [(AuthStore.livePending_eq_some.mp live).1] at absent
    exact Option.some_ne_none _ absent

end Step

theorem tracked_run {events : List AuthEvent} (noPending : start.pendings = ∅)
    (fresh : manager.Fresh events) : Tracked manager start events (manager.run start events) := by
  apply Transition.foldl_history (Tracked manager start)
  · exact ⟨by simp [noPending], by simp [acceptances], by simp [acceptances]⟩
  · intro history event later split tracked
    exact tracked.step fresh split

theorem Fresh.front {front : List AuthEvent} (fresh : manager.Fresh (front ++ later)) :
    manager.Fresh front := by
  constructor
  · have distinct := fresh.distinct
    rw [minted, List.map_append] at distinct
    exact (List.nodup_append.mp distinct).1
  · apply fresh.collisionFree.mono
    intro token seen
    rcases seen with ⟨event, member, how⟩
    exact ⟨event, List.mem_append_left _ member, how⟩

theorem username_of_issueSession {username : String}
    (stored : (manager.issueSession now random base username role org).getAuthSession
      (manager.tokenHash random.token) = some session) : session.username = username := by
  rw [issueSession, AuthStore.getAuthSession, AuthStore.putAuthSession, AList.lookup_insert]
    at stored
  rw [← Option.some.inj stored]

theorem challenge_of_session {kind : PendingKind} {pending : MfaPending}
    (challenge : manager.challenge now store kind token = some (pending, row))
    (stored : (manager.issueSession now random base pending.username role org).getAuthSession
      (manager.tokenHash random.token) = some session) :
    store.livePending now (manager.tokenHash token) = some pending ∧
      pending.username = session.username ∧ row.username = session.username ∧
      store.getUser session.username = some row := by
  rcases challenge_eq_some.mp challenge with ⟨live, _, found⟩
  rw [username_of_issueSession stored]
  exact ⟨live, rfl, UserTable.username_of_get found, found⟩

/-- The code that `verify_totp` accepts for the stored secret, or for the empty
one where none is stored. -/
theorem codeValid_of_verifyTotp (lawful : manager.platform.Lawful) {code : String}
    (valid : manager.verifyTotp (row.totpSecret.getD "") row.username now code = true) :
    manager.CodeValid row now code := by
  cases secret : row.totpSecret with
  | none => simp [secret, verifyTotp, lawful.emptySecret] at valid
  | some stored =>
    rw [secret, Option.getD_some] at valid
    exact .inl ⟨stored, secret, valid⟩

theorem Issues.challenged (lawful : manager.platform.Lawful)
    (notDeclared : manager.declared user = false) (issues : manager.Issues store event user) :
    ∃ token pending row code, event.call.presents = some token ∧
      store.livePending event.now (manager.tokenHash token) = some pending ∧
      pending.username = user ∧ store.getUser user = some row ∧
      event.call.code = some code ∧ manager.CodeValid row event.now code := by
  rcases issues with ⟨fresh, session, handsOut, stored, rfl⟩
  have effect := manager.effect store event
  generalize manager.step store event = next at effect stored
  generalize (manager.answer store event).1 = reply at effect handsOut
  cases effect with
  | refused _ noSession => rw [noSession] at handsOut; contradiction
  | wrongPassword => contradiction
  | declaredLogin call declared =>
    cases handsOut
    rw [username_of_issueSession stored, declared] at notDeclared
    contradiction
  | challenged _ _ _ _ noSession => rw [noSession] at handsOut; contradiction
  | setUp => contradiction
  | spent _ noSession => rw [noSession] at handsOut; contradiction
  | enrolling => contradiction
  | @enrolled token code secret pending row _ _ _ call challenge hasSecret valid hands =>
    rw [AuthReply.sessionToken, hands] at handsOut
    cases handsOut
    rcases challenge_of_session challenge stored with ⟨live, same, named, found⟩
    rw [same, ← named] at valid
    exact ⟨token, pending, row, code, by rw [call, AuthCall.presents], live, same, found,
      by rw [call, AuthCall.code], .inl ⟨secret, hasSecret, valid⟩⟩
  | wrongCode => contradiction
  | @verified token code pending row _ call challenge valid =>
    cases handsOut
    rcases challenge_of_session challenge stored with ⟨live, same, named, found⟩
    rw [same, ← named] at valid
    exact ⟨token, pending, row, code, by rw [call, AuthCall.presents], live, same, found,
      by rw [call, AuthCall.code], codeValid_of_verifyTotp lawful valid⟩
  | @recovered token code pending row _ call challenge backup =>
    cases handsOut
    rcases challenge_of_session challenge stored with ⟨live, same, named, found⟩
    exact ⟨token, pending, row, code, by rw [call, AuthCall.presents], live, same, found,
      by rw [call, AuthCall.code], .inr backup⟩

/-- No session of a database user without both factors. -/
theorem session_preceded_by_chain {before later : List AuthEvent}
    (lawful : manager.platform.Lawful) (noPending : start.pendings = ∅)
    (fresh : manager.Fresh (before ++ event :: later))
    (notDeclared : manager.declared user = false)
    (issues : manager.Issues (manager.run start before) event user) :
    ∃ used token issuedAt row code,
      Chain manager start before user used token issuedAt ∧
      event.call.presents = some token ∧
      event.now.nanos < (after issuedAt pendingSecs).nanos ∧
      (∀ link ∈ used ++ [token],
        (manager.acceptances start (before ++ event :: later)).count link = 1) ∧
      (manager.run start before).getUser user = some row ∧
      event.call.code = some code ∧ manager.CodeValid row event.now code := by
  rcases issues.challenged lawful notDeclared with
    ⟨token, pending, row, code, presents, live, owned, found, given, valid⟩
  have tracked := tracked_run noPending fresh.front
  rcases (tracked.issued_of_accepted fresh rfl presents live).2 with
    ⟨used, issuedAt, inTime, chain⟩
  rw [owned] at chain
  refine ⟨used, token, issuedAt, row, code, chain, presents, inTime, ?_, found, given, valid⟩
  intro link linked
  apply List.count_eq_one_of_mem (tracked_run noPending fresh).once
  rcases List.mem_append.mp linked with earlier | last
  · exact chain.append.used_accepted link earlier
  · rw [List.mem_singleton.mp last]
    exact mem_acceptances_of_accepted (accepted_eq_some.mpr ⟨presents, pending, live⟩)

section Sample

open AuthSample

def enrolling : List AuthEvent :=
  [callAt 0 "p" "" (.setupAdmin " root " "hunter2hunter2"),
    callAt 60 "q" "JBSW" (.beginEnrollment "p")]

def confirming : AuthEvent := callAt 600 "s" "" (.confirmEnrollment "q" "JBSW")

theorem fresh_enrolling : (managerOf 5).Fresh (enrolling ++ [confirming]) where
  distinct := by decide
  collisionFree := (tokenHash_injective 5).injOn

theorem first_session_preceded_by_chain :
    ∃ used token issuedAt, Chain (managerOf 5) (storeOf []) enrolling "root" used token issuedAt ∧
      confirming.call.presents = some token := by
  have issues : (managerOf 5).Issues ((managerOf 5).run (storeOf []) enrolling) confirming "root" :=
    ⟨"s", ⟨"root", "admin", "default", after ⟨0⟩ 4200, after ⟨0⟩ 600⟩, by decide +kernel,
      by decide +kernel, rfl⟩
  rcases session_preceded_by_chain lawful rfl fresh_enrolling rfl issues with
    ⟨used, token, issuedAt, _, _, chain, presents, _⟩
  exact ⟨used, token, issuedAt, chain, presents⟩

end Sample

end QuantaWatch.Gateway.AuthManager
