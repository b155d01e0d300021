import QuantaWatch.Gateway.AuthEffects
import QuantaWatch.Lib.Transition

/-!
The failed-login lockout against guessing of second-factor codes.
-/

namespace QuantaWatch.Gateway.AuthManager

open Crypto Lib Store

variable (manager : AuthManager)

def wrongCode (store : AuthStore) (event : AuthEvent) : Option String :=
  match event.call with
  | .verifyTotpLogin pendingToken code => do
    let (pending, user) ← manager.challenge event.now store .verify pendingToken
    if manager.verifyTotp (user.totpSecret.getD "") pending.username event.now code then none
    else if manager.hashBackupCode code ∈ user.backupCodeHashes then none
    else some pending.username
  | _ => none

def guesses (user : String) (store : AuthStore) : List AuthEvent → Nat
  | [] => 0
  | event :: events =>
    (if manager.wrongCode store event = some user then 1 else 0) +
      guesses user (manager.step store event) events

def PasswordAccepted (user : String) (store : AuthStore) (event : AuthEvent) : Prop :=
  ∃ password, event.call = .login user password ∧
    manager.lockedFor event.now store user = none ∧
    manager.passwordOk store user password = true

variable {manager} {start store : AuthStore} {event : AuthEvent} {user : String}

theorem guesses_append_singleton (store : AuthStore) (front : List AuthEvent) :
    manager.guesses user store (front ++ [event]) =
      manager.guesses user store front +
        if manager.wrongCode (manager.run store front) event = some user then 1 else 0 := by
  induction front generalizing store with
  | nil => rw [List.nil_append, guesses, guesses, guesses, Nat.zero_add, Nat.add_zero]; rfl
  | cons first front ih =>
    rw [List.cons_append, guesses, ih, guesses, Nat.add_assoc]
    rfl

def Counting (manager : AuthManager) (user : String) (store : AuthStore) : Prop :=
  ∀ state, store.getLoginLockout user = some state → state.lockedUntil = none →
    state.failures < manager.config.maxFailedLogins

inductive RecordStep (manager : AuthManager) (user : String) (store : AuthStore)
    (event : AuthEvent) (next : Option LockoutState) : Prop where
  | same (right : manager.wrongCode store event ≠ some user)
      (kept : next = store.getLoginLockout user)
  | cleared (right : manager.wrongCode store event ≠ some user)
      (accepted : manager.PasswordAccepted user store event) (gone : next = none)
  | failed (refused : manager.lockedFor event.now store user = none ∨
        manager.wrongCode store event = some user)
      (counted : next = some (manager.addFailure event.now
        (countedFrom event.now (store.getLoginLockout user))))

variable {base : AuthStore} {username : String}

theorem getLoginLockout_recordLoginFailure {now : DateTime}
    (limited : manager.config.maxFailedLogins ≠ 0) :
    (manager.recordLoginFailure now base user).getLoginLockout user =
      some (manager.addFailure now (countedFrom now (base.getLoginLockout user))) := by
  rw [recordLoginFailure, if_neg limited]
  exact AList.lookup_insert _

theorem getLoginLockout_recordLoginFailure_ne {now : DateTime} (other : user ≠ username) :
    (manager.recordLoginFailure now base username).getLoginLockout user =
      base.getLoginLockout user := by
  unfold recordLoginFailure
  split
  · rfl
  · exact AList.lookup_insert_ne other

theorem wrongCode_ne_some (call : ∀ token code, event.call ≠ .verifyTotpLogin token code) :
    manager.wrongCode store event ≠ some user := by
  unfold wrongCode
  split
  · next token code given => exact absurd given (call token code)
  · simp

theorem recordStep_accepted {password : String} (call : event.call = .login username password)
    (unlocked : manager.lockedFor event.now store username = none)
    (right : manager.passwordOk store username password = true) :
    RecordStep manager user store event
      ((store.clearLoginLockout username).getLoginLockout user) := by
  have noCode : manager.wrongCode store event ≠ some user := wrongCode_ne_some (by simp [call])
  by_cases own : user = username
  · subst own
    exact .cleared noCode ⟨password, call, unlocked, right⟩ (AList.lookup_erase _ _)
  · exact .same noCode (AList.lookup_erase_ne own)

theorem recordStep (limited : manager.config.maxFailedLogins ≠ 0) (user : String)
    (store : AuthStore) (event : AuthEvent) :
    RecordStep manager user store event ((manager.step store event).getLoginLockout user) := by
  have effect := manager.effect store event
  generalize manager.step store event = next at effect ⊢
  generalize (manager.answer store event).1 = reply at effect
  cases effect with
  | refused presents =>
    refine .same (wrongCode_ne_some ?_) rfl
    intro token code call
    rw [call, AuthCall.presents] at presents
    contradiction
  | @wrongPassword username password call unlocked wrong =>
    by_cases own : user = username
    · subst own
      exact .failed (.inl unlocked) (getLoginLockout_recordLoginFailure limited)
    · exact .same (wrongCode_ne_some (by simp [call])) (getLoginLockout_recordLoginFailure_ne own)
  | declaredLogin call declared unlocked right => exact recordStep_accepted call unlocked right
  | challenged call notDeclared unlocked right => exact recordStep_accepted call unlocked right
  | setUp call => exact .same (wrongCode_ne_some (by simp [call])) rfl
  | @spent _ token presents noSession unread =>
    refine .same ?_ rfl
    unfold AuthManager.wrongCode
    split
    · next other code call =>
        rw [call, AuthCall.presents] at presents
        cases presents
        simp [unread code call]
    · simp
  | enrolling call => exact .same (wrongCode_ne_some (by simp [call])) rfl
  | enrolled call => exact .same (wrongCode_ne_some (by simp [call])) rfl
  | @wrongCode token code pending _ call challenge notTotp notBackup =>
    have evaluated : manager.wrongCode store event = some pending.username := by
      simp [AuthManager.wrongCode, call, challenge, notTotp, notBackup]
    by_cases own : user = pending.username
    · subst own
      exact .failed (.inr evaluated) (getLoginLockout_recordLoginFailure limited)
    · refine .same ?_ (getLoginLockout_recordLoginFailure_ne own)
      rw [evaluated]
      exact fun same => own (Option.some.inj same).symm
  | verified call challenge valid =>
    refine .same ?_ rfl
    simp [AuthManager.wrongCode, call, challenge, valid]
  | recovered call challenge backup =>
    refine .same ?_ rfl
    simp [AuthManager.wrongCode, call, challenge, backup]

section Failure

variable {now : DateTime} {state : LockoutState}

theorem lockedFor_eq_none (limited : manager.config.maxFailedLogins ≠ 0) :
    manager.lockedFor now store user = none ↔
      ∀ state, store.getLoginLockout user = some state →
        ∀ deadline, state.lockedUntil = some deadline → deadline.nanos ≤ now.nanos := by
  cases record : store.getLoginLockout user with
  | none => simp [lockedFor, record]
  | some state =>
    cases lock : state.lockedUntil with
    | none => simp [lockedFor, limited, record, lock]
    | some deadline => simp [lockedFor, limited, record, lock]

theorem countedFrom_open (limited : manager.config.maxFailedLogins ≠ 0)
    (counting : Counting manager user store) (unlocked : manager.lockedFor now store user = none) :
    (countedFrom now (store.getLoginLockout user)).lockedUntil = none ∧
      (countedFrom now (store.getLoginLockout user)).failures < manager.config.maxFailedLogins := by
  have fresh : (0 : UInt32) < manager.config.maxFailedLogins := UInt32.pos_iff_ne_zero.mpr limited
  cases record : store.getLoginLockout user with
  | none => exact ⟨rfl, fresh⟩
  | some state =>
    cases lock : state.lockedUntil with
    | none => simpa [countedFrom, lock] using counting state record lock
    | some deadline =>
      have lapsed := (lockedFor_eq_none limited).mp unlocked state record deadline lock
      simpa [countedFrom, lock, lapsed] using fresh

theorem addFailure_open (now : DateTime) (unlocked : state.lockedUntil = none)
    (below : state.failures < manager.config.maxFailedLogins) :
    state.failures.toNat + 1 ≤ manager.config.maxFailedLogins.toNat ∧
      ((manager.addFailure now state).lockedUntil =
          some (after now (asI64 manager.config.lockoutSecs)) ∨
        (manager.addFailure now state).lockedUntil = none ∧
          (manager.addFailure now state).failures.toNat = state.failures.toNat + 1) := by
  have bound := manager.config.maxFailedLogins.toNat_lt
  have small : state.failures.toNat < manager.config.maxFailedLogins.toNat := below
  have next : (state.failures + 1).toNat = state.failures.toNat + 1 := by
    rw [UInt32.toNat_add, UInt32.toNat_one]
    omega
  refine ⟨small, ?_⟩
  by_cases reached : manager.config.maxFailedLogins ≤ state.failures + 1
  · simp [addFailure, reached]
  · simp [addFailure, reached, unlocked, next]

theorem counting_addFailure (unlocked : (manager.addFailure now state).lockedUntil = none) :
    (manager.addFailure now state).failures < manager.config.maxFailedLogins := by
  by_cases reached : manager.config.maxFailedLogins ≤ state.failures + 1
  · simp [addFailure, reached] at unlocked
  · exact UInt32.not_le.mp reached

end Failure

theorem Counting.step (limited : manager.config.maxFailedLogins ≠ 0)
    (counting : Counting manager user store) :
    Counting manager user (manager.step store event) := by
  intro state found unlocked
  cases manager.recordStep limited user store event with
  | same _ kept => exact counting state (by rw [← kept, found]) unlocked
  | cleared _ _ gone => rw [gone] at found; contradiction
  | failed _ counted =>
    rw [counted] at found
    cases found
    exact counting_addFailure unlocked

theorem counting_run (limited : manager.config.maxFailedLogins ≠ 0)
    (noLockouts : start.lockouts = ∅) (events : List AuthEvent) :
    Counting manager user (manager.run start events) := by
  apply Transition.foldl_history fun _ store => Counting manager user store
  · intro state found
    rw [AuthStore.getLoginLockout, noLockouts, AList.lookup_empty] at found
    contradiction
  · intro history event later _ counting
    exact counting.step limited

def lockoutEnd (manager : AuthManager) (since : DateTime) : Int :=
  since.nanos + manager.config.lockoutSecs.toNat * 1000000000

theorem lockoutEnd_le (fits : manager.config.lockoutSecs.toNat ≤ maxDurationSecs)
    {since now : DateTime} (ordered : since.nanos ≤ now.nanos) :
    manager.lockoutEnd since ≤ (after now (asI64 manager.config.lockoutSecs)).nanos := by
  rw [asI64_of_le fits]
  exact Int.add_le_add_right ordered _

def Held (manager : AuthManager) (since : DateTime) (count : Nat)
    (record : Option LockoutState) : Prop :=
  count ≤ manager.config.maxFailedLogins.toNat ∧ ∃ state, record = some state ∧
    (state.lockedUntil = none ∧ count ≤ state.failures.toNat ∨
      ∃ deadline, state.lockedUntil = some deadline ∧
        manager.lockoutEnd since ≤ deadline.nanos)

section Window

variable {since : DateTime} {count : Nat}

theorem Held.mono {fewer : Nat} {record : Option LockoutState}
    (held : Held manager since count record) (le : fewer ≤ count) :
    Held manager since fewer record := by
  rcases held with ⟨bound, state, found, counts | locked⟩
  · exact ⟨le.trans bound, state, found, .inl ⟨counts.1, le.trans counts.2⟩⟩
  · exact ⟨le.trans bound, state, found, .inr locked⟩

theorem Held.counted (limited : manager.config.maxFailedLogins ≠ 0)
    (held : Held manager since count (store.getLoginLockout user))
    (unlocked : manager.lockedFor event.now store user = none)
    (inside : event.now.nanos < manager.lockoutEnd since) :
    count ≤ (countedFrom event.now (store.getLoginLockout user)).failures.toNat := by
  rcases held with ⟨_, state, record, counts | locked⟩
  · simpa [countedFrom, record, counts.1] using counts.2
  · rcases locked with ⟨deadline, lock, long⟩
    have lapsed := (lockedFor_eq_none limited).mp unlocked state record deadline lock
    omega

theorem held_addFailure (limited : manager.config.maxFailedLogins ≠ 0)
    (fits : manager.config.lockoutSecs.toNat ≤ maxDurationSecs)
    (counting : Counting manager user store)
    (unlocked : manager.lockedFor event.now store user = none)
    (ordered : since.nanos ≤ event.now.nanos)
    (counted : count ≤ (countedFrom event.now (store.getLoginLockout user)).failures.toNat) :
    Held manager since (count + 1) (some (manager.addFailure event.now
      (countedFrom event.now (store.getLoginLockout user)))) := by
  have ready := countedFrom_open limited counting unlocked
  have added := addFailure_open event.now ready.1 ready.2
  refine ⟨by omega, _, rfl, ?_⟩
  rcases added.2 with locked | ⟨stillOpen, failures⟩
  · exact .inr ⟨_, locked, lockoutEnd_le fits ordered⟩
  · exact .inl ⟨stillOpen, by omega⟩

variable {before window : List AuthEvent}

def HeldAfter (manager : AuthManager) (user : String) (base : AuthStore) (front : List AuthEvent)
    (store : AuthStore) : Prop :=
  Counting manager user store ∧
    (manager.guesses user base front = 0 ∨ ∃ first ∈ front,
      Held manager first.now (manager.guesses user base front) (store.getLoginLockout user))

theorem HeldAfter.step {base : AuthStore} {front later : List AuthEvent}
    (limited : manager.config.maxFailedLogins ≠ 0)
    (fits : manager.config.lockoutSecs.toNat ≤ maxDurationSecs)
    (held : HeldAfter manager user base front (manager.run base front))
    (ordered : (front ++ event :: later).Pairwise fun earlier late =>
      earlier.now.nanos ≤ late.now.nanos)
    (short : ∀ first ∈ front, event.now.nanos < manager.lockoutEnd first.now)
    (unlocked : manager.wrongCode (manager.run base front) event = some user →
      manager.lockedFor event.now (manager.run base front) user = none)
    (uncleared : 0 < manager.guesses user base front →
      ¬ manager.PasswordAccepted user (manager.run base front) event) :
    HeldAfter manager user base (front ++ [event])
      (manager.step (manager.run base front) event) := by
  refine ⟨held.1.step limited, ?_⟩
  rw [guesses_append_singleton]
  have weaken : ∀ first ∈ front, first ∈ front ++ [event] := fun _ => List.mem_append_left _
  cases manager.recordStep limited user (manager.run base front) event with
  | same right kept =>
    rw [if_neg right, Nat.add_zero, kept]
    rcases held.2 with none | ⟨first, member, holds⟩
    · exact .inl none
    · exact .inr ⟨first, weaken first member, holds⟩
  | cleared right accepted gone =>
    rw [if_neg right, Nat.add_zero]
    refine .inl (Nat.eq_zero_of_not_pos fun some => uncleared some accepted)
  | failed refused counted =>
    have free : manager.lockedFor event.now (manager.run base front) user = none :=
      refused.elim id unlocked
    have more : ∃ first ∈ front ++ [event], Held manager first.now
        (manager.guesses user base front + 1) (some (manager.addFailure event.now
          (countedFrom event.now ((manager.run base front).getLoginLockout user)))) := by
      rcases held.2 with none | ⟨first, member, holds⟩
      · refine ⟨event, by simp, held_addFailure limited fits held.1 free (Int.le_refl _) ?_⟩
        rw [none]
        exact Nat.zero_le _
      · have earlier : first.now.nanos ≤ event.now.nanos :=
          (List.pairwise_append.mp ordered).2.2 first member event (List.mem_cons_self ..)
        exact ⟨first, weaken first member, held_addFailure limited fits held.1 free earlier
          (holds.counted limited free (short first member))⟩
    rcases more with ⟨first, member, holds⟩
    rw [counted]
    refine .inr ⟨first, member, holds.mono ?_⟩
    split <;> omega

end Window

section Sample

open AuthSample

def bob : DbUser where
  username := "bob"
  role := "admin"
  org := "default"
  passwordHash := "hunter2hunter2"
  totpSecret := some "JBSW"
  totpEnabled := true
  backupCodeHashes := []

def loginBob (second : Nat) (token : String) : AuthEvent :=
  callAt second token "" (.login "bob" "hunter2hunter2")

def guessCode (second : Nat) (token : String) : AuthEvent :=
  callAt second "unused" "" (.verifyTotpLogin token "000000")

end Sample

end QuantaWatch.Gateway.AuthManager
