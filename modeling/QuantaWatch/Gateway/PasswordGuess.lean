import QuantaWatch.Gateway.Lockout

/-!
The failed-login lockout against guessing of passwords.
-/

namespace QuantaWatch.Gateway.AuthManager

open Crypto Lib Store

variable (manager : AuthManager)

def wrongPassword (store : AuthStore) (event : AuthEvent) : Option String :=
  match event.call with
  | .login username password =>
    match (manager.login event.now event.random store username password).1 with
    | .badCredentials => some username
    | _ => none
  | _ => none

def InLockout (since now : DateTime) : Prop :=
  since.nanos ≤ now.nanos ∧ now.nanos < manager.lockoutEnd since

instance (since now : DateTime) : Decidable (manager.InLockout since now) :=
  inferInstanceAs (Decidable (_ ∧ _))

def passwordGuesses (user : String) (since : DateTime) (store : AuthStore) : List AuthEvent → Nat
  | [] => 0
  | event :: events =>
    (if manager.wrongPassword store event = some user ∧ manager.InLockout since event.now
      then 1 else 0) +
      passwordGuesses user since (manager.step store event) events

variable {manager} {start store : AuthStore} {event : AuthEvent} {user : String}
  {since : DateTime}

private theorem passwordGuesses_append_singleton (store : AuthStore) (front : List AuthEvent) :
    manager.passwordGuesses user since store (front ++ [event]) =
      manager.passwordGuesses user since store front +
        if manager.wrongPassword (manager.run store front) event = some user ∧
          manager.InLockout since event.now then 1 else 0 := by
  induction front generalizing store with
  | nil => rw [List.nil_append, passwordGuesses, passwordGuesses, passwordGuesses, Nat.zero_add,
      Nat.add_zero]; rfl
  | cons first front ih =>
    rw [List.cons_append, passwordGuesses, ih, passwordGuesses, Nat.add_assoc]
    rfl

private theorem login_badCredentials {now : DateTime} {random : Randomness} {password : String}
    (rejected : (manager.login now random store user password).1 = .badCredentials) :
    manager.lockedFor now store user = none ∧
      (manager.login now random store user password).2 =
        manager.recordLoginFailure now store user := by
  unfold login at rejected ⊢
  cases locked : manager.lockedFor now store user with
  | some secs => simp [locked] at rejected
  | none =>
    cases found : manager.authenticate store user password with
    | none => exact ⟨rfl, rfl⟩
    | some row =>
      simp only [locked, found] at rejected
      split at rejected
      · contradiction
      · split at rejected <;> contradiction

private theorem record_of_wrongPassword (limited : manager.config.maxFailedLogins ≠ 0)
    (wrong : manager.wrongPassword store event = some user) :
    manager.lockedFor event.now store user = none ∧
      (manager.step store event).getLoginLockout user = some (manager.addFailure event.now
        (countedFrom event.now (store.getLoginLockout user))) := by
  unfold wrongPassword at wrong
  split at wrong
  · next username password call =>
      split at wrong
      · next rejected =>
          cases Option.some.inj wrong
          have recorded := login_badCredentials rejected
          refine ⟨recorded.1, ?_⟩
          rw [step, answer, call, Prod.map_snd, id_eq, recorded.2]
          exact getLoginLockout_recordLoginFailure limited
      · contradiction
  · contradiction

section Interval

variable {count : Nat} {first : DateTime}

theorem Held.record (limited : manager.config.maxFailedLogins ≠ 0)
    (fits : manager.config.lockoutSecs.toNat ≤ maxDurationSecs)
    (counting : Counting manager user store)
    (held : Held manager first count (store.getLoginLockout user))
    (ordered : first.nanos ≤ event.now.nanos)
    (inside : event.now.nanos < manager.lockoutEnd first) :
    Held manager first count (some (manager.addFailure event.now
      (countedFrom event.now (store.getLoginLockout user)))) := by
  cases locked : manager.lockedFor event.now store user with
  | none =>
    have counted := held.counted limited locked inside
    exact (held_addFailure limited fits counting locked ordered counted).mono (Nat.le_succ _)
  | some secs =>
    rcases held with ⟨bound, state, record, counts | ⟨deadline, lock, long⟩⟩
    · simp [lockedFor, limited, record, counts.1] at locked
    · refine ⟨bound, _, rfl, .inr ?_⟩
      have running : ¬ deadline.nanos ≤ event.now.nanos := by omega
      have unlapsed : countedFrom event.now (store.getLoginLockout user) = state := by
        simp [countedFrom, record, lock, running]
      rw [unlapsed]
      by_cases reached : manager.config.maxFailedLogins ≤ state.failures + 1
      · exact ⟨_, if_pos reached, lockoutEnd_le fits ordered⟩
      · exact ⟨deadline, (if_neg reached).trans lock, long⟩

structure HeldIn (manager : AuthManager) (user : String) (since : DateTime) (base : AuthStore)
    (front : List AuthEvent) (store : AuthStore) : Prop where
  counting : Counting manager user store
  bounded : manager.passwordGuesses user since base front ≤ manager.config.maxFailedLogins.toNat
  held : (∀ event ∈ front, event.now.nanos < manager.lockoutEnd since) →
    manager.passwordGuesses user since base front = 0 ∨ ∃ first ∈ front,
      since.nanos ≤ first.now.nanos ∧ Held manager first.now
        (manager.passwordGuesses user since base front) (store.getLoginLockout user)

variable {base : AuthStore} {front : List AuthEvent}

variable (limited : manager.config.maxFailedLogins ≠ 0)
  (fits : manager.config.lockoutSecs.toNat ≤ maxDurationSecs)

include limited fits

theorem HeldIn.guess (within : HeldIn manager user since base front (manager.run base front))
    (ordered : ∀ earlier ∈ front, earlier.now.nanos ≤ event.now.nanos)
    (wrong : manager.wrongPassword (manager.run base front) event = some user)
    (inside : manager.InLockout since event.now) :
    ∃ first ∈ front ++ [event], since.nanos ≤ first.now.nanos ∧ Held manager first.now
      (manager.passwordGuesses user since base front + 1)
      ((manager.step (manager.run base front) event).getLoginLockout user) := by
  rcases record_of_wrongPassword limited wrong with ⟨unlocked, recorded⟩
  rw [recorded]
  have early : ∀ earlier ∈ front, earlier.now.nanos < manager.lockoutEnd since :=
    fun earlier member => Int.lt_of_le_of_lt (ordered earlier member) inside.2
  rcases within.held early with none | ⟨first, member, later, held⟩
  · refine ⟨event, by simp, inside.1, ?_⟩
    apply held_addFailure limited fits within.counting unlocked (Int.le_refl _)
    rw [none]
    exact Nat.zero_le _
  · refine ⟨first, List.mem_append_left _ member, later, ?_⟩
    apply held_addFailure limited fits within.counting unlocked (ordered first member)
    apply held.counted limited unlocked
    exact Int.lt_of_lt_of_le inside.2 (Int.add_le_add_right later _)

theorem HeldIn.step (within : HeldIn manager user since base front (manager.run base front))
    (ordered : ∀ earlier ∈ front, earlier.now.nanos ≤ event.now.nanos)
    (uncleared : ¬ manager.PasswordAccepted user (manager.run base front) event) :
    HeldIn manager user since base (front ++ [event])
      (manager.step (manager.run base front) event) := by
  have counting : Counting manager user (manager.step (manager.run base front) event) :=
    within.counting.step limited
  by_cases counts : manager.wrongPassword (manager.run base front) event = some user ∧
      manager.InLockout since event.now
  · have guessed := within.guess limited fits ordered counts.1 counts.2
    have more : manager.passwordGuesses user since base (front ++ [event]) =
        manager.passwordGuesses user since base front + 1 := by
      rw [passwordGuesses_append_singleton, if_pos counts]
    rw [← more] at guessed
    refine ⟨counting, ?_, fun _ => .inr guessed⟩
    rcases guessed with ⟨first, _, _, held⟩
    exact held.1
  · have same : manager.passwordGuesses user since base (front ++ [event]) =
        manager.passwordGuesses user since base front := by
      rw [passwordGuesses_append_singleton, if_neg counts, Nat.add_zero]
    refine ⟨counting, same ▸ within.bounded, ?_⟩
    intro early
    rw [same]
    have now := early event (by simp)
    rcases within.held fun earlier member => early earlier (List.mem_append_left _ member) with
      none | ⟨first, member, later, held⟩
    · exact .inl none
    · refine .inr ⟨first, List.mem_append_left _ member, later, ?_⟩
      cases manager.recordStep limited user (manager.run base front) event with
      | same _ kept => rw [kept]; exact held
      | cleared _ accepted _ => exact absurd accepted uncleared
      | failed _ counted =>
        rw [counted]
        apply held.record limited fits within.counting (ordered first member)
        exact Int.lt_of_lt_of_le now (Int.add_le_add_right later _)

end Interval

section Sample

open AuthSample

def guessPassword (second : Nat) : AuthEvent :=
  callAt second "unused" "" (.login "ghost" "letmein")

/-- The lockout that the cast makes negative is over before it begins. -/
def negativeLockout : AuthManager :=
  { managerOf 2 with
    config := { (managerOf 2).config with lockoutSecs := 18446744073709551615 } }

end Sample

end QuantaWatch.Gateway.AuthManager
