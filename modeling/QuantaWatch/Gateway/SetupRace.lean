import QuantaWatch.Gateway.Auth
import QuantaWatch.Lib.Interleaving

/-!
First-run setup as the store operations that it makes, one at a time.
-/

namespace QuantaWatch.Gateway

open Crypto Lib Lib.Interleaving Store

structure Moment where
  now : DateTime
  random : AuthManager.Randomness

inductive SetupPhase where
  /-- `list_users`, then the checks and the slow hash of the password. -/
  | check (username password : String)
  /-- `upsert_user` -/
  | write (user : DbUser)
  /-- `put_mfa_pending` -/
  | issue (username : String)
  | done (result : Except String String)

namespace SetupPhase

def succeeded : SetupPhase → Bool
  | done (.ok _) => true
  | _ => false

def wrote : SetupPhase → Bool
  | issue _ => true
  | done (.ok _) => true
  | _ => false

end SetupPhase

namespace AuthManager

variable (manager : AuthManager)

def setupStep (moment : Moment) (store : AuthStore) : SetupPhase → SetupPhase × AuthStore
  | .check username password =>
    if manager.setupRequired store then
      let username := Text.trim username
      if username = "" then (.done (.error "username is required"), store)
      else if password.length < 12 then
        (.done (.error "password must be at least 12 characters"), store)
      else
        match moment.random.passwordHash with
        | .error reason => (.done (.error ("hash: " ++ reason)), store)
        | .ok passwordHash => (.write (firstAdmin username passwordHash), store)
    else (.done (.error "setup already completed"), store)
  | .write user => (.issue user.username, store.upsertUser user)
  | .issue username =>
    (.done (.ok moment.random.token),
      manager.issuePending moment.now moment.random store username .enroll)
  | .done result => (.done result, store)

def setupMachine : Machine Moment AuthStore SetupPhase Unit where
  step := manager.setupStep
  accepts
    | _, _, .write _ => some ()
    | _, _, _ => none

theorem setupStep_check (manager : AuthManager) (moment : Moment) (store : AuthStore)
    (username password : String) :
    (∃ reason, manager.setupStep moment store (.check username password) =
        (.done (.error reason), store) ∧
      manager.setupAdmin moment.now moment.random store username password =
        (.error reason, store)) ∨
    ∃ user, manager.setupRequired store = true ∧ user.backupCodeHashes = [] ∧
      manager.setupStep moment store (.check username password) = (.write user, store) ∧
      manager.setupAdmin moment.now moment.random store username password =
        (.ok moment.random.token,
          manager.issuePending moment.now moment.random (store.upsertUser user) user.username
            .enroll) := by
  simp only [setupStep, setupAdmin]
  split_ifs with required
  · exact Or.inl ⟨_, rfl, rfl⟩
  · exact Or.inl ⟨_, rfl, rfl⟩
  · cases moment.random.passwordHash with
    | error reason => exact Or.inl ⟨_, rfl, rfl⟩
    | ok passwordHash => exact Or.inr ⟨_, required, rfl, rfl, rfl⟩
  · exact Or.inl ⟨_, rfl, rfl⟩

variable {manager} {moment : Moment} {store : AuthStore}

theorem not_setupRequired_upsert (user : DbUser) :
    manager.setupRequired (store.upsertUser user) = false := by
  simp [setupRequired, AuthStore.upsertUser, UserTable.isEmpty, UserTable.upsert]

def setupOnce (manager : AuthManager) : OneTime manager.setupMachine where
  Stored store _ := manager.setupRequired store = true
  Held request _ := ∃ user, request = .write user
  Reads request _ := ∃ username password, request = .check username password
  Mints _ _ := False
  SoundInput _ := True
  Sound _ := True
  SoundRequest _ := True
  sound _ _ _ := ⟨trivial, trivial⟩
  stored := by
    intro moment store request _ stored
    cases request with
    | check username password =>
      rcases setupStep_check manager moment store username password with
        ⟨_, stepped, _⟩ | ⟨_, required, _, _, _⟩
      · simp only [setupMachine, stepped] at stored
        exact Or.inl stored
      · exact Or.inl required
    | write user => exact Or.inr (Or.inl ⟨user, rfl⟩)
    | issue username => exact Or.inl stored
    | done result => exact Or.inl stored
  held := by
    intro moment store request _ held
    cases request with
    | check username password =>
      rcases setupStep_check manager moment store username password with
        ⟨_, stepped, _⟩ | ⟨_, required, _, _, _⟩
      · simp only [setupMachine, stepped] at held
        simp at held
      · exact Or.inr (Or.inl ⟨⟨username, password, rfl⟩, required⟩)
    | write user => simp [setupMachine, setupStep] at held
    | issue username => simp [setupMachine, setupStep] at held
    | done result => simp [setupMachine, setupStep] at held
  accepted := by
    intro moment store request _ _ accepts
    cases request with
    | write user =>
      refine ⟨⟨user, rfl⟩, ?_, ?_⟩
      · simp [setupMachine, setupStep]
      · simp [setupMachine, setupStep, not_setupRequired_upsert]
    | check username password => simp [setupMachine] at accepts
    | issue username => simp [setupMachine] at accepts
    | done result => simp [setupMachine] at accepts

section Counting

variable {start pool : Pool AuthStore SetupPhase} {turn : Nat × Moment}
  {schedule : List (Nat × Moment)}

theorem wrote_step (moment : Moment) (store : AuthStore) (request : SetupPhase) :
    (if (manager.setupStep moment store request).1.wrote then 1 else 0) =
      (if request.wrote then 1 else 0) +
        (manager.setupMachine.accepts moment store request).toList.length := by
  cases request with
  | check username password =>
    rcases setupStep_check manager moment store username password with
      ⟨_, stepped, _⟩ | ⟨_, _, _, stepped, _⟩ <;>
      simp [stepped, setupMachine, SetupPhase.wrote]
  | write user => simp [setupStep, setupMachine, SetupPhase.wrote]
  | issue username => simp [setupStep, setupMachine, SetupPhase.wrote]
  | done result => rfl

theorem users_step (moment : Moment) (store : AuthStore) (request : SetupPhase) :
    (manager.setupStep moment store request).2.users.rows.entries.length ≤
      store.users.rows.entries.length +
        (manager.setupMachine.accepts moment store request).toList.length := by
  cases request with
  | check username password =>
    rcases setupStep_check manager moment store username password with
      ⟨_, stepped, _⟩ | ⟨_, _, _, stepped, _⟩ <;> simp [stepped]
  | write user =>
    have erased := (List.kerase_sublist user.username store.users.rows.entries).length_le
    simpa [setupStep, setupMachine, AuthStore.upsertUser, UserTable.upsert] using erased
  | issue username => simp [setupStep, issuePending, AuthStore.putMfaPending]
  | done result => simp [setupStep]

/-- Concurrent calls on an install without users: when no check falls between the check
and the write of another call, at most one call succeeds and at most one user exists. -/
theorem setup_once (empty : manager.setupRequired start.store = true)
    (calls : ∀ request ∈ start.requests, ∃ username password,
      request = .check username password)
    (separated : manager.setupOnce.Separated start schedule) :
    (manager.setupMachine.run start schedule).requests.countP SetupPhase.succeeded ≤ 1 ∧
      (manager.setupMachine.run start schedule).store.users.rows.entries.length ≤ 1 := by
  have starts : manager.setupOnce.Starts start := by
    refine ⟨trivial, fun request member => ⟨trivial, ?_⟩⟩
    obtain ⟨username, password, rfl⟩ := calls request member
    simp [setupOnce]
  have fresh : manager.setupOnce.Fresh start schedule := by
    intro front turn later _
    exact ⟨trivial, fun _ minted => minted.elim⟩
  have single : (manager.setupMachine.acceptances start schedule).length ≤ 1 :=
    (OneTime.nodup_acceptances starts fresh separated).length_le_card
  have noneWrote : start.requests.countP SetupPhase.wrote = 0 := by
    rw [List.countP_eq_zero]
    intro request member
    obtain ⟨username, password, rfl⟩ := calls request member
    simp [SetupPhase.wrote]
  have noUsers : start.store.users.rows.entries.length = 0 := by
    simp only [setupRequired, Bool.and_eq_true, UserTable.isEmpty, List.isEmpty_iff] at empty
    rw [empty.2, List.length_nil]
  constructor
  · have written := manager.setupMachine.countP_run wrote_step start schedule
    have onlyWritten : (manager.setupMachine.run start schedule).requests.countP
        SetupPhase.succeeded ≤
          (manager.setupMachine.run start schedule).requests.countP SetupPhase.wrote := by
      apply List.countP_mono_left
      intro request _ succeeded
      cases request with
      | done result => cases result <;> simp_all [SetupPhase.succeeded, SetupPhase.wrote]
      | _ => simp [SetupPhase.succeeded] at succeeded
    omega
  · have users := manager.setupMachine.measure_run
      (fun store => store.users.rows.entries.length) users_step start schedule
    omega

end Counting

namespace SetupSample

def turn (position second : Nat) (token : String) : Nat × Moment :=
  (position, { now := after ⟨0⟩ second,
               random := { token, secret := "", backupCodes := [],
                           passwordHash := .ok "argon2" } })

def calls : Pool AuthStore SetupPhase where
  store := AuthSample.storeOf []
  requests := [.check "alice" "correct horse", .check "mallory" "battery staple"]

def oneByOne : List (Nat × Moment) := [turn 0 1 "t1", turn 0 2 "t2", turn 0 3 "t3", turn 1 4 "t4"]

def overlapping : List (Nat × Moment) :=
  [turn 0 1 "t1", turn 1 2 "t2", turn 0 3 "t3", turn 1 4 "t4", turn 0 5 "t5", turn 1 6 "t6"]

theorem oneByOne_separated : (AuthSample.managerOf 0).setupOnce.Separated calls oneByOne := by
  have checking : ∀ other ∈ [SetupPhase.check "mallory" "battery staple"], ∀ credential,
      ¬ (AuthSample.managerOf 0).setupOnce.Held other credential := by
    simp [setupOnce]
  have finished : ∀ other ∈ [SetupPhase.done (.ok "t3")], ∀ credential,
      ¬ (AuthSample.managerOf 0).setupOnce.Held other credential := by
    simp [setupOnce]
  apply OneTime.separated_cons (OneTime.separate_of_idle checking)
  apply OneTime.separated_cons (OneTime.separate_of_idle checking)
  apply OneTime.separated_cons (OneTime.separate_of_idle checking)
  exact OneTime.separated_cons (OneTime.separate_of_idle finished) OneTime.separated_nil

end SetupSample

theorem one_setup_at_a_time :
    (((AuthSample.managerOf 0).setupMachine.run SetupSample.calls
        SetupSample.oneByOne).requests.countP SetupPhase.succeeded ≤ 1 ∧
      ((AuthSample.managerOf 0).setupMachine.run SetupSample.calls
        SetupSample.oneByOne).store.users.rows.entries.length ≤ 1) := by
  apply setup_once
  · decide
  · simp [SetupSample.calls]
  · exact SetupSample.oneByOne_separated

theorem overlapping_setups :
    ((AuthSample.managerOf 0).setupMachine.run SetupSample.calls
        SetupSample.overlapping).requests.countP SetupPhase.succeeded = 2 ∧
      ((AuthSample.managerOf 0).setupMachine.run SetupSample.calls
        SetupSample.overlapping).store.users.rows.entries.map (fun row => row.2.username) =
          ["mallory", "alice"] := by
  decide +kernel

end AuthManager

end QuantaWatch.Gateway
