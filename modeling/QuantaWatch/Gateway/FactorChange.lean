import QuantaWatch.Gateway.SecondFactor

/-!
Changes to an enabled second factor over runs of authentication calls.
-/

namespace QuantaWatch.Gateway.AuthManager

open Crypto Lib Store

def FactorKept (row next : DbUser) : Prop :=
  next.totpEnabled = row.totpEnabled ∧ next.totpSecret = row.totpSecret ∧
    (next.backupCodeHashes = row.backupCodeHashes ∨
      ∃ hash ∈ row.backupCodeHashes, next.backupCodeHashes = row.backupCodeHashes.erase hash)

variable (manager : AuthManager)

def PresentsCode (row : DbUser) (event : AuthEvent) : Prop :=
  ∃ code, event.call.code = some code ∧ manager.CodeValid row event.now code

def FactorGuarded (start : AuthStore) (events : List AuthEvent) : Prop :=
  ∀ before middle event later name row, events = before ++ middle ++ event :: later →
    (manager.run start before).getUser name = some row → row.totpEnabled = true →
    ∃ current next, (manager.run start (before ++ middle)).getUser name = some current ∧
      (manager.step (manager.run start (before ++ middle)) event).getUser name = some next ∧
      (FactorKept current next ∨ manager.PresentsCode current event)

/-- A call of `begin_enrollment` with a live enrollment challenge of a user whose
factor is enabled already, and with a fresh secret that TOTP accepts. -/
def ReplacesFactor (store : AuthStore) (event : AuthEvent) : Prop :=
  ∃ token pending row, event.call = .beginEnrollment token ∧
    store.livePending event.now (manager.tokenHash token) = some pending ∧
    pending.kind = .enroll ∧ store.getUser pending.username = some row ∧
    row.totpEnabled = true ∧
    (manager.platform.totpUrl event.random.secret pending.username).isSome

variable {manager} {start store : AuthStore} {event : AuthEvent} {name : String} {row : DbUser}

theorem FactorKept.refl (row : DbUser) : FactorKept row row := ⟨rfl, rfl, .inl rfl⟩

@[simp] theorem getUser_recordLoginFailure {now : DateTime} {username : String} :
    (manager.recordLoginFailure now store username).getUser name = store.getUser name := by
  unfold recordLoginFailure
  split <;> rfl

theorem getUser_upsert_challenged {now : DateTime} {kind : PendingKind} {token : String}
    {pending : MfaPending} {user : DbUser} (changed : DbUser)
    (challenge : manager.challenge now store kind token = some (pending, user))
    (found : store.getUser name = some row) (named : changed.username = user.username) :
    (row = user ∧ pending.username = name ∧
        (store.upsertUser changed).getUser name = some changed) ∨
      (store.upsertUser changed).getUser name = store.getUser name := by
  have owner := (challenge_eq_some.mp challenge).2.2
  rw [UserTable.username_of_get owner] at named
  by_cases own : pending.username = name
  · subst own
    rw [found] at owner
    refine .inl ⟨Option.some.inj owner, rfl, ?_⟩
    rw [← named]
    exact UserTable.get_upsert
  · exact .inr (UserTable.get_upsert_ne (by rw [named]; exact Ne.symm own))

theorem enabled_step (keeps : ¬ manager.ReplacesFactor store event)
    (found : store.getUser name = some row) (enabled : row.totpEnabled = true) :
    ∃ next, (manager.step store event).getUser name = some next ∧ next.totpEnabled = true ∧
      (FactorKept row next ∨ manager.PresentsCode row event) := by
  have same (next : AuthStore) (unchanged : next.getUser name = store.getUser name) :
      ∃ other, next.getUser name = some other ∧ other.totpEnabled = true ∧
        (FactorKept row other ∨ manager.PresentsCode row event) :=
    ⟨row, unchanged.trans found, enabled, .inl (.refl row)⟩
  have effect := manager.effect store event
  generalize manager.step store event = next at effect ⊢
  generalize (manager.answer store event).1 = reply at effect
  cases effect with
  | refused => exact same _ rfl
  | wrongPassword => exact same _ getUser_recordLoginFailure
  | declaredLogin => exact same _ rfl
  | challenged => exact same _ rfl
  | setUp call due =>
    rw [getUser_of_setupRequired due] at found
    contradiction
  | spent => exact same _ rfl
  | @enrolling token url pending user call challenge provisioned =>
    rcases getUser_upsert_challenged
        { user with
          totpSecret := some (enrollmentSecret event.random user)
          totpEnabled := false } challenge found rfl with ⟨rfl, _, _⟩ | other
    · -- an enabled secret is not used again: this call replaces the factor
      rcases challenge_eq_some.mp challenge with ⟨live, kind, owner⟩
      rw [enrollmentSecret, enabled] at provisioned
      refine absurd ⟨token, pending, row, call, live, kind, owner, enabled, ?_⟩ keeps
      exact Option.isSome_of_mem (by simpa using provisioned)
    · exact same _ other
  | @enrolled token code secret pending user _ _ hashes call challenge hasSecret valid =>
    rcases getUser_upsert_challenged
        { user with totpEnabled := true, backupCodeHashes := hashes } challenge found rfl with
      ⟨rfl, own, written⟩ | other
    · have named := UserTable.username_of_get found
      rw [own, ← named] at valid
      exact ⟨_, written, rfl, .inr ⟨code, by rw [call, AuthCall.code],
        .inl ⟨secret, hasSecret, valid⟩⟩⟩
    · exact same _ other
  | wrongCode => exact same _ getUser_recordLoginFailure
  | verified => exact same _ rfl
  | @recovered token code pending user _ call challenge backup =>
    rcases getUser_upsert_challenged
        { user with
          backupCodeHashes := user.backupCodeHashes.erase (manager.hashBackupCode code) }
        challenge found rfl with ⟨rfl, _, written⟩ | other
    · exact ⟨_, written, enabled, .inl ⟨rfl, rfl, .inr ⟨_, backup, rfl⟩⟩⟩
    · exact same _ other

def Enrolled (name : String) (store : AuthStore) : Prop :=
  ∃ row, store.getUser name = some row ∧ row.totpEnabled = true

theorem enabled_run {before middle : List AuthEvent}
    (keeps : ∀ front event later, middle = front ++ event :: later →
      ¬ manager.ReplacesFactor (manager.run start (before ++ front)) event)
    (enrolled : Enrolled name (manager.run start before)) :
    Enrolled name (manager.run start (before ++ middle)) := by
  rw [run_append]
  apply Transition.foldl_history fun _ store => Enrolled name store
  · exact enrolled
  · intro front event later split held
    rcases held with ⟨row, found, enabled⟩
    have unreplaced := keeps front event later split
    rw [run_append] at unreplaced
    rcases enabled_step unreplaced found enabled with ⟨next, written, still, _⟩
    exact ⟨next, written, still⟩

theorem ReplacesFactor.changes (replaces : manager.ReplacesFactor store event) :
    ∃ name row next, store.getUser name = some row ∧ row.totpEnabled = true ∧
      (manager.step store event).getUser name = some next ∧ next.totpEnabled = false ∧
      event.call.code = none := by
  rcases replaces with ⟨token, pending, row, call, live, kind, owner, enabled, provisioned⟩
  rcases Option.isSome_iff_exists.mp provisioned with ⟨url, accepted⟩
  have challenge : manager.challenge event.now store .enroll token = some (pending, row) :=
    challenge_eq_some.mpr ⟨live, kind, owner⟩
  have named := UserTable.username_of_get owner
  have secret : enrollmentSecret event.random row = event.random.secret := by
    simp [enrollmentSecret, enabled]
  refine ⟨pending.username, row,
    { row with totpSecret := some event.random.secret, totpEnabled := false },
    owner, enabled, ?_, rfl, by rw [call, AuthCall.code]⟩
  rw [step, answer, call]
  simp only [beginEnrollment, challenge, secret, accepted, Prod.map_snd, id_eq]
  rw [← named]
  exact UserTable.get_upsert

theorem FactorGuarded.unreplaced {events before later : List AuthEvent}
    (guarded : manager.FactorGuarded start events) (split : events = before ++ event :: later) :
    ¬ manager.ReplacesFactor (manager.run start before) event := by
  intro replaces
  rcases replaces.changes with ⟨name, row, next, found, enabled, written, disabled, noCode⟩
  rcases guarded before [] event later name row (by rw [split, List.append_nil]) found enabled
    with ⟨current, other, stored, result, kept | code⟩
  · rw [List.append_nil] at stored result
    cases found.symm.trans stored
    cases written.symm.trans result
    rw [FactorKept, disabled, enabled] at kept
    exact Bool.false_ne_true kept.1
  · rcases code with ⟨code, presented, _⟩
    rw [noCode] at presented
    contradiction

/-- Enabled factors are guarded in a run exactly if no call of it uses an
enrollment challenge of a user who is enrolled by then. -/
theorem factorGuarded_iff (manager : AuthManager) (start : AuthStore) (events : List AuthEvent) :
    manager.FactorGuarded start events ↔
      ∀ before event later, events = before ++ event :: later →
        ¬ manager.ReplacesFactor (manager.run start before) event := by
  constructor
  · intro guarded before event later split
    exact guarded.unreplaced split
  · intro keeps before middle event later name row split found enabled
    have within : ∀ front inner rest, middle = front ++ inner :: rest →
        ¬ manager.ReplacesFactor (manager.run start (before ++ front)) inner := by
      intro front inner rest cut
      apply keeps (before ++ front) inner (rest ++ event :: later)
      rw [split, cut]
      simp only [List.append_assoc, List.cons_append]
    rcases enabled_run within ⟨row, found, enabled⟩ with ⟨current, stored, active⟩
    rcases enabled_step (keeps _ event later split) stored active with ⟨next, written, _, how⟩
    exact ⟨current, next, stored, written, how⟩

section Sample

open AuthSample

def alice : DbUser where
  username := "alice"
  role := "operator"
  org := "default"
  passwordHash := "hunter2hunter2"
  totpSecret := none
  totpEnabled := false
  backupCodeHashes := []

def enrolledTwice : List AuthEvent :=
  [callAt 0 "p" "" (.login "alice" "hunter2hunter2"),
    callAt 1 "q" "" (.login "alice" "hunter2hunter2"),
    callAt 2 "r" "OLD" (.beginEnrollment "p"),
    callAt 3 "s" "" (.confirmEnrollment "r" "OLD")]

def stolen : AuthEvent := callAt 60 "t" "NEW" (.beginEnrollment "q")

theorem stale_enrollment_replaces_factor :
    ¬ (managerOf 5).FactorGuarded (storeOf [alice]) (enrolledTwice ++ [stolen]) := by
  intro guarded
  have split : enrolledTwice ++ [stolen] = enrolledTwice ++ stolen :: [] := rfl
  apply guarded.unreplaced split
  exact ⟨"q", ⟨"alice", .enroll, after ⟨0⟩ 601⟩,
    { alice with
      totpSecret := some "OLD", totpEnabled := true,
      backupCodeHashes := [(managerOf 5).hashBackupCode "spare"] },
    rfl, by decide +kernel, rfl, by decide +kernel, rfl, rfl⟩

end Sample

end QuantaWatch.Gateway.AuthManager
