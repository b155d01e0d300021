import QuantaWatch.Gateway.Auth

/-!
The idle timeout of a session over a sequence of uses.
-/

namespace QuantaWatch.Gateway

open Crypto Store
open AuthManager (AuthContext AuthMethod)

def secondsNanos (seconds : UInt64) : Int := asI64 seconds * 1000000000

def recordedUse (recorded now : DateTime) : DateTime :=
  if 60 * 1000000000 < now.nanos - recorded.nanos then now else recorded

/-- A live session has a recorded use; `none` is a session that is gone. -/
def idleClock (timeout : UInt64) : Option DateTime → DateTime → Option DateTime
  | none, _ => none
  | some recorded, now =>
    if secondsNanos timeout < now.nanos - recorded.nanos then none
    else some (recordedUse recorded now)

def latestUse (issued : DateTime) (times : List DateTime) : DateTime :=
  times.foldl (fun _ now => now) issued

def Behind (recorded used : DateTime) : Prop :=
  recorded.nanos ≤ used.nanos ∧ used.nanos - recorded.nanos ≤ 60 * 1000000000

private theorem behind_recordedUse {recorded used now : DateTime} (behind : Behind recorded used)
    (later : used.nanos ≤ now.nanos) : Behind (recordedUse recorded now) now := by
  unfold recordedUse
  split_ifs with stale
  · exact ⟨le_refl _, by omega⟩
  · exact ⟨behind.1.trans later, by omega⟩

private theorem behind_latestUse {recorded issued : DateTime} {times : List DateTime}
    (behind : Behind recorded issued)
    (ordered : (issued :: times).Pairwise fun left right => left.nanos ≤ right.nanos) :
    Behind (times.foldl recordedUse recorded) (latestUse issued times) := by
  induction times generalizing recorded issued with
  | nil => exact behind
  | cons now times ih =>
    have later : issued.nanos ≤ now.nanos := (List.pairwise_cons.mp ordered).1 now (by simp)
    exact ih (behind_recordedUse behind later) (List.pairwise_cons.mp ordered).2

section Calls

variable (manager : AuthManager) (credential : String)

def Succeeds (store : AuthStore) (now : DateTime) : Prop :=
  (manager.validate now store credential).1.map AuthContext.method = some .session

def afterCall (store : AuthStore) (now : DateTime) : AuthStore :=
  (manager.validate now store credential).2

def AllSucceed : AuthStore → List DateTime → Prop
  | _, [] => True
  | store, now :: times =>
    Succeeds manager credential store now ∧
      AllSucceed (afterCall manager credential store now) times

def recordedIn (store : AuthStore) : Option DateTime :=
  (store.getAuthSession (manager.tokenHash credential)).map AuthSession.lastUsed

def EndsAt (store : AuthStore) (expiry : DateTime) : Prop :=
  ∀ session, store.getAuthSession (manager.tokenHash credential) = some session →
    session.expiresAt = expiry

variable {manager credential} {store : AuthStore} {session : AuthSession} {now expiry : DateTime}

theorem validate_missing (missing : store.getAuthSession (manager.tokenHash credential) = none) :
    afterCall manager credential store now = store ∧ ¬Succeeds manager credential store now := by
  unfold afterCall Succeeds
  simp only [AuthManager.validate, missing]
  split <;> simp [AuthManager.contextOf]

section Present

variable (found : store.getAuthSession (manager.tokenHash credential) = some session)
  (live : now.nanos < session.expiresAt.nanos)

include found live

private theorem validate_idle (enabled : 0 < manager.config.idleTimeoutSecs)
    (idle : secondsNanos manager.config.idleTimeoutSecs < now.nanos - session.lastUsed.nanos) :
    manager.validate now store credential =
      (none, store.deleteAuthSession (manager.tokenHash credential)) := by
  have timedOut : 0 < manager.config.idleTimeoutSecs ∧
      asI64 manager.config.idleTimeoutSecs * 1000000000 <
        now.nanos - session.lastUsed.nanos := ⟨enabled, idle⟩
  simp only [AuthManager.validate, found, if_neg (not_le.mpr live), if_pos timedOut]

variable (used : ¬secondsNanos manager.config.idleTimeoutSecs < now.nanos - session.lastUsed.nanos)

include used

private theorem validate_used : manager.validate now store credential =
      (some (manager.contextOf session.username session.role session.org .session),
        if 60 * 1000000000 < now.nanos - session.lastUsed.nanos then
          store.touchAuthSession (manager.tokenHash credential) { session with lastUsed := now }
        else store) := by
  have notIdle : ¬(0 < manager.config.idleTimeoutSecs ∧
      asI64 manager.config.idleTimeoutSecs * 1000000000 <
        now.nanos - session.lastUsed.nanos) := fun both => used both.2
  simp only [AuthManager.validate, found, if_neg (not_le.mpr live), if_neg notIdle]

private theorem getAuthSession_used :
    (afterCall manager credential store now).getAuthSession (manager.tokenHash credential) =
      some { session with lastUsed := recordedUse session.lastUsed now } := by
  rw [afterCall, validate_used found live used, recordedUse]
  split_ifs with stale
  · have present : (store.sessions.lookup (manager.tokenHash credential)).isSome = true :=
      Option.isSome_iff_exists.mpr ⟨session, found⟩
    show (store.touchAuthSession _ _).getAuthSession _ = _
    rw [AuthStore.touchAuthSession, if_pos present]
    exact AList.lookup_insert _
  · exact found

end Present

variable (enabled : 0 < manager.config.idleTimeoutSecs)

include enabled

variable (ends : EndsAt manager credential store expiry)

include ends

private theorem validate_idleClock (live : now.nanos < expiry.nanos) :
    recordedIn manager credential (afterCall manager credential store now) =
        idleClock manager.config.idleTimeoutSecs (recordedIn manager credential store) now ∧
      EndsAt manager credential (afterCall manager credential store now) expiry ∧
      (Succeeds manager credential store now ↔
        (idleClock manager.config.idleTimeoutSecs (recordedIn manager credential store)
          now).isSome = true) := by
  cases found : store.getAuthSession (manager.tokenHash credential) with
  | none =>
    have absent : recordedIn manager credential store = none := by rw [recordedIn, found]; rfl
    obtain ⟨unchanged, fails⟩ := @validate_missing manager credential store now found
    rw [unchanged, absent]
    exact ⟨rfl, ends, iff_of_false fails (by simp [idleClock])⟩
  | some session =>
    have recorded : recordedIn manager credential store = some session.lastUsed := by
      rw [recordedIn, found]
      rfl
    have expires := ends session found
    have liveSession : now.nanos < session.expiresAt.nanos := by rwa [expires]
    rw [recorded]
    by_cases idle : secondsNanos manager.config.idleTimeoutSecs <
        now.nanos - session.lastUsed.nanos
    · have clock : idleClock manager.config.idleTimeoutSecs (some session.lastUsed) now = none :=
        if_pos idle
      have answer := validate_idle found liveSession enabled idle
      have gone : (afterCall manager credential store now).getAuthSession
          (manager.tokenHash credential) = none := by
        rw [afterCall, answer]
        exact AList.lookup_erase _ _
      rw [clock]
      refine ⟨by rw [recordedIn, gone]; rfl, fun other isOther => ?_, iff_of_false ?_ (by simp)⟩
      · rw [gone] at isOther
        contradiction
      · rw [Succeeds, answer]
        simp
    · have clock : idleClock manager.config.idleTimeoutSecs (some session.lastUsed) now =
          some (recordedUse session.lastUsed now) := if_neg idle
      have kept := getAuthSession_used found liveSession idle
      rw [clock]
      refine ⟨by rw [recordedIn, kept]; rfl, fun other isOther => ?_, iff_of_true ?_ rfl⟩
      · rw [kept] at isOther
        rw [← Option.some.inj isOther]
        exact expires
      · rw [Succeeds, validate_used found liveSession idle]
        rfl

private theorem run_gone {times : List DateTime} (live : ∀ time ∈ times, time.nanos < expiry.nanos)
    (absent : recordedIn manager credential store = none) :
    EndsAt manager credential (times.foldl (afterCall manager credential) store) expiry ∧
      recordedIn manager credential (times.foldl (afterCall manager credential) store) = none := by
  induction times generalizing store with
  | nil => exact ⟨ends, absent⟩
  | cons now times ih =>
    obtain ⟨clock, endsAfter, _⟩ := validate_idleClock enabled ends (live now List.mem_cons_self)
    rw [absent] at clock
    exact ih endsAfter
      (fun time member => live time (List.mem_cons_of_mem _ member)) clock

theorem run_idleClock {times : List DateTime} (live : ∀ time ∈ times, time.nanos < expiry.nanos)
    {issued : DateTime} (present : recordedIn manager credential store = some issued) :
    EndsAt manager credential (times.foldl (afterCall manager credential) store) expiry ∧
      (AllSucceed manager credential store times →
        recordedIn manager credential (times.foldl (afterCall manager credential) store) =
          some (times.foldl recordedUse issued)) ∧
      (¬AllSucceed manager credential store times →
        recordedIn manager credential (times.foldl (afterCall manager credential) store) =
          none) := by
  induction times generalizing store issued with
  | nil => exact ⟨ends, fun _ => present, fun failed => absurd trivial failed⟩
  | cons now times ih =>
    have liveLater : ∀ time ∈ times, time.nanos < expiry.nanos :=
      fun time member => live time (List.mem_cons_of_mem _ member)
    obtain ⟨clock, endsAfter, succeeds⟩ :=
      validate_idleClock enabled ends (live now List.mem_cons_self)
    rw [present] at clock succeeds
    by_cases used : secondsNanos manager.config.idleTimeoutSecs < now.nanos - issued.nanos
    · have gone : idleClock manager.config.idleTimeoutSecs (some issued) now = none :=
        if_pos used
      rw [gone] at clock succeeds
      have fails : ¬Succeeds manager credential store now := by simp [succeeds]
      obtain ⟨endsThere, noneThere⟩ := run_gone enabled endsAfter liveLater clock
      exact ⟨endsThere, fun all => absurd all.1 fails, fun _ => noneThere⟩
    · have kept : idleClock manager.config.idleTimeoutSecs (some issued) now =
          some (recordedUse issued now) := if_neg used
      rw [kept] at clock succeeds
      have works : Succeeds manager credential store now := succeeds.mpr rfl
      obtain ⟨endsThere, whenAll, whenNot⟩ := ih endsAfter liveLater clock
      exact ⟨endsThere, fun all => whenAll all.2, fun failed => whenNot fun later =>
        failed ⟨works, later⟩⟩

omit ends

omit enabled

/-- A call succeeds exactly when all earlier ones did and the recorded use is within the
timeout. So it fails when the last use is longer ago than the timeout, and succeeds when it
is a minute less ago than that. -/
theorem succeeds_iff_recorded (found : store.getAuthSession (manager.tokenHash credential) =
      some session) (enabled : 0 < manager.config.idleTimeoutSecs) {times : List DateTime}
    (ordered : (session.lastUsed :: (times ++ [now])).Pairwise fun left right =>
      left.nanos ≤ right.nanos)
    (live : ∀ time ∈ times ++ [now], time.nanos < session.expiresAt.nanos) :
    (Succeeds manager credential (times.foldl (afterCall manager credential) store) now ↔
      AllSucceed manager credential store times ∧
        now.nanos - (times.foldl recordedUse session.lastUsed).nanos ≤
          secondsNanos manager.config.idleTimeoutSecs) ∧
      (AllSucceed manager credential store times →
        (now.nanos - (latestUse session.lastUsed times).nanos ≤
            secondsNanos manager.config.idleTimeoutSecs - secondsNanos 60 →
          Succeeds manager credential (times.foldl (afterCall manager credential) store) now) ∧
        (Succeeds manager credential (times.foldl (afterCall manager credential) store) now →
          now.nanos - (latestUse session.lastUsed times).nanos ≤
            secondsNanos manager.config.idleTimeoutSecs)) := by
  have ends : EndsAt manager credential store session.expiresAt := by
    intro other isOther
    rw [found] at isOther
    rw [Option.some.inj isOther]
  have present : recordedIn manager credential store = some session.lastUsed := by
    rw [recordedIn, found]
    rfl
  obtain ⟨endsThere, whenAll, whenNot⟩ := run_idleClock enabled ends
    (fun time member => live time (List.mem_append_left _ member)) present
  have succeeds := (validate_idleClock enabled endsThere (live now (by simp))).2.2
  have exactly : Succeeds manager credential (times.foldl (afterCall manager credential) store)
      now ↔ AllSucceed manager credential store times ∧
        now.nanos - (times.foldl recordedUse session.lastUsed).nanos ≤
          secondsNanos manager.config.idleTimeoutSecs := by
    rw [succeeds]
    by_cases all : AllSucceed manager credential store times
    · rw [whenAll all, idleClock]
      split_ifs with idle
      · simp only [Option.isSome_none, Bool.false_eq_true, false_iff]
        omega
      · simp only [Option.isSome_some, true_iff]
        exact ⟨all, not_lt.mp idle⟩
    · rw [whenNot all]
      simp [idleClock, all]
  have behind : Behind (times.foldl recordedUse session.lastUsed)
      (latestUse session.lastUsed times) := by
    refine behind_latestUse ⟨le_refl _, by omega⟩ (ordered.sublist ?_)
    exact (List.sublist_append_left times [now]).cons_cons _
  refine ⟨exactly, fun all => ⟨fun recent => exactly.mpr ⟨all, ?_⟩, fun works => ?_⟩⟩
  · have late := behind.2
    have minute : secondsNanos 60 = 60 * 1000000000 := by decide
    omega
  · have recorded := (exactly.mp works).2
    have early := behind.1
    omega

end Calls

namespace IdleSample

def manager : AuthManager :=
  { AuthSample.managerOf 5 with
    config := { (AuthSample.managerOf 5).config with idleTimeoutSecs := 900 } }

def session : AuthSession := ⟨"alice", "operator", "acme", after ⟨0⟩ 3600, ⟨0⟩⟩

def store : AuthStore := (AuthSample.storeOf []).putAuthSession (manager.tokenHash "t") session

theorem succeeds_not_exact :
    Succeeds manager "t" store (after ⟨0⟩ 50) ∧
      (after ⟨0⟩ 920).nanos - (after ⟨0⟩ 50).nanos ≤ secondsNanos 900 ∧
      ¬Succeeds manager "t" (afterCall manager "t" store (after ⟨0⟩ 50)) (after ⟨0⟩ 920) := by
  refine ⟨?_, ?_, ?_⟩
  · unfold Succeeds
    decide +kernel
  · decide
  · unfold Succeeds
    decide +kernel

theorem succeeds_iff_recorded_fifteen_minutes :
    AllSucceed manager "t" store [after ⟨0⟩ 70] ∧
      Succeeds manager "t" ([after ⟨0⟩ 70].foldl (afterCall manager "t") store)
        (after ⟨0⟩ 940) := by
  have first : Succeeds manager "t" store (after ⟨0⟩ 70) := by
    unfold Succeeds
    decide +kernel
  have found : store.getAuthSession (manager.tokenHash "t") = some session :=
    AList.lookup_insert _
  have spec := @succeeds_iff_recorded manager "t" store session (after ⟨0⟩ 940) found (by decide)
    [after ⟨0⟩ 70] (by decide) (by decide)
  exact ⟨⟨first, trivial⟩, spec.1.mpr ⟨⟨first, trivial⟩, by decide⟩⟩

end IdleSample

end QuantaWatch.Gateway
