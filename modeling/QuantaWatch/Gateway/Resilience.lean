import Mathlib

/-!
The circuit breaker of one upstream provider (`resilience.rs`), and the probes of a half-open
circuit over interleavings of requests, as `proxy_handler` of `router.rs` makes them.
-/

namespace QuantaWatch.Gateway

inductive CircuitState where
  | closed
  | opened
  | halfOpen
deriving DecidableEq

structure CircuitInner where
  consecutiveFailures : UInt32
  state : CircuitState
  openUntil : Option Nat

structure CircuitBreaker where
  failureThreshold : UInt32
  cooldown : Nat
  positive : 1 ≤ failureThreshold.toNat

inductive BreakerCall where
  | allow (now : Nat)
  | recordSuccess
  | recordFailure (now : Nat)
deriving DecidableEq

/-- `u32::max`. -/
theorem toNat_max (left right : UInt32) : (max left right).toNat = max left.toNat right.toNat := by
  have unfolded : max left right = if left ≤ right then right else left := rfl
  by_cases less : left ≤ right
  · rw [unfolded, if_pos less, max_eq_right (UInt32.le_iff_toNat_le.mp less)]
  · rw [unfolded, if_neg less, max_eq_left]
    rw [UInt32.le_iff_toNat_le] at less
    omega

namespace CircuitBreaker

def new (failureThreshold : UInt32) (cooldown : Nat) : CircuitBreaker where
  failureThreshold := max failureThreshold 1
  cooldown
  positive := by
    rw [toNat_max]
    exact le_max_right _ _

def initial : CircuitInner where
  consecutiveFailures := 0
  state := .closed
  openUntil := none

def allowAt (inner : CircuitInner) (now : Nat) : Bool × CircuitInner :=
  match inner.state with
  | .closed => (true, inner)
  | .halfOpen => (true, inner)
  | .opened =>
    match inner.openUntil with
    | some limit =>
      if limit ≤ now then (true, { inner with state := .halfOpen }) else (false, inner)
    | none => (true, inner)

def recordSuccess : CircuitInner where
  consecutiveFailures := 0
  state := .closed
  openUntil := none

def recordFailureAt (breaker : CircuitBreaker) (inner : CircuitInner) (now : Nat) : CircuitInner :=
  let failures := inner.consecutiveFailures + 1
  if inner.state = .halfOpen ∨ breaker.failureThreshold ≤ failures then
    { consecutiveFailures := failures
      state := .opened
      openUntil := some (now + breaker.cooldown) }
  else { inner with consecutiveFailures := failures }

def step (breaker : CircuitBreaker) (inner : CircuitInner) : BreakerCall → CircuitInner
  | .allow now => (allowAt inner now).2
  | .recordSuccess => recordSuccess
  | .recordFailure now => breaker.recordFailureAt inner now

def run (breaker : CircuitBreaker) (calls : List BreakerCall) : CircuitInner :=
  calls.foldl breaker.step initial

end CircuitBreaker

namespace BreakerCall

def time : BreakerCall → Option Nat
  | .allow now => some now
  | .recordSuccess => none
  | .recordFailure now => some now

def failedAt : BreakerCall → Option Nat
  | .recordFailure now => some now
  | _ => none

def failures (history : List BreakerCall) : List Nat := history.filterMap failedAt

def sinceSuccess (history : List BreakerCall) : List BreakerCall :=
  history.rtakeWhile (· ≠ .recordSuccess)

def streak (history : List BreakerCall) : Nat := (failures (sinceSuccess history)).length

def Timely (history : List BreakerCall) : Prop := (history.filterMap time).Pairwise (· ≤ ·)

def Down (failureThreshold cooldown : Nat) (history : List BreakerCall) (now : Nat) : Prop :=
  max failureThreshold 1 ≤ streak history ∧
    ∃ last, (failures history).getLast? = some last ∧ now < last + cooldown

variable {history : List BreakerCall} {now : Nat}

@[simp]
theorem failures_allow : failures (history ++ [.allow now]) = failures history := by
  simp [failures, failedAt]

@[simp]
theorem failures_recordFailure :
    failures (history ++ [.recordFailure now]) = failures history ++ [now] := by
  simp [failures, failedAt]

@[simp]
theorem streak_allow : streak (history ++ [.allow now]) = streak history := by
  simp [streak, sinceSuccess]

@[simp]
theorem streak_recordSuccess : streak (history ++ [.recordSuccess]) = 0 := by
  simp [streak, sinceSuccess, failures]

@[simp]
theorem streak_recordFailure : streak (history ++ [.recordFailure now]) = streak history + 1 := by
  simp [streak, sinceSuccess]

theorem streak_le (history : List BreakerCall) : streak history ≤ (failures history).length := by
  have part : (sinceSuccess history).Sublist history := (List.rtakeWhile_suffix _ _).sublist
  exact (part.filterMap failedAt).length_le

end BreakerCall

namespace CircuitBreaker

open BreakerCall

variable {breaker : CircuitBreaker} {history : List BreakerCall} {inner : CircuitInner}
  {now : Nat}

structure Tracks (breaker : CircuitBreaker) (history : List BreakerCall) (inner : CircuitInner) :
    Prop where
  counted : inner.consecutiveFailures.toNat = streak history
  closed : inner.state = .closed → streak history < breaker.failureThreshold.toNat
  tripped : inner.state ≠ .closed → breaker.failureThreshold.toNat ≤ streak history
  opened : inner.state = .opened → ∃ last, (failures history).getLast? = some last ∧
    inner.openUntil = some (last + breaker.cooldown)
  halfOpen : inner.state = .halfOpen → ∃ last probe, (failures history).getLast? = some last ∧
    last + breaker.cooldown ≤ probe ∧ probe ∈ history.filterMap time

theorem tracks_initial : breaker.Tracks [] initial where
  counted := rfl
  closed _ := breaker.positive
  tripped differs := absurd rfl differs
  opened isOpen := nomatch isOpen
  halfOpen isHalfOpen := nomatch isHalfOpen

theorem Tracks.allow (tracks : breaker.Tracks history inner) :
    breaker.Tracks (history ++ [.allow now]) (allowAt inner now).2 := by
  have same : breaker.Tracks (history ++ [.allow now]) inner := by
    refine ⟨?_, ?_, ?_, ?_, ?_⟩
    · rw [streak_allow]
      exact tracks.counted
    · rw [streak_allow]
      exact tracks.closed
    · rw [streak_allow]
      exact tracks.tripped
    · rw [failures_allow]
      exact tracks.opened
    · rw [failures_allow]
      intro isHalfOpen
      rcases tracks.halfOpen isHalfOpen with ⟨last, probe, isLast, past, seen⟩
      refine ⟨last, probe, isLast, past, ?_⟩
      rw [List.filterMap_append]
      exact List.mem_append_left _ seen
  unfold allowAt
  cases state : inner.state with
  | closed => exact same
  | halfOpen => exact same
  | opened =>
    rcases tracks.opened state with ⟨last, isLast, isLimit⟩
    simp only [isLimit]
    by_cases past : last + breaker.cooldown ≤ now
    · rw [if_pos past]
      refine ⟨same.counted, ?_, ?_, ?_, ?_⟩
      · intro isClosed
        contradiction
      · intro _
        exact same.tripped (by rw [state]; decide)
      · intro isOpen
        contradiction
      · intro _
        exact ⟨last, now, by rw [failures_allow, isLast], past, by simp [time]⟩
    · rw [if_neg past]
      exact same

theorem tracks_recordSuccess : breaker.Tracks (history ++ [.recordSuccess]) recordSuccess where
  counted := streak_recordSuccess.symm
  closed _ := by
    rw [streak_recordSuccess]
    exact breaker.positive
  tripped differs := absurd rfl differs
  opened isOpen := nomatch isOpen
  halfOpen isHalfOpen := nomatch isHalfOpen

theorem Tracks.recordFailure (tracks : breaker.Tracks history inner)
    (fits : streak history + 1 < 2 ^ 32) :
    breaker.Tracks (history ++ [.recordFailure now]) (breaker.recordFailureAt inner now) := by
  have counted : (inner.consecutiveFailures + 1).toNat = streak history + 1 := by
    have one : (1 : UInt32).toNat = 1 := rfl
    rw [UInt32.toNat_add, tracks.counted, one, Nat.mod_eq_of_lt fits]
  have reaches : breaker.failureThreshold ≤ inner.consecutiveFailures + 1 ↔
      breaker.failureThreshold.toNat ≤ streak history + 1 := by
    rw [UInt32.le_iff_toNat_le, counted]
  unfold recordFailureAt
  by_cases trips : inner.state = .halfOpen ∨
      breaker.failureThreshold ≤ inner.consecutiveFailures + 1
  · rw [if_pos trips]
    refine ⟨?_, ?_, ?_, ?_, ?_⟩
    · rw [streak_recordFailure]
      exact counted
    · intro isClosed
      contradiction
    · intro _
      rw [streak_recordFailure]
      rcases trips with probing | enough
      · have before := tracks.tripped (by rw [probing]; decide)
        omega
      · exact reaches.mp enough
    · intro _
      exact ⟨now, by simp, rfl⟩
    · intro isHalfOpen
      contradiction
  · -- below the threshold the circuit was closed, and stays so
    rw [if_neg trips]
    rw [not_or, reaches] at trips
    have isClosed : inner.state = .closed := by
      by_contra differs
      have before := tracks.tripped differs
      omega
    refine ⟨?_, ?_, ?_, ?_, ?_⟩
    · rw [streak_recordFailure]
      exact counted
    · intro _
      rw [streak_recordFailure]
      omega
    · intro differs
      exact absurd isClosed differs
    · intro isOpen
      rw [isClosed] at isOpen
      contradiction
    · intro isHalfOpen
      exact absurd isHalfOpen trips.1

theorem tracks_run (few : (failures history).length < 2 ^ 32) :
    breaker.Tracks history (breaker.run history) := by
  induction history using List.reverseRecOn with
  | nil => exact tracks_initial
  | append_singleton history call ih =>
    rw [run, List.foldl_append]
    cases call with
    | allow now =>
      rw [failures_allow] at few
      exact (ih few).allow
    | recordSuccess => exact tracks_recordSuccess
    | recordFailure now =>
      rw [failures_recordFailure, List.length_append, List.length_singleton] at few
      have bound := streak_le history
      exact (ih (by omega)).recordFailure (by omega)

end CircuitBreaker

inductive RequestEvent where
  | arrive (request now : Nat)
  | succeed (request : Nat)
  | fail (request now : Nat)

namespace RequestEvent

def call : RequestEvent → BreakerCall
  | arrive _ now => .allow now
  | succeed _ => .recordSuccess
  | fail _ now => .recordFailure now

def arrival : RequestEvent → Option (Nat × Nat)
  | arrive request now => some (request, now)
  | _ => none

def outcome : RequestEvent → Option Nat
  | arrive _ _ => none
  | succeed request => some request
  | fail request _ => some request

end RequestEvent

open RequestEvent

def arrivalAt (events : List RequestEvent) (index : Nat) : Option (Nat × Nat) :=
  events[index]?.bind arrival

def outcomeAt (events : List RequestEvent) (index : Nat) : Option Nat :=
  events[index]?.bind outcome

namespace BreakerCall

def sinceFailure (history : List BreakerCall) : List BreakerCall :=
  history.rtakeWhile fun call => call.failedAt = none

variable {history : List BreakerCall} {now : Nat}

@[simp]
theorem sinceFailure_allow :
    sinceFailure (history ++ [.allow now]) = sinceFailure history ++ [.allow now] := by
  simp [sinceFailure, failedAt]

@[simp]
theorem sinceFailure_recordFailure : sinceFailure (history ++ [.recordFailure now]) = [] := by
  simp [sinceFailure, failedAt]

def Waiting (threshold cooldown : Nat) (history : List BreakerCall) : Prop :=
  threshold ≤ streak history ∧ ∃ last ∈ (failures history).getLast?,
    ∀ instant ∈ (sinceFailure history).filterMap time, instant < last + cooldown

def Shut (threshold cooldown : Nat) (history : List BreakerCall) (now : Nat) : Prop :=
  Waiting threshold cooldown history ∧ ∃ last ∈ (failures history).getLast?, now < last + cooldown

def Over (threshold cooldown : Nat) (history : List BreakerCall) (now : Nat) : Prop :=
  Waiting threshold cooldown history ∧ ∃ last ∈ (failures history).getLast?, last + cooldown ≤ now

instance (threshold cooldown : Nat) (history : List BreakerCall) :
    Decidable (Waiting threshold cooldown history) :=
  inferInstanceAs (Decidable (_ ∧ _))

instance (threshold cooldown : Nat) (history : List BreakerCall) (now : Nat) :
    Decidable (Shut threshold cooldown history now) :=
  inferInstanceAs (Decidable (_ ∧ _))

instance (threshold cooldown : Nat) (history : List BreakerCall) (now : Nat) :
    Decidable (Over threshold cooldown history now) :=
  inferInstanceAs (Decidable (_ ∧ _))

end BreakerCall

namespace CircuitBreaker

open BreakerCall

variable {breaker : CircuitBreaker} {history : List BreakerCall} {inner : CircuitInner}
  {now : Nat}

structure Waits (breaker : CircuitBreaker) (history : List BreakerCall) (inner : CircuitInner) :
    Prop where
  opened : inner.state = .opened → ∀ last ∈ (failures history).getLast?,
    ∀ instant ∈ (sinceFailure history).filterMap time, instant < last + breaker.cooldown
  halfOpen : inner.state = .halfOpen → ∀ last ∈ (failures history).getLast?,
    ∃ instant ∈ (sinceFailure history).filterMap time, last + breaker.cooldown ≤ instant

theorem waits_of_closed (isClosed : inner.state = .closed) : breaker.Waits history inner where
  opened isOpen := by
    rw [isClosed] at isOpen
    contradiction
  halfOpen isHalfOpen := by
    rw [isClosed] at isHalfOpen
    contradiction

theorem Waits.allow (tracks : breaker.Tracks history inner) (waits : breaker.Waits history inner) :
    breaker.Waits (history ++ [.allow now]) (allowAt inner now).2 := by
  have times : (sinceFailure (history ++ [.allow now])).filterMap time =
      (sinceFailure history).filterMap time ++ [now] := by
    simp [time]
  unfold allowAt
  cases state : inner.state with
  | closed => exact waits_of_closed state
  | halfOpen =>
    refine ⟨fun isOpen => ?_, fun _ last isLast => ?_⟩
    · rw [state] at isOpen
      contradiction
    · rw [failures_allow] at isLast
      obtain ⟨instant, member, past⟩ := waits.halfOpen state last isLast
      exact ⟨instant, times ▸ List.mem_append_left _ member, past⟩
  | opened =>
    obtain ⟨last, isLast, isLimit⟩ := tracks.opened state
    simp only [isLimit]
    by_cases past : last + breaker.cooldown ≤ now
    · rw [if_pos past]
      refine ⟨fun isOpen => (by cases isOpen), fun _ other isOther => ?_⟩
      rw [failures_allow, isLast, Option.mem_some_iff] at isOther
      subst isOther
      exact ⟨now, times ▸ List.mem_append_right _ List.mem_cons_self, past⟩
    · rw [if_neg past]
      refine ⟨fun _ other isOther => ?_, fun isHalfOpen => ?_⟩
      · rw [failures_allow, isLast, Option.mem_some_iff] at isOther
        subst isOther
        intro instant member
        rw [times, List.mem_append, List.mem_singleton] at member
        obtain earlier | rfl := member
        · exact waits.opened state last isLast instant earlier
        · omega
      · rw [state] at isHalfOpen
        contradiction

theorem waits_recordFailure :
    breaker.Waits (history ++ [.recordFailure now]) (breaker.recordFailureAt inner now) := by
  refine ⟨fun _ last _ instant member => ?_, fun isHalfOpen => ?_⟩
  · rw [sinceFailure_recordFailure] at member
    exact absurd member List.not_mem_nil
  · -- a recorded failure never leaves the circuit half open
    simp only [recordFailureAt] at isHalfOpen
    split_ifs at isHalfOpen with trips
    exact absurd (.inl isHalfOpen) trips

variable (few : (failures history).length < 2 ^ 32)

include few

theorem waits_run : breaker.Waits history (breaker.run history) := by
  induction history using List.reverseRecOn with
  | nil => exact waits_of_closed rfl
  | append_singleton history call ih =>
    rw [run, List.foldl_append]
    cases call with
    | allow now =>
      rw [failures_allow] at few
      exact (ih few).allow (tracks_run few)
    | recordSuccess => exact waits_of_closed rfl
    | recordFailure now => exact waits_recordFailure

theorem opened_iff_waiting : (breaker.run history).state = .opened ↔
      Waiting breaker.failureThreshold.toNat breaker.cooldown history := by
  have tracks := @tracks_run breaker history few
  have waits := @waits_run breaker history few
  constructor
  · intro isOpen
    obtain ⟨last, isLast, -⟩ := tracks.opened isOpen
    exact ⟨tracks.tripped (by rw [isOpen]; decide), last, isLast,
      waits.opened isOpen last isLast⟩
  · rintro ⟨long, last, isLast, early⟩
    cases state : (breaker.run history).state with
    | opened => rfl
    | closed =>
      have short := tracks.closed state
      omega
    | halfOpen =>
      obtain ⟨instant, member, past⟩ := waits.halfOpen state last isLast
      have before := early instant member
      omega

theorem allowAt_of_opened (isOpen : (breaker.run history).state = .opened) :
    (allowAt (breaker.run history) now).1 = true ↔
      ∃ last ∈ (failures history).getLast?, last + breaker.cooldown ≤ now := by
  obtain ⟨last, isLast, isLimit⟩ := (@tracks_run breaker history few).opened isOpen
  simp only [allowAt, isOpen, isLimit]
  rw [isLast]
  by_cases past : last + breaker.cooldown ≤ now <;> simp [past]

theorem rejected_iff_shut : (allowAt (breaker.run history) now).1 = false ↔
      Shut breaker.failureThreshold.toNat breaker.cooldown history now := by
  rw [Shut, ← opened_iff_waiting few]
  by_cases isOpen : (breaker.run history).state = .opened
  · obtain ⟨last, isLast, -⟩ := (@tracks_run breaker history few).opened isOpen
    rw [← Bool.not_eq_true, allowAt_of_opened few isOpen]
    simp [isOpen, isLast]
  · refine iff_of_false ?_ fun both => isOpen both.1
    cases state : (breaker.run history).state with
    | opened => exact absurd state isOpen
    | closed => simp [allowAt, state]
    | halfOpen => simp [allowAt, state]

omit few

section Interleavings

variable (breaker : CircuitBreaker) (events : List RequestEvent)

def after : CircuitInner := breaker.run (events.map call)

def Passes (now : Nat) : Prop := (allowAt (breaker.after events) now).1 = true

def Probes (now : Nat) : Prop :=
  (breaker.after events).state = .opened ∧ breaker.Passes events now

instance (now : Nat) : Decidable (breaker.Passes events now) :=
  inferInstanceAs (Decidable (_ = true))

instance (now : Nat) : Decidable (breaker.Probes events now) :=
  inferInstanceAs (Decidable (_ ∧ _))

structure Interleaved : Prop where
  once : ((events.filterMap arrival).map Prod.fst).Nodup
  settled : ∀ index < events.length, ∀ request ∈ outcomeAt events index,
    request ∉ (events.take index).filterMap outcome ∧
      ∃ earlier < index, ∃ first ∈ arrivalAt events earlier,
        first.1 = request ∧ breaker.Passes (events.take earlier) first.2

def Overlapping (first second : Nat) (probe : Nat) : Prop :=
  probe ∉ ((events.take second).drop (first + 1)).filterMap outcome

instance (first second probe : Nat) : Decidable (Overlapping events first second probe) :=
  inferInstanceAs (Decidable (¬ _))

def OneProbe : Prop :=
  ∀ second < events.length, ∀ first < second,
    ∀ probe ∈ arrivalAt events first, ∀ other ∈ arrivalAt events second,
      breaker.Probes (events.take first) probe.2 → Overlapping events first second probe.1 →
        ¬ breaker.Passes (events.take second) other.2

def Guarded : Prop :=
  ∀ second < events.length, ∀ first < second,
    ∀ probe ∈ arrivalAt events first, ∀ other ∈ arrivalAt events second,
      Over breaker.failureThreshold.toNat breaker.cooldown ((events.take first).map call) probe.2 →
        Overlapping events first second probe.1 →
          Shut breaker.failureThreshold.toNat breaker.cooldown ((events.take second).map call)
            other.2

instance : Decidable (breaker.Guarded events) :=
  inferInstanceAs (Decidable (∀ second < events.length, ∀ first < second,
    ∀ probe ∈ arrivalAt events first, ∀ other ∈ arrivalAt events second, _ → _ → _))

end Interleavings

section Probes

variable {breaker : CircuitBreaker} {events : List RequestEvent}

theorem few_take (few : (failures (events.map call)).length < 2 ^ 32) (index : Nat) :
    (failures ((events.take index).map call)).length < 2 ^ 32 := by
  have part := ((List.take_sublist index events).map call).filterMap failedAt
  exact part.length_le.trans_lt few

theorem probes_iff_over (few : (failures (events.map call)).length < 2 ^ 32) {now : Nat} :
    breaker.Probes events now ↔
      Over breaker.failureThreshold.toNat breaker.cooldown (events.map call) now := by
  rw [Probes, Over, ← opened_iff_waiting few]
  exact and_congr_right fun isOpen => allowAt_of_opened few isOpen

/-- In an interleaving with fewer than `2 ^ 32` failures, at most one request passes for each
probe exactly if the others come within the cooldown of a failure that was recorded since. -/
theorem oneProbe_iff_guarded (few : (failures (events.map call)).length < 2 ^ 32) :
    breaker.OneProbe events ↔ breaker.Guarded events := by
  have probes := fun index (now : Nat) =>
    @probes_iff_over breaker (events.take index) (few_take few index) now
  have passes : ∀ index now, ¬ breaker.Passes (events.take index) now ↔
      Shut breaker.failureThreshold.toNat breaker.cooldown ((events.take index).map call) now := by
    intro index now
    rw [← rejected_iff_shut (few_take few index), ← Bool.not_eq_true]
    rfl
  simp only [OneProbe, Guarded, probes, passes]

end Probes

def latecomer : List RequestEvent :=
  [.arrive 0 0, .arrive 1 0, .arrive 2 0, .arrive 3 0, .fail 1 1, .fail 2 2, .fail 3 3,
    .arrive 4 40, .fail 0 41, .arrive 5 50]

theorem latecomer_oneProbe :
    (failures (latecomer.map call)).length < 2 ^ 32 ∧ (new 3 30).OneProbe latecomer := by
  have few : (failures (latecomer.map call)).length < 2 ^ 32 := by decide
  exact ⟨few, (oneProbe_iff_guarded few).mpr (by decide)⟩

def secondProbe : List RequestEvent :=
  [.arrive 1 0, .arrive 2 0, .arrive 3 0, .fail 1 1, .fail 2 2, .fail 3 3, .arrive 4 40,
    .arrive 5 41]

theorem secondProbe_passes :
    (new 3 30).Interleaved secondProbe ∧ ¬ (new 3 30).OneProbe secondProbe := by
  refine ⟨⟨by decide, by decide⟩, fun oneProbe => ?_⟩
  exact oneProbe 7 (by decide) 6 (by decide) (4, 40) rfl (5, 41) rfl (by decide) (by decide)
    (by decide)

end CircuitBreaker

end QuantaWatch.Gateway
