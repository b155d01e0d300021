import Mathlib

/-!
Finite runs of a deterministic step function: under a guard, with what the steps emit,
and as an observer sees them when the events of others are removed.
-/

namespace QuantaWatch.Lib.Transition

universe u v

variable {σ : Type u} {ε : Type v}

inductive Run (step : σ → ε → σ) (Allowed : σ → ε → Prop) : σ → List ε → σ → Prop where
  | nil (state : σ) : Run step Allowed state [] state
  | cons {state final : σ} {event : ε} {events : List ε} (allowed : Allowed state event)
      (rest : Run step Allowed (step state event) events final) :
      Run step Allowed state (event :: events) final

namespace Run

variable {step : σ → ε → σ} {Allowed : σ → ε → Prop} {start middle final : σ}
  {events others : List ε}

theorem append (first : Run step Allowed start events middle)
    (second : Run step Allowed middle others final) :
    Run step Allowed start (events ++ others) final := by
  induction first with
  | nil state => exact second
  | cons allowed _ ih => exact .cons allowed (ih second)

theorem invariant {Holds : σ → Prop}
    (kept : ∀ state event, Allowed state event → Holds state → Holds (step state event))
    (run : Run step Allowed start events final) (initially : Holds start) : Holds final := by
  induction run with
  | nil state => exact initially
  | cons allowed _ ih => exact ih (kept _ _ allowed initially)

theorem imp_of_invariant {Holds : σ → Prop} {Weaker : σ → ε → Prop}
    (kept : ∀ state event, Allowed state event → Holds state → Holds (step state event))
    (gives : ∀ state event, Allowed state event → Holds state → Weaker state event)
    (run : Run step Allowed start events final) (initially : Holds start) :
    Run step Weaker start events final := by
  induction run with
  | nil state => exact .nil state
  | cons allowed _ ih =>
    exact .cons (gives _ _ allowed initially) (ih (kept _ _ allowed initially))

theorem split (run : Run step Allowed start (events ++ others) final) :
    ∃ middle, Run step Allowed start events middle ∧ Run step Allowed middle others final := by
  induction events generalizing start with
  | nil => exact ⟨start, .nil start, run⟩
  | cons event events ih =>
    cases run with
    | cons allowed rest =>
      rcases ih rest with ⟨middle, first, second⟩
      exact ⟨middle, .cons allowed first, second⟩

theorem final_eq (run : Run step Allowed start events final) : final = events.foldl step start := by
  induction run with
  | nil state => rfl
  | cons _ _ ih => exact ih

end Run

theorem foldl_history {step : σ → ε → σ} {start : σ} (Holds : List ε → σ → Prop)
    {events : List ε} (initially : Holds [] start)
    (kept : ∀ history event later, events = history ++ event :: later →
      Holds history (history.foldl step start) →
      Holds (history ++ [event]) (step (history.foldl step start) event)) :
    Holds events (events.foldl step start) := by
  induction events using List.reverseRecOn with
  | nil => exact initially
  | append_singleton history event ih =>
    have before : Holds history (history.foldl step start) := by
      apply ih
      intro front middle later split holds
      apply kept front middle (later ++ [event]) _ holds
      rw [split, List.append_assoc, List.cons_append]
    rw [List.foldl_append]
    exact kept history event [] rfl before

universe w

structure Emission (σ : Type u) (ω : Type w) where
  output : List ω
  state : σ

namespace Emission

variable {ω : Type w}

def silent (state : σ) : Emission σ ω := ⟨[], state⟩

def each (op : ε → σ → Emission σ ω) : List ε → σ → Emission σ ω
  | [], state => silent state
  | event :: events, state =>
    let first := op event state
    let rest := each op events first.state
    ⟨first.output ++ rest.output, rest.state⟩

def All (Good : ω → Prop) (emission : Emission σ ω) : Prop := ∀ item ∈ emission.output, Good item

variable {op : ε → σ → Emission σ ω} {Good : ω → Prop} {start state : σ} {events : List ε}

@[simp]
theorem all_silent : (silent state : Emission σ ω).All Good := by
  simp [All, silent]

@[simp]
theorem all_nil : (⟨[], state⟩ : Emission σ ω).All Good := all_silent

@[simp]
theorem all_cons_iff {item : ω} {items : List ω} :
    (⟨item :: items, state⟩ : Emission σ ω).All Good ↔
      Good item ∧ (⟨items, state⟩ : Emission σ ω).All Good := by
  simp [All]

theorem all_each_cons_iff {event : ε} : (each op (event :: events) start).All Good ↔
      (op event start).All Good ∧ (each op events (op event start).state).All Good := by
  simp only [All, each, List.mem_append, or_imp, forall_and]

theorem all_each_iff_run {Allowed : σ → ε → Prop}
    (exactly : ∀ event state, (op event state).All Good ↔ Allowed state event) :
    (each op events start).All Good ↔
      Run (fun state event => (op event state).state) Allowed start events
        (each op events start).state := by
  induction events generalizing start with
  | nil => exact ⟨fun _ => .nil start, fun _ => all_silent⟩
  | cons event events ih =>
    rw [all_each_cons_iff, exactly, ih]
    constructor
    · intro both
      exact .cons both.1 both.2
    · intro run
      cases run with
      | cons allowed rest => exact ⟨allowed, rest⟩

theorem all_each_iff {Allowed : ε → Prop}
    (exactly : ∀ event state, (op event state).All Good ↔ Allowed event) :
    (each op events start).All Good ↔ ∀ event ∈ events, Allowed event := by
  induction events generalizing start with
  | nil => simp [each]
  | cons event events ih =>
    rw [all_each_cons_iff, exactly, ih, List.forall_mem_cons]

end Emission

end QuantaWatch.Lib.Transition

namespace QuantaWatch.Lib.NonInterference

universe u v

variable {σ : Type u} {ε : Type v}

theorem related_run {step : σ → ε → σ} {Related : σ → σ → Prop} {Sound : σ → Prop}
    {mine : ε → Bool} {events : List ε}
    (sound : ∀ state, ∀ event ∈ events, Sound state → Sound (step state event))
    (own : ∀ left right, ∀ event ∈ events, Sound left → Sound right → Related left right →
      mine event = true → Related (step left event) (step right event))
    (other : ∀ left right, ∀ event ∈ events, Sound left → Related left right →
      mine event = false → Related (step left event) right)
    (left right : σ) (soundLeft : Sound left) (soundRight : Sound right)
    (related : Related left right) :
    Related (events.foldl step left) ((events.filter mine).foldl step right) := by
  induction events generalizing left right with
  | nil => exact related
  | cons event events ih =>
    have rest := ih
      (fun state later member => sound state later (List.mem_cons_of_mem _ member))
      (fun first second later member => own first second later (List.mem_cons_of_mem _ member))
      (fun first second later member => other first second later (List.mem_cons_of_mem _ member))
    have here : event ∈ event :: events := List.mem_cons_self
    rw [List.foldl_cons]
    by_cases isMine : mine event = true
    · rw [List.filter_cons_of_pos isMine, List.foldl_cons]
      exact rest _ _ (sound left event here soundLeft) (sound right event here soundRight)
        (own left right event here soundLeft soundRight related isMine)
    · rw [List.filter_cons_of_neg isMine]
      exact rest _ _ (sound left event here soundLeft) soundRight
        (other left right event here soundLeft related (by simpa using isMine))

end QuantaWatch.Lib.NonInterference
