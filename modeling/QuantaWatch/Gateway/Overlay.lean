import QuantaWatch.Lib.Transition

/-!
The PQC-terminating proxy overlay (`qw-gateway/src/overlay.rs`).

A route is an accept loop on a socket and an entry in a list. Both hold one record of
counters. The list is what the dashboard shows; the loops are what forwards. A call
changes the list, and it starts loops, but only the end of the process stops one.
-/

namespace QuantaWatch.Gateway

open Lib.Transition

structure OverlayRoute where
  id : String
  listen : String
  upstream : String
  upstreamTls : Bool
  mode : String

/-- The counters of `RouteStats`. They wrap around. -/
structure RouteCounters where
  active : UInt64 := 0
  total : UInt64 := 0
  pqcConnections : UInt64 := 0
  rejectedClassical : UInt64 := 0
  bytes : UInt64 := 0
  errors : UInt64 := 0
  lastGroup : Option String := none

/-- A shared `RouteStats`: the route, which never changes, and where its counters are. -/
structure RouteStats where
  route : OverlayRoute
  counters : Nat

structure OverlayState where
  enabled : Bool
  certSource : String
  hasServerConfig : Bool
  routes : List RouteStats
  listeners : List RouteStats
  counters : Nat → RouteCounters
  records : Nat

def isPqcGroup (name : String) : Bool :=
  let upper := name.toList.map Char.toUpper
  decide ("MLKEM".toList <:+: upper) || decide ("KYBER".toList <:+: upper)

abbrev ClientLeg := Except String (Option String)

def ClientLeg.isPqc : ClientLeg → Bool
  | .ok (some group) => isPqcGroup group
  | _ => false

inductive UpstreamLeg where
  | failed (reason : String)
  | piped (result : Except String UInt64)

/-- `handle_conn` gets as far as piping data. -/
def forwards (route : OverlayRoute) (client : ClientLeg) (upstream : UpstreamLeg) : Bool :=
  match client with
  | .error _ => false
  | .ok _ =>
    if route.mode = "pqc-only" ∧ client.isPqc = false then false
    else
      match upstream with
      | .failed _ => false
      | .piped _ => true

/-- What `handle_conn` leaves in the counters. It counts the connection as active while it
runs. -/
def handleConn (route : OverlayRoute) (client : ClientLeg) (upstream : UpstreamLeg)
    (counters : RouteCounters) : RouteCounters :=
  let counted := { counters with total := counters.total + 1 }
  match client with
  | .error _ => { counted with errors := counted.errors + 1 }
  | .ok group =>
    let seen := { counted with
      lastGroup := group.orElse fun _ => counted.lastGroup
      pqcConnections :=
        if client.isPqc then counted.pqcConnections + 1 else counted.pqcConnections }
    if route.mode = "pqc-only" ∧ client.isPqc = false then
      { seen with
        rejectedClassical := seen.rejectedClassical + 1
        errors := seen.errors + 1 }
    else
      match upstream with
      | .failed _ => { seen with errors := seen.errors + 1 }
      | .piped (.error _) => { seen with errors := seen.errors + 1 }
      | .piped (.ok bytes) => { seen with bytes := seen.bytes + bytes }

/-- How `add_route` ends. -/
inductive AddOutcome where
  | noServerConfig
  | unbound
  | bound (address : String)

namespace OverlayState

def disabled (records : Nat) : OverlayState where
  enabled := false
  certSource := "n/a"
  hasServerConfig := false
  routes := []
  listeners := []
  counters _ := {}
  records

/-- `ensure_server_cfg`, where it succeeds. -/
def ensureServerConfig (state : OverlayState) : OverlayState :=
  if state.hasServerConfig then state
  else { state with hasServerConfig := true, certSource := "self-signed (runtime)" }

/-- `remove_route`: the entries go, the loops stay. -/
def removeRoute (state : OverlayState) (id : String) : OverlayState :=
  { state with routes := state.routes.filter fun entry => entry.route.id ≠ id }

def bind (state : OverlayState) (route : OverlayRoute) : OverlayState :=
  let stats : RouteStats := ⟨route, state.records⟩
  { state with
    routes := (state.removeRoute route.id).routes ++ [stats]
    listeners := state.listeners ++ [stats]
    records := state.records + 1 }

def addRoute (state : OverlayState) (route : OverlayRoute) : AddOutcome → OverlayState
  | .noServerConfig => state
  | .unbound => state.ensureServerConfig
  | .bound address => state.ensureServerConfig.bind { route with listen := address }

def connect (state : OverlayState) (listener : RouteStats) (client : ClientLeg)
    (upstream : UpstreamLeg) : OverlayState :=
  { state with
    counters := Function.update state.counters listener.counters
      (handleConn listener.route client upstream (state.counters listener.counters)) }

/-- One configured route of `spawn`: it is listed, and it has a listener if it is bound. -/
def spawnRoute (state : OverlayState) (route : OverlayRoute) (bound : Bool) : OverlayState :=
  let stats : RouteStats := ⟨route, state.records⟩
  { state with
    routes := state.routes ++ [stats]
    listeners := if bound then state.listeners ++ [stats] else state.listeners
    counters := if bound then state.counters
      else Function.update state.counters state.records { errors := 1 }
    records := state.records + 1 }

end OverlayState

structure Startup where
  configured : List (OverlayRoute × Bool)
  certSource : String
  persisted : List (OverlayRoute × AddOutcome)

/-- `spawn` after the end of a process: nothing of it is left but the numbering. A disabled
overlay is one without configured routes. -/
def OverlayState.spawn (records : Nat) (startup : Startup) : OverlayState :=
  if startup.configured = [] then .disabled records
  else
    startup.configured.foldl (fun state entry => state.spawnRoute entry.1 entry.2)
      { OverlayState.disabled records with
        enabled := true
        certSource := startup.certSource
        hasServerConfig := true }

/-- `spawn`, and the routes that were protected before the restart. -/
def OverlayState.restart (state : OverlayState) (startup : Startup) : OverlayState :=
  startup.persisted.foldl (fun state entry => state.addRoute entry.1 entry.2)
    (OverlayState.spawn state.records startup)

inductive OverlayEvent where
  | addRoute (route : OverlayRoute) (outcome : AddOutcome)
  | removeRoute (id : String)
  | connection (listener : RouteStats) (client : ClientLeg) (upstream : UpstreamLeg)
  | restart (startup : Startup)

namespace OverlayEvent

def isRestart : OverlayEvent → Bool
  | restart _ => true
  | _ => false

def binds : OverlayEvent → List OverlayRoute
  | addRoute route _ => [route]
  | restart startup =>
    startup.configured.map Prod.fst ++ startup.persisted.map Prod.fst
  | _ => []

end OverlayEvent

namespace OverlayState

def step (state : OverlayState) : OverlayEvent → OverlayState
  | .addRoute route outcome => state.addRoute route outcome
  | .removeRoute id => state.removeRoute id
  | .connection listener client upstream => state.connect listener client upstream
  | .restart startup => state.restart startup

def Allowed (state : OverlayState) : OverlayEvent → Prop
  | .connection listener _ _ => listener ∈ state.listeners
  | _ => True

def Forwards (state : OverlayState) (listener : RouteStats) (client : ClientLeg)
    (upstream : UpstreamLeg) : Prop :=
  listener ∈ state.listeners ∧ forwards listener.route client upstream = true

end OverlayState

def RouteStats.Serves (listener : RouteStats) (route : OverlayRoute) : Prop :=
  listener.route.id = route.id ∧ listener.route.mode = route.mode

section

variable {state : OverlayState} {listener : RouteStats}

theorem listeners_ensureServerConfig : state.ensureServerConfig.listeners = state.listeners := by
  unfold OverlayState.ensureServerConfig
  split_ifs <;> rfl

variable {route : OverlayRoute}

theorem mem_listeners_addRoute {outcome : AddOutcome}
    (live : listener ∈ (state.addRoute route outcome).listeners) :
    listener ∈ state.listeners ∨ listener.Serves route := by
  cases outcome with
  | noServerConfig => exact Or.inl live
  | unbound =>
    rw [OverlayState.addRoute, listeners_ensureServerConfig] at live
    exact Or.inl live
  | bound address =>
    simp only [OverlayState.addRoute, OverlayState.bind, listeners_ensureServerConfig,
      List.mem_append, List.mem_singleton] at live
    rcases live with live | rfl
    · exact Or.inl live
    · exact Or.inr ⟨rfl, rfl⟩

theorem mem_listeners_spawnRoute {bound : Bool}
    (live : listener ∈ (state.spawnRoute route bound).listeners) :
    listener ∈ state.listeners ∨ listener.Serves route := by
  cases bound with
  | false => exact Or.inl live
  | true =>
    rcases List.mem_append.mp live with live | new
    · exact Or.inl live
    · rw [List.mem_singleton.mp new]
      exact Or.inr ⟨rfl, rfl⟩

theorem mem_listeners_foldl {α : Type} {routeOf : α → OverlayRoute}
    {op : OverlayState → α → OverlayState}
    (one : ∀ state entry, listener ∈ (op state entry).listeners →
      listener ∈ state.listeners ∨ listener.Serves (routeOf entry))
    {entries : List α} (live : listener ∈ (entries.foldl op state).listeners) :
    listener ∈ state.listeners ∨ ∃ entry ∈ entries, listener.Serves (routeOf entry) := by
  induction entries generalizing state with
  | nil => exact Or.inl live
  | cons entry entries ih =>
    rcases ih live with before | ⟨later, member, serves⟩
    · rcases one state entry before with before | serves
      · exact Or.inl before
      · exact Or.inr ⟨entry, List.mem_cons_self, serves⟩
    · exact Or.inr ⟨later, List.mem_cons_of_mem entry member, serves⟩

theorem mem_listeners_spawn {records : Nat} {startup : Startup}
    (live : listener ∈ (OverlayState.spawn records startup).listeners) :
    ∃ entry ∈ startup.configured, listener.Serves entry.1 := by
  unfold OverlayState.spawn at live
  split_ifs at live with none
  · simp [OverlayState.disabled] at live
  · have one (state : OverlayState) (entry : OverlayRoute × Bool)
        (live : listener ∈ (state.spawnRoute entry.1 entry.2).listeners) :
        listener ∈ state.listeners ∨ listener.Serves entry.1 := mem_listeners_spawnRoute live
    rcases mem_listeners_foldl one live with before | serves
    · simp [OverlayState.disabled] at before
    · exact serves

theorem mem_listeners_step {event : OverlayEvent} (live : listener ∈ (state.step event).listeners) :
    (listener ∈ state.listeners ∧ event.isRestart = false) ∨
      ∃ route ∈ event.binds, listener.Serves route := by
  cases event with
  | addRoute route outcome =>
    rcases mem_listeners_addRoute live with before | serves
    · exact Or.inl ⟨before, rfl⟩
    · exact Or.inr ⟨route, List.mem_singleton_self route, serves⟩
  | removeRoute id => exact Or.inl ⟨live, rfl⟩
  | connection target client upstream => exact Or.inl ⟨live, rfl⟩
  | restart startup =>
    right
    have one (state : OverlayState) (entry : OverlayRoute × AddOutcome)
        (live : listener ∈ (state.addRoute entry.1 entry.2).listeners) :
        listener ∈ state.listeners ∨ listener.Serves entry.1 := mem_listeners_addRoute live
    rcases mem_listeners_foldl one live with spawned | ⟨entry, member, serves⟩
    · rcases mem_listeners_spawn spawned with ⟨entry, member, serves⟩
      exact ⟨entry.1, List.mem_append_left _ (List.mem_map_of_mem member), serves⟩
    · exact ⟨entry.1, List.mem_append_right _ (List.mem_map_of_mem member), serves⟩

theorem mem_listeners_run {start : OverlayState} {events : List OverlayEvent}
    (run : Run OverlayState.step OverlayState.Allowed start events state)
    (live : listener ∈ state.listeners) :
    (listener ∈ start.listeners ∧ ∀ event ∈ events, event.isRestart = false) ∨
      ∃ event ∈ events, ∃ route ∈ event.binds, listener.Serves route := by
  induction run with
  | nil state => exact Or.inl ⟨live, by simp⟩
  | cons allowed rest ih =>
    rcases ih live with ⟨before, noRestart⟩ | ⟨event, member, serves⟩
    · rcases mem_listeners_step before with ⟨earlier, notRestart⟩ | serves
      · exact Or.inl ⟨earlier, List.forall_mem_cons.mpr ⟨notRestart, noRestart⟩⟩
      · exact Or.inr ⟨_, List.mem_cons_self, serves⟩
    · exact Or.inr ⟨event, List.mem_cons_of_mem _ member, serves⟩

theorem forwards_eq_false_of_pqcOnly {client : ClientLeg} {upstream : UpstreamLeg}
    (pqcOnly : route.mode = "pqc-only") (classical : client.isPqc = false) :
    forwards route client upstream = false := by
  cases client with
  | error reason => rfl
  | ok group => simp only [forwards, pqcOnly, classical, and_self, if_true]

end

/-- Binding a route again and removing it take effect for new loops and at the next restart.
After a route was bound again in `pqc-only` mode, a connection with a classical group is
forwarded for it only through a loop from before, and only until a restart; after it was
removed, any connection is. -/
theorem forwarded_through_earlier_loop (start : OverlayState) (id : String) :
    (∀ (route : OverlayRoute) (address : String) (events : List OverlayEvent)
        (state : OverlayState), route.id = id → route.mode = "pqc-only" →
        Run OverlayState.step OverlayState.Allowed
          (start.step (.addRoute route (.bound address))) events state →
        (∀ event ∈ events, ∀ bound ∈ event.binds, bound.id = id → bound.mode = "pqc-only") →
        ∀ listener client upstream, state.Forwards listener client upstream →
          listener.route.id = id → client.isPqc = false →
          listener ∈ start.listeners ∧ ∀ event ∈ events, event.isRestart = false) ∧
    (∀ (events : List OverlayEvent) (state : OverlayState),
        Run OverlayState.step OverlayState.Allowed (start.step (.removeRoute id)) events state →
        (∀ event ∈ events, ∀ bound ∈ event.binds, bound.id ≠ id) →
        ∀ listener client upstream, state.Forwards listener client upstream →
          listener.route.id = id →
          listener ∈ start.listeners ∧ ∀ event ∈ events, event.isRestart = false) := by
  constructor
  · intro route address events state isId pqcOnly run others listener client upstream
      forwarded forId classical
    -- A loop in pqc-only mode does not forward this connection.
    have notPqcOnly : listener.route.mode ≠ "pqc-only" := by
      intro mode
      rw [OverlayState.Forwards, forwards_eq_false_of_pqcOnly mode classical] at forwarded
      exact absurd forwarded.2 (by decide)
    rcases mem_listeners_run run forwarded.1 with
      ⟨before, noRestart⟩ | ⟨event, member, bound, isBound, serves⟩
    · rcases mem_listeners_addRoute before with earlier | serves
      · exact ⟨earlier, noRestart⟩
      · exact absurd (serves.2.trans pqcOnly) notPqcOnly
    · have mode := others event member bound isBound (serves.1.symm.trans forId)
      exact absurd (serves.2.trans mode) notPqcOnly
  · intro events state run others listener client upstream forwarded forId
    rcases mem_listeners_run run forwarded.1 with
      before | ⟨event, member, bound, isBound, serves⟩
    · exact before
    · exact absurd (serves.1.symm.trans forId) (others event member bound isBound)

namespace SampleOverlay

def hybridRoute : OverlayRoute := ⟨"web", "0.0.0.0:0", "10.0.0.5:443", true, "hybrid"⟩

def pqcOnlyRoute : OverlayRoute := { hybridRoute with mode := "pqc-only" }

def hybridLoop : RouteStats := ⟨{ hybridRoute with listen := "0.0.0.0:4001" }, 0⟩

def classicalClient : ClientLeg := .ok (some "X25519")

def reached : UpstreamLeg := .piped (.ok 512)

def protectedOnce : OverlayState :=
  (OverlayState.disabled 0).step (.addRoute hybridRoute (.bound "0.0.0.0:4001"))

def restarted : Startup := ⟨[], "n/a", [(pqcOnlyRoute, .bound "0.0.0.0:4002")]⟩

theorem classical_dropped_after_restart :
    ∀ listener client upstream,
      ((protectedOnce.step (.addRoute pqcOnlyRoute (.bound "0.0.0.0:4002"))).step
        (.restart restarted)).Forwards listener client upstream →
      listener.route.id = "web" → client.isPqc = true := by
  intro listener client upstream forwarded forId
  have run : Run OverlayState.step OverlayState.Allowed
      (protectedOnce.step (.addRoute pqcOnlyRoute (.bound "0.0.0.0:4002"))) [.restart restarted]
      ((protectedOnce.step (.addRoute pqcOnlyRoute (.bound "0.0.0.0:4002"))).step
        (.restart restarted)) := .cons trivial (.nil _)
  by_contra notPqc
  have earlier := (forwarded_through_earlier_loop protectedOnce "web").1 pqcOnlyRoute
    "0.0.0.0:4002" _ _ rfl rfl run (by simp [OverlayEvent.binds, restarted, pqcOnlyRoute])
    listener client upstream forwarded forId (by simpa using notPqc)
  exact absurd (earlier.2 _ (List.mem_singleton_self _)) (by decide)

/-- The first loop goes on forwarding classical connections after the route was bound again in
`pqc-only` mode, and all connections after it was removed. -/
theorem classical_forwarded_by_old_loop :
    (protectedOnce.step (.addRoute pqcOnlyRoute (.bound "0.0.0.0:4002"))).Forwards hybridLoop
        classicalClient reached ∧
      (protectedOnce.step (.removeRoute "web")).Forwards hybridLoop classicalClient reached ∧
      hybridLoop.route.id = "web" ∧ classicalClient.isPqc = false := by
  refine ⟨⟨?_, by decide⟩, ⟨?_, by decide⟩, rfl, by decide⟩
  · exact List.mem_append_left _ (List.mem_singleton_self _)
  · exact List.mem_singleton_self _

end SampleOverlay

end QuantaWatch.Gateway
