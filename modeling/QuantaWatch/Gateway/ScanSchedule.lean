import QuantaWatch.Crypto.Sample
import QuantaWatch.Gateway.Settings
import QuantaWatch.Lib.Transition

/-!
Automated scans and the switch that pauses them (`spawn` in
`background.rs`).

Three kinds of tasks start scans on their own: one at startup, one loop over all
tenants, and one loop for each tenant with a schedule. Only the second looks at the
settings, and it looks once before each tenant.
-/

namespace QuantaWatch.Gateway

open Crypto Lib.Json Lib.Transition

structure TenantSchedule where
  org : String
  scanIntervalSecs : Nat

structure ScheduleConfig where
  /-- `scanner.auto_scan_on_start` -/
  autoScanOnStart : Bool
  inventory : Bool
  /-- `schedule.scan_interval_secs` -/
  scanIntervalSecs : Nat
  tenantSchedules : List TenantSchedule

inductive ScanTask where
  | startup
  | everyTenant
  | tenantSchedule (index : Nat)
deriving DecidableEq

/-- The two parts of a scan: `sync_assets` and `run_full_scan`. -/
inductive ScanWork where
  | inventory
  | full
deriving DecidableEq

inductive ScanPhase where
  | waiting
  | visiting (rest : List String)
  | admitted (tenant : String) (rest : List String)
  | running (work : ScanWork) (tenant : String) (rest : List String)
  | ended
deriving DecidableEq

def ScanPhase.scanned : ScanPhase → Option String
  | running _ tenant _ => some tenant
  | _ => none

def ScanPhase.claimed : ScanPhase → Option String
  | admitted tenant _ => some tenant
  | running _ tenant _ => some tenant
  | _ => none

def DEFAULT_TENANT : String := "default"

namespace ScheduleConfig

variable (config : ScheduleConfig)

def spawns : ScanTask → Bool
  | .startup => config.autoScanOnStart
  | .everyTenant => 0 < config.scanIntervalSecs
  | .tenantSchedule index =>
    (config.tenantSchedules[index]?).any fun schedule => 0 < schedule.scanIntervalSecs

def firstWork : ScanWork := if config.inventory then .inventory else .full

def next (paused : String → Bool) (tenants : List String) : ScanTask → ScanPhase → ScanPhase
  | .startup, .waiting => .running config.firstWork DEFAULT_TENANT []
  | .startup, .running .inventory tenant rest => .running .full tenant rest
  | .startup, .running .full _ _ => .ended
  | .everyTenant, .waiting => .visiting tenants
  | .everyTenant, .visiting [] => .waiting
  | .everyTenant, .visiting (tenant :: rest) =>
    if paused tenant then .visiting rest else .admitted tenant rest
  | .everyTenant, .admitted tenant rest => .running config.firstWork tenant rest
  | .everyTenant, .running .inventory tenant rest => .running .full tenant rest
  | .everyTenant, .running .full _ rest => .visiting rest
  | .tenantSchedule index, .waiting =>
    match config.tenantSchedules[index]? with
    | some schedule => .running .full schedule.org []
    | none => .waiting
  | .tenantSchedule _, .running _ _ _ => .waiting
  | _, phase => phase

end ScheduleConfig

structure ScanScheduler where
  settings : SettingsTable
  phase : ScanTask → ScanPhase

inductive ScheduleEvent where
  | putSettings (tenant : String) (settings : RuntimeSettings)
  /-- A task goes on; `tenants` is what `all_tenants` finds. -/
  | advance (task : ScanTask) (tenants : List String)
  | restart

namespace ScanScheduler

variable (config : ScheduleConfig) (floats : FloatText)

def initial (settings : SettingsTable) : ScanScheduler := ⟨settings, fun _ => .waiting⟩

def paused (scheduler : ScanScheduler) (tenant : String) : Bool :=
  (loadSettings floats scheduler.settings tenant).scanningPaused

def step (scheduler : ScanScheduler) : ScheduleEvent → ScanScheduler
  | .putSettings tenant settings =>
    { scheduler with settings := putSettings floats scheduler.settings tenant settings }
  | .advance task tenants =>
    if config.spawns task then
      { scheduler with
        phase := Function.update scheduler.phase task
          (config.next (scheduler.paused floats) tenants task (scheduler.phase task)) }
    else scheduler
  | .restart => initial scheduler.settings

def Heeds (scheduler : ScanScheduler) : ScheduleEvent → Prop
  | .putSettings tenant settings =>
    settings.scanningPaused = true → ∀ task, (scheduler.phase task).claimed ≠ some tenant
  | .advance .startup _ =>
    scheduler.phase .startup = .waiting → scheduler.paused floats DEFAULT_TENANT = false
  | .advance (.tenantSchedule index) _ =>
    scheduler.phase (.tenantSchedule index) = .waiting →
      ∀ schedule, config.tenantSchedules[index]? = some schedule →
        scheduler.paused floats schedule.org = false
  | _ => True

def Heeded (scheduler : ScanScheduler) : Prop :=
  ∀ task tenant, (scheduler.phase task).claimed = some tenant →
    scheduler.paused floats tenant = false

end ScanScheduler

section

variable {config : ScheduleConfig} {floats : FloatText} {scheduler : ScanScheduler}

variable {task : ScanTask} {tenant : String}

theorem claimed_next {paused : String → Bool} {tenants : List String} {phase : ScanPhase}
    (claims : (config.next paused tenants task phase).claimed = some tenant) :
    phase.claimed = some tenant ∨ (task = .everyTenant ∧ paused tenant = false) ∨
      (phase = .waiting ∧ ((task = .startup ∧ tenant = DEFAULT_TENANT) ∨
        ∃ index schedule, task = .tenantSchedule index ∧
          config.tenantSchedules[index]? = some schedule ∧ tenant = schedule.org)) := by
  unfold ScheduleConfig.next at claims
  split at claims
  case h_6 waiting rest =>
    split_ifs at claims with isPaused
    · contradiction
    · obtain rfl : waiting = tenant := Option.some.inj claims
      exact Or.inr (Or.inl ⟨rfl, by simpa using isPaused⟩)
  case h_10 index =>
    split at claims
    · rename_i schedule isSchedule
      exact Or.inr (Or.inr ⟨rfl, Or.inr ⟨index, schedule, rfl, isSchedule,
        (Option.some.inj claims).symm⟩⟩)
    · contradiction
  case h_1 => exact Or.inr (Or.inr ⟨rfl, Or.inl ⟨rfl, (Option.some.inj claims).symm⟩⟩)
  all_goals first
    | exact Or.inl claims
    | contradiction

/-- The bounds of `clamp` do not touch the switch. -/
theorem paused_step_putSettings (lawful : floats.Lawful) (tenant : String)
    (settings : RuntimeSettings) :
    (scheduler.step config floats (.putSettings tenant settings)).paused floats tenant =
      settings.scanningPaused := by
  rw [ScanScheduler.paused, ScanScheduler.step, loadSettings_putSettings lawful]
  rfl

theorem paused_step_putSettings_of_ne {other : String} (settings : RuntimeSettings)
    (differ : other ≠ tenant) :
    (scheduler.step config floats (.putSettings tenant settings)).paused floats other =
      scheduler.paused floats other := by
  rw [ScanScheduler.paused, ScanScheduler.step, loadSettings_putSettings_of_ne _ _ differ]
  rfl

theorem paused_step_advance (task : ScanTask) (tenants : List String) :
    (scheduler.step config floats (.advance task tenants)).paused floats =
      scheduler.paused floats := by
  simp only [ScanScheduler.step]
  split_ifs <;> rfl

theorem phase_step_advance (spawned : config.spawns task = true) (tenants : List String) :
    (scheduler.step config floats (.advance task tenants)).phase task =
      config.next (scheduler.paused floats) tenants task (scheduler.phase task) := by
  simp only [ScanScheduler.step, spawned, if_true, Function.update_self]

theorem heeded_step (lawful : floats.Lawful) {event : ScheduleEvent}
    (heeds : scheduler.Heeds config floats event) (heeded : scheduler.Heeded floats) :
    (scheduler.step config floats event).Heeded floats := by
  cases event with
  | putSettings who settings =>
    intro task tenant claims
    by_cases same : tenant = who
    · subst same
      rw [paused_step_putSettings lawful]
      by_contra isPaused
      exact heeds (by simpa using isPaused) task claims
    · have before := heeded task tenant claims
      rwa [paused_step_putSettings_of_ne _ same]
  | advance task tenants =>
    simp only [ScanScheduler.step]
    split_ifs with spawned
    · intro other tenant claims
      by_cases same : other = task
      · subst same
        simp only [Function.update_self] at claims
        rcases claimed_next claims with before | ⟨_, checked⟩ | ⟨waiting, begins⟩
        · exact heeded other tenant before
        · exact checked
        · rcases begins with ⟨rfl, rfl⟩ | ⟨index, schedule, rfl, isSchedule, rfl⟩
          · exact heeds waiting
          · exact heeds waiting schedule isSchedule
      · simp only [Function.update_of_ne same] at claims
        exact heeded other tenant claims
    · exact heeded
  | restart =>
    intro task tenant claims
    contradiction

/-- In every run that heeds the switch, no scan runs for a tenant while it is paused. -/
theorem not_paused_of_scanned (lawful : floats.Lawful) {settings : SettingsTable}
    {events : List ScheduleEvent}
    (run : Run (ScanScheduler.step config floats) (ScanScheduler.Heeds config floats)
      (.initial settings) events scheduler) :
    ∀ task tenant, (scheduler.phase task).scanned = some tenant →
      scheduler.paused floats tenant = false := by
  have heeded : scheduler.Heeded floats := by
    apply run.invariant fun _ _ heeds heeded => heeded_step lawful heeds heeded
    intro task tenant claims
    contradiction
  intro task tenant scanned
  apply heeded task tenant
  cases isPhase : scheduler.phase task with
  | running work who rest => rwa [isPhase] at scanned
  | _ => rw [isPhase] at scanned; contradiction

end

namespace SampleSchedule

def config : ScheduleConfig := ⟨true, false, 3600, [⟨"acme", 60⟩]⟩

def pause : RuntimeSettings := { scanningPaused := true }

def run (events : List ScheduleEvent) : ScanScheduler :=
  events.foldl (ScanScheduler.step config sampleFloats) (.initial fun _ => none)

def pausedInTime : List ScheduleEvent :=
  [.putSettings "acme" pause, .advance .everyTenant ["acme", "default"],
    .advance .everyTenant [], .advance .everyTenant [], .advance .everyTenant []]

theorem scanned_second {scheduler : ScanScheduler} {first second : String}
    (waiting : scheduler.phase .everyTenant = .waiting)
    (paused : scheduler.paused sampleFloats first = true)
    (unpaused : scheduler.paused sampleFloats second = false) :
    (([.advance .everyTenant [first, second], .advance .everyTenant [], .advance .everyTenant [],
      .advance .everyTenant []].foldl (ScanScheduler.step config sampleFloats) scheduler).phase
        .everyTenant).scanned = some second := by
  have spawned : config.spawns .everyTenant = true := by decide
  simp [phase_step_advance spawned, paused_step_advance, waiting, paused, unpaused,
    ScheduleConfig.next, ScanPhase.scanned]

theorem paused_tenant_passed_over :
    (run pausedInTime).paused sampleFloats "acme" = true ∧
      ((run pausedInTime).phase .everyTenant).scanned = some "default" ∧
      (run pausedInTime).paused sampleFloats "default" = false := by
  have isPause : pause.scanningPaused = true := rfl
  have scanned : ((run pausedInTime).phase .everyTenant).scanned = some "default" := by
    apply scanned_second rfl
    · rw [paused_step_putSettings sampleFloats_lawful, isPause]
    · rw [paused_step_putSettings_of_ne _ (by decide)]
      rfl
  have heeds : Run (ScanScheduler.step config sampleFloats)
      (ScanScheduler.Heeds config sampleFloats) (.initial fun _ => none) pausedInTime
      (run pausedInTime) := by
    refine .cons (fun _ task => ?_) (.cons trivial (.cons trivial (.cons trivial
      (.cons trivial (.nil _)))))
    simp [ScanScheduler.initial, ScanPhase.claimed]
  have paused : (run pausedInTime).paused sampleFloats "acme" = true := by
    simp only [run, pausedInTime, List.foldl, paused_step_advance,
      paused_step_putSettings sampleFloats_lawful, isPause]
  exact ⟨paused, scanned,
    not_paused_of_scanned sampleFloats_lawful heeds .everyTenant "default" scanned⟩

theorem paused_tenant_scanned :
    ((run [.putSettings "default" pause, .advance .startup []]).paused sampleFloats "default" =
        true ∧
      ((run [.putSettings "default" pause, .advance .startup []]).phase .startup).scanned =
        some "default") ∧
    ((run [.putSettings "acme" pause, .advance (.tenantSchedule 0) []]).paused sampleFloats
        "acme" = true ∧
      ((run [.putSettings "acme" pause, .advance (.tenantSchedule 0) []]).phase
        (.tenantSchedule 0)).scanned = some "acme") ∧
    ((run [.advance .everyTenant ["acme"], .advance .everyTenant [], .putSettings "acme" pause,
        .advance .everyTenant []]).paused sampleFloats "acme" = true ∧
      ((run [.advance .everyTenant ["acme"], .advance .everyTenant [],
        .putSettings "acme" pause, .advance .everyTenant []]).phase .everyTenant).scanned =
        some "acme") := by
  refine ⟨⟨?_, by decide⟩, ⟨?_, by decide⟩, ?_, by decide⟩
  all_goals
    simp only [run, List.foldl, paused_step_advance, paused_step_putSettings sampleFloats_lawful,
      pause]

end SampleSchedule

end QuantaWatch.Gateway
