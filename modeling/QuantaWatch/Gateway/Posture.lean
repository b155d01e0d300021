import QuantaWatch.Cbom.Posture
import QuantaWatch.Store.Operations

/-!
The posture that the gateway keeps and shows (`background.rs`, `admin/posture.rs`,
`admin/slos.rs`, `admin/evidence.rs`), against everything that was scanned.
-/

namespace QuantaWatch.Gateway

open Cbom Crypto Lib Lib.Encoding Scanner Store

structure ScanOutcome where
  result : ScanResult
  scanId : String
  clock : Nat → DateTime
  content : Bytes
  seenAt : DateTime

structure ScannedTarget where
  target : ScanTarget
  outcomes : List ScanOutcome

def resultsOf (scanned : List ScannedTarget) : List ScanResult :=
  scanned.flatMap fun one => one.outcomes.map ScanOutcome.result

structure PostureState where
  tables : Tables
  /-- `provider_crypto`, shared by all tenants. -/
  providers : List ProviderCryptoInfo
  /-- `posture_cache` -/
  cache : Option PostureSummary

structure PostureGateway where
  database : Database
  iterate : List ProviderCryptoInfo → List ProviderCryptoInfo

/-- `DashMap::insert` -/
def insertProvider (info : ProviderCryptoInfo) (providers : List ProviderCryptoInfo) :
    List ProviderCryptoInfo :=
  providers.filter (fun known => known.providerName ≠ info.providerName) ++ [info]

def channelOf (name : String) (target : ScanTarget) (outcome : ScanOutcome) :
    Option ProviderCryptoInfo :=
  outcome.result.findings.findSome? fun finding =>
    match finding.metadata.lookup "tls_version", finding.metadata.lookup "cipher_suite" with
    | some tlsVersion, some cipherSuite =>
      some
        { providerName := name
          endpoint := target.address
          tlsVersion
          cipherSuite
          pqcStatus := finding.pqcStatus
          lastSeen := outcome.seenAt }
    | _, _ => none

def captureProviderCrypto (name : String) (target : ScanTarget)
    (providers : List ProviderCryptoInfo) (outcome : ScanOutcome) : List ProviderCryptoInfo :=
  ((channelOf name target outcome).map (insertProvider · providers)).getD providers

def captureChannels (providers : List ProviderCryptoInfo) (scanned : ScannedTarget) :
    List ProviderCryptoInfo :=
  match scanned.target.metadata.lookup "provider" with
  | none => providers
  | some name => scanned.outcomes.foldl (captureProviderCrypto name scanned.target) providers

def snapshotOf (summary : PostureSummary) (trigger : String) : PostureSnapshot where
  timestamp := summary.calculatedAt
  overallScore := summary.overallScore
  totalAssets := summary.totalAssets
  byStatus := summary.byStatus
  trigger

namespace PostureGateway

variable (gateway : PostureGateway) (state : PostureState)

def summary (results : List ScanResult) (now : DateTime) : PostureSummary :=
  PostureEngine.summarize results (gateway.iterate state.providers) now

def recomputeAndSnapshot (tenant : String) (results : List ScanResult) (trigger : String)
    (now : DateTime) : PostureState :=
  let summary := gateway.summary state results now
  { state with
    cache := some summary
    tables := Database.recordPosture state.tables tenant (snapshotOf summary trigger) }

def recordScans (tenant : String) (scanned : List ScannedTarget) : PostureState :=
  { state with
    tables := scanned.foldl
      (fun tables one => one.outcomes.foldl
        (fun tables outcome => gateway.database.recordScan tables tenant outcome.scanId
          outcome.clock outcome.content outcome.result one.target)
        tables)
      state.tables }

def captured (scanned : List ScannedTarget) : PostureState :=
  { state with providers := scanned.foldl captureChannels state.providers }

def runFullScan (tenant trigger : String) (scanned : List ScannedTarget) (now : DateTime) :
    PostureState :=
  gateway.recomputeAndSnapshot (captured (gateway.recordScans state tenant scanned) scanned) tenant
    (resultsOf scanned) trigger now

def triggerScan (tenant : String) (scanned : List ScannedTarget) (now : DateTime) : PostureState :=
  gateway.recomputeAndSnapshot (gateway.recordScans state tenant scanned) tenant
    (resultsOf scanned) "manual" now

def runIntegrationScan (tenant : String) (scanned : List ScannedTarget) (now : DateTime) :
    PostureState :=
  gateway.recomputeAndSnapshot (gateway.recordScans state tenant scanned) tenant
    (resultsOf scanned) "integration-scan" now

def syncAssets (tenant : String) (scanned : List ScannedTarget) (now : DateTime) : PostureState :=
  gateway.recomputeAndSnapshot (gateway.recordScans state tenant scanned) tenant [] "asset-sync" now

structure AgentReport where
  hostname : String
  endpointId : String
  fields : String
  findings : List Finding
  targetId : String
  scanId : String
  clock : Nat → DateTime
  content : Bytes
  now : DateTime

def defaultTenant : String := "default"

def reportingEndpoint (report : AgentReport) : EndpointRow where
  id := ((gateway.database.findEndpointByHostname state.tables defaultTenant report.hostname).map
    fun endpoint => endpoint.id).getD report.endpointId
  fields := report.fields
  hostname := report.hostname

def reportResult (report : AgentReport) : ScanResult where
  scannerId := "host-agent"
  targetId := "endpoint:" ++ (gateway.reportingEndpoint state report).id
  startedAt := report.now
  completedAt := report.now
  findings := report.findings
  status := .completed

def reportTarget (report : AgentReport) : ScanTarget where
  id := report.targetId
  targetType := .networkHost
  address := report.hostname
  metadata := []

def report (report : AgentReport) : PostureState :=
  let result := gateway.reportResult state report
  let tables := gateway.database.upsertEndpoint state.tables defaultTenant
    (gateway.reportingEndpoint state report)
  let recorded := gateway.database.recordScan tables defaultTenant report.scanId report.clock
    report.content result (reportTarget report)
  gateway.recomputeAndSnapshot { state with tables := recorded } defaultTenant [result]
    "host-agent" report.now

/-- `GET /api/posture`. An empty cache is filled without any result. -/
def getPosture (now : DateTime) : PostureSummary × PostureState :=
  match state.cache with
  | some posture => (posture, state)
  | none =>
    let posture := gateway.summary state [] now
    (posture, { state with cache := some posture })

def sloPosture (now : DateTime) : Float :=
  ((state.cache.map PostureSummary.overallScore).getD (gateway.summary state [] now).overallScore)

def packPosture (now : DateTime) : PostureSummary :=
  state.cache.getD (gateway.summary state [] now)

variable {gateway state}

theorem getPosture_fst (now : DateTime) :
    (gateway.getPosture state now).1 = gateway.packPosture state now := by
  cases cached : state.cache <;> simp [getPosture, packPosture, cached]

theorem cache_getPosture (now : DateTime) :
    (gateway.getPosture state now).2.cache = some (gateway.packPosture state now) := by
  cases cached : state.cache <;> simp [getPosture, packPosture, cached]

variable (gateway) in
theorem readers_congr {other : PostureState} (providers : state.providers = other.providers)
    (cache : state.cache = other.cache) (now : DateTime) :
    gateway.sloPosture state now = gateway.sloPosture other now ∧
      gateway.packPosture state now = gateway.packPosture other now := by
  have fresh : gateway.summary state [] now = gateway.summary other [] now := by
    rw [summary, summary, providers]
  constructor
  · rw [sloPosture, sloPosture, cache, fresh]
  · rw [packPosture, packPosture, cache, fresh]

end PostureGateway

inductive PostureOp where
  | fullScan (tenant trigger : String) (scanned : List ScannedTarget) (now : DateTime)
  | channels (scanned : List ScannedTarget)
  | triggerScan (tenant : String) (scanned : List ScannedTarget) (now : DateTime)
  | integrationScan (tenant : String) (scanned : List ScannedTarget) (now : DateTime)
  | syncAssets (tenant : String) (scanned : List ScannedTarget) (now : DateTime)
  | rediscover (tenant : String) (scanned : List ScannedTarget)
  | report (report : PostureGateway.AgentReport)
  | getPosture (now : DateTime)

namespace PostureOp

def tenant : PostureOp → Option String
  | fullScan tenant _ _ _ => tenant
  | channels _ => none
  | triggerScan tenant _ _ => tenant
  | integrationScan tenant _ _ => tenant
  | syncAssets tenant _ _ => tenant
  | rediscover tenant _ => tenant
  | report _ => PostureGateway.defaultTenant
  | getPosture _ => none

def recomputation : PostureOp → Option (List Finding × DateTime)
  | fullScan _ _ scanned now => some ((resultsOf scanned).flatMap ScanResult.findings, now)
  | channels _ => none
  | triggerScan _ scanned now => some ((resultsOf scanned).flatMap ScanResult.findings, now)
  | integrationScan _ scanned now => some ((resultsOf scanned).flatMap ScanResult.findings, now)
  | syncAssets _ _ now => some ([], now)
  | rediscover _ _ => none
  | report given => some (given.findings, given.now)
  | getPosture _ => none

def writer (op : PostureOp) : Option String := op.recomputation.bind fun _ => op.tenant

def channelScans : PostureOp → List ScannedTarget
  | fullScan _ _ scanned _ => scanned
  | channels scanned => scanned
  | _ => []

def restrict (tenant : String) (op : PostureOp) : Option PostureOp :=
  if op.tenant = none ∨ op.tenant = some tenant then some op
  else
    match op with
    | fullScan _ _ scanned _ => some (channels scanned)
    | _ => none

theorem restrict_cases (tenant : String) (op : PostureOp) :
    op.restrict tenant = some op ∨ op.restrict tenant = some (.channels op.channelScans) ∨
      op.restrict tenant = none ∧ op.channelScans = [] := by
  by_cases own : op.tenant = none ∨ op.tenant = some tenant
  · exact Or.inl (if_pos own)
  · right
    simp only [restrict, if_neg own]
    cases op with
    | fullScan who trigger scanned now => exact Or.inl rfl
    | channels scanned => exact absurd (Or.inl rfl) own
    | _ => exact Or.inr ⟨rfl, rfl⟩

end PostureOp

namespace PostureGateway

variable (gateway : PostureGateway)

def step (state : PostureState) : PostureOp → PostureState
  | .fullScan tenant trigger scanned now => gateway.runFullScan state tenant trigger scanned now
  | .channels scanned => captured state scanned
  | .triggerScan tenant scanned now => gateway.triggerScan state tenant scanned now
  | .integrationScan tenant scanned now => gateway.runIntegrationScan state tenant scanned now
  | .syncAssets tenant scanned now => gateway.syncAssets state tenant scanned now
  | .rediscover tenant scanned => gateway.recordScans state tenant scanned
  | .report report => gateway.report state report
  | .getPosture now => (gateway.getPosture state now).2

def start : PostureState := ⟨.empty, [], none⟩

def run (ops : List PostureOp) : PostureState := ops.foldl gateway.step start

def lastWriter (ops : List PostureOp) : Option String := (ops.filterMap PostureOp.writer).getLast?

variable {gateway} {tenant : String}

theorem providers_step (state : PostureState) (op : PostureOp) :
    (gateway.step state op).providers = op.channelScans.foldl captureChannels state.providers := by
  cases op with
  | getPosture now =>
    simp only [step, getPosture, PostureOp.channelScans, List.foldl_nil]
    split <;> rfl
  | _ => rfl

variable {op : PostureOp}

theorem cache_step {state : PostureState} {findings : List Finding} {now : DateTime}
    (recomputes : op.recomputation = some (findings, now)) :
    (gateway.step state op).cache = some (PostureEngine.summarizeFindings findings
      (gateway.iterate (gateway.step state op).providers) now) := by
  cases op <;> cases recomputes
  case report report =>
    simp [step, PostureGateway.report, recomputeAndSnapshot, summary, PostureEngine.summarize,
      reportResult]
  all_goals rfl

variable (ops : List PostureOp)

theorem run_concat (op : PostureOp) :
    gateway.run (ops ++ [op]) = gateway.step (gateway.run ops) op := by
  rw [run, List.foldl_append]
  rfl

theorem lastWriter_concat (op : PostureOp) :
    lastWriter (ops ++ [op]) = op.writer.or (lastWriter ops) := by
  cases isWriter : op.writer with
  | none => simp [lastWriter, isWriter]
  | some who => simp [lastWriter, isWriter]

variable (gateway tenant) in
def stepAlone (state : PostureState) (op : PostureOp) : PostureState :=
  (op.restrict tenant).elim state (gateway.step state)

theorem runAlone_concat (op : PostureOp) :
    gateway.run ((ops ++ [op]).filterMap (PostureOp.restrict tenant)) =
      gateway.stepAlone tenant (gateway.run (ops.filterMap (PostureOp.restrict tenant))) op := by
  cases kept : op.restrict tenant with
  | none => simp [stepAlone, kept]
  | some left => simp [stepAlone, kept, run_concat]

theorem providers_stepAlone (state : PostureState) (op : PostureOp) :
    (gateway.stepAlone tenant state op).providers =
      op.channelScans.foldl captureChannels state.providers := by
  rcases op.restrict_cases tenant with stays | shared | ⟨removed, none⟩
  · rw [stepAlone, stays]
    exact providers_step state op
  · rw [stepAlone, shared]
    rfl
  · rw [stepAlone, removed, none]
    rfl

theorem restrict_of_own (own : op.tenant = some tenant) : op.restrict tenant = some op :=
  if_pos (Or.inr own)

theorem cache_quiet {left right : PostureState} (quiet : op.recomputation = none)
    (providers : left.providers = right.providers) (cache : left.cache = right.cache) :
    (gateway.step left op).cache = (gateway.stepAlone tenant right op).cache := by
  cases op <;> cases quiet
  case channels scanned => exact cache
  case rediscover who scanned =>
    rcases PostureOp.restrict_cases tenant (.rediscover who scanned) with stays | shared | removed
    · rw [stepAlone, stays]
      exact cache
    · rw [stepAlone, shared]
      exact cache
    · rw [stepAlone, removed.1]
      exact cache
  case getPosture now =>
    calc (gateway.getPosture left now).2.cache
      _ = some (gateway.packPosture left now) := cache_getPosture now
      _ = some (gateway.packPosture right now) := by
          rw [(readers_congr gateway providers cache now).2]
      _ = (gateway.getPosture right now).2.cache := (cache_getPosture now).symm

theorem agree_runs (gateway : PostureGateway) (tenant : String) (ops : List PostureOp) :
    let alone := gateway.run (ops.filterMap (PostureOp.restrict tenant))
    (gateway.run ops).providers = alone.providers ∧
      ((∀ who, lastWriter ops = some who → who = tenant) →
        (gateway.run ops).cache = alone.cache) := by
  induction ops using List.reverseRecOn with
  | nil => exact ⟨rfl, fun _ => rfl⟩
  | append_singleton ops op ih =>
    obtain ⟨providers, cache⟩ := ih
    simp only [run_concat, runAlone_concat, lastWriter_concat]
    have providersAfter : (gateway.step (gateway.run ops) op).providers =
        (gateway.stepAlone tenant
          (gateway.run (ops.filterMap (PostureOp.restrict tenant))) op).providers := by
      rw [providers_step, providers_stepAlone, providers]
    refine ⟨providersAfter, fun last => ?_⟩
    cases recomputes : op.recomputation with
    | none =>
      apply cache_quiet recomputes providers
      apply cache
      intro who isLast
      exact last who (by simpa [PostureOp.writer, recomputes] using isLast)
    | some handed =>
      obtain ⟨who, isOf⟩ : ∃ who, op.tenant = some who := by
        cases op <;> first | exact ⟨_, rfl⟩ | cases recomputes
      have own : who = tenant := last who (by simp [PostureOp.writer, recomputes, isOf])
      rw [own] at isOf
      have stays : gateway.stepAlone tenant
          (gateway.run (ops.filterMap (PostureOp.restrict tenant))) op =
          gateway.step (gateway.run (ops.filterMap (PostureOp.restrict tenant))) op := by
        rw [stepAlone, restrict_of_own isOf, Option.elim_some]
      rw [stays] at providersAfter ⊢
      rw [cache_step recomputes, cache_step recomputes, providersAfter]

/-- When the last recomputation was for the tenant, or there was none, the posture that
the tenant is shown is that of a run without the scans of others. -/
theorem posture_of_own_scans (gateway : PostureGateway) (tenant : String) (ops : List PostureOp)
    (last : ∀ who, lastWriter ops = some who → who = tenant) (now : DateTime) :
    let alone := gateway.run (ops.filterMap (PostureOp.restrict tenant))
    (gateway.getPosture (gateway.run ops) now).1 = (gateway.getPosture alone now).1 ∧
      gateway.sloPosture (gateway.run ops) now = gateway.sloPosture alone now ∧
      gateway.packPosture (gateway.run ops) now = gateway.packPosture alone now := by
  intro alone
  obtain ⟨providers, caches⟩ := agree_runs gateway tenant ops
  have readers := readers_congr gateway providers (caches last) now
  rw [getPosture_fst, getPosture_fst]
  exact ⟨readers.2, readers.1, readers.2⟩

def sampleGateway : PostureGateway := ⟨Database.sampleDatabase .sqlite, id⟩

def weakKey (path : String) : Finding where
  category := .weakAlgorithm
  severity := .high
  title := "Weak key"
  description := ""
  asset := ⟨.signingKey, some "RSA", some 1024, none, path, "code", ⟨0⟩⟩
  remediation := none
  pqcStatus := .classicalWeak
  metadata := []

def codeScan (address : String) (paths : List String) : ScannedTarget where
  target := ⟨"id", .codeDirectory, address, []⟩
  outcomes :=
    [{ result := ⟨"code", "id", ⟨0⟩, ⟨0⟩, paths.map weakKey, .completed⟩
       scanId := address
       clock := fun _ => ⟨0⟩
       content := []
       seenAt := ⟨0⟩ }]

def acmeThenGlobex : List PostureOp :=
  [.triggerScan "acme" [codeScan "acme" ["a"]] ⟨1⟩,
    .triggerScan "globex" [codeScan "globex" ["b", "c"]] ⟨2⟩]

theorem globex_sees_its_scan : lastWriter acmeThenGlobex = some "globex" ∧
    (sampleGateway.getPosture (sampleGateway.run acmeThenGlobex) ⟨3⟩).1.totalAssets = 2 := by
  have last : lastWriter acmeThenGlobex = some "globex" := rfl
  refine ⟨last, ?_⟩
  rw [(posture_of_own_scans sampleGateway "globex" acmeThenGlobex
    (fun who isLast => Option.some.inj (isLast.symm.trans last)) ⟨3⟩).1]
  rfl

theorem acme_sees_scan_of_globex :
    let alone := sampleGateway.run (acmeThenGlobex.filterMap (PostureOp.restrict "acme"))
    (sampleGateway.getPosture (sampleGateway.run acmeThenGlobex) ⟨3⟩).1.totalAssets = 2 ∧
      (sampleGateway.getPosture alone ⟨3⟩).1.totalAssets = 1 ∧
      (sampleGateway.packPosture (sampleGateway.run acmeThenGlobex) ⟨3⟩).totalAssets = 2 ∧
      (sampleGateway.packPosture alone ⟨3⟩).totalAssets = 1 :=
  ⟨rfl, rfl, rfl, rfl⟩

end PostureGateway

structure Observation where
  target : ScanTarget
  result : ScanResult

namespace Observation

def key (observation : Observation) : TargetType × String × String :=
  (observation.target.targetType, observation.target.address, observation.result.scannerId)

def completed (observation : Observation) : Bool := observation.result.status = .completed

end Observation

def mostRecent : List Observation → List ScanResult
  | [] => []
  | observation :: later =>
    if observation.completed ∧
        ∀ other ∈ later, other.completed = true → other.key ≠ observation.key then
      observation.result :: mostRecent later
    else mostRecent later

def observationsOf (scanned : List ScannedTarget) : List Observation :=
  scanned.flatMap fun one => one.outcomes.map fun outcome => ⟨one.target, outcome.result⟩

namespace PostureGateway

variable (gateway : PostureGateway)

def observed (state : PostureState) : PostureOp → List Observation
  | .fullScan _ _ scanned _ => observationsOf scanned
  | .channels _ => []
  | .triggerScan _ scanned _ => observationsOf scanned
  | .integrationScan _ scanned _ => observationsOf scanned
  | .syncAssets _ scanned _ => observationsOf scanned
  | .rediscover _ scanned => observationsOf scanned
  | .report given => [⟨reportTarget given, gateway.reportResult state given⟩]
  | .getPosture _ => []

def observations (state : PostureState) : List PostureOp → List Observation
  | [] => []
  | op :: ops => gateway.observed state op ++ observations (gateway.step state op) ops

def inventory (ops : List PostureOp) : List ScanResult :=
  mostRecent (gateway.observations start ops)

end PostureGateway

section MostRecent

variable {earlier later : List Observation}

theorem findings_mostRecent_append
    (rescans : ∀ old ∈ earlier, old.completed = true → old.result.findings ≠ [] →
      ∃ again ∈ later, again.completed = true ∧ again.key = old.key) :
    (mostRecent (earlier ++ later)).flatMap ScanResult.findings =
      (mostRecent later).flatMap ScanResult.findings := by
  induction earlier with
  | nil => rfl
  | cons old earlier ih =>
    have rest := ih fun other member =>
      rescans other (List.mem_cons_of_mem _ member)
    rw [List.cons_append, mostRecent]
    split_ifs with kept
    · by_cases empty : old.result.findings = []
      · rw [List.flatMap_cons, empty, List.nil_append, rest]
      · obtain ⟨again, member, isCompleted, same⟩ := rescans old List.mem_cons_self kept.1 empty
        exact absurd same (kept.2 again (List.mem_append_right _ member) isCompleted)
    · exact rest

theorem findings_mostRecent (once : later.Pairwise fun first second =>
      first.completed = true → second.completed = true → second.key ≠ first.key)
    (failures : ∀ observation ∈ later, observation.completed = false →
      observation.result.findings = []) :
    (mostRecent later).flatMap ScanResult.findings =
      later.flatMap fun observation => observation.result.findings := by
  induction later with
  | nil => rfl
  | cons observation later ih =>
    obtain ⟨distinct, onceLater⟩ := List.pairwise_cons.mp once
    have rest := ih onceLater fun other member =>
      failures other (List.mem_cons_of_mem _ member)
    rw [mostRecent, List.flatMap_cons]
    split_ifs with kept
    · rw [List.flatMap_cons, rest]
    · have failed : observation.completed = false := by
        by_contra isCompleted
        apply kept
        have isTrue : observation.completed = true := by simpa using isCompleted
        exact ⟨isTrue, fun other member => distinct other member isTrue⟩
      rw [failures observation List.mem_cons_self failed, List.nil_append, rest]

end MostRecent

namespace PostureGateway

variable {gateway : PostureGateway}

theorem observations_concat (state : PostureState) (ops : List PostureOp) (op : PostureOp) :
    gateway.observations state (ops ++ [op]) =
      gateway.observations state ops ++ gateway.observed (ops.foldl gateway.step state) op := by
  induction ops generalizing state with
  | nil => simp [observations]
  | cons first ops ih =>
    rw [List.cons_append, observations, ih, observations, List.append_assoc,
      List.foldl_cons]

variable (gateway) in
structure Renews (before : List PostureOp) (op : PostureOp) (now : DateTime) : Prop where
  rescans : ∀ old ∈ gateway.observations start before, old.completed = true →
    old.result.findings ≠ [] →
    ∃ again ∈ gateway.observed (gateway.run before) op, again.completed = true ∧ again.key = old.key
  once : (gateway.observed (gateway.run before) op).Pairwise fun first second =>
    first.completed = true → second.completed = true → second.key ≠ first.key
  failures : ∀ observation ∈ gateway.observed (gateway.run before) op,
    observation.completed = false → observation.result.findings = []
  handed : op.recomputation = some
    ((gateway.observed (gateway.run before) op).flatMap fun observation =>
      observation.result.findings, now)

/-- The cache holds the posture of the inventory after an operation that renews it. -/
theorem posture_of_inventory (gateway : PostureGateway) (before : List PostureOp) (op : PostureOp)
    (now : DateTime) (renews : gateway.Renews before op now) :
    (gateway.run (before ++ [op])).cache =
      some (PostureEngine.summarize (gateway.inventory (before ++ [op]))
        (gateway.iterate (gateway.run (before ++ [op])).providers) now) := by
  have findings : (gateway.inventory (before ++ [op])).flatMap ScanResult.findings =
      (gateway.observed (gateway.run before) op).flatMap fun observation =>
        observation.result.findings := by
    rw [inventory, observations_concat]
    exact (findings_mostRecent_append renews.rescans).trans
      (findings_mostRecent renews.once renews.failures)
  rw [run_concat, cache_step renews.handed, PostureEngine.summarize, findings]

def fullScanOf (scanned : List ScannedTarget) : PostureOp :=
  .fullScan defaultTenant "scheduled" scanned ⟨1⟩

theorem rescan_renews :
    sampleGateway.Renews [fullScanOf [codeScan "a" ["x"]]]
      (fullScanOf [codeScan "a" ["x"], codeScan "b" ["y"]]) ⟨1⟩ ∧
    ((sampleGateway.run [fullScanOf [codeScan "a" ["x"]],
      fullScanOf [codeScan "a" ["x"], codeScan "b" ["y"]]]).cache.map
        PostureSummary.totalAssets) = some 2 := by
  have renews : sampleGateway.Renews [fullScanOf [codeScan "a" ["x"]]]
      (fullScanOf [codeScan "a" ["x"], codeScan "b" ["y"]]) ⟨1⟩ :=
    ⟨by decide +kernel, by decide +kernel, by decide +kernel, rfl⟩
  refine ⟨renews, ?_⟩
  have cached := posture_of_inventory sampleGateway _ _ _ renews
  rw [List.singleton_append] at cached
  rw [cached]
  decide +kernel

theorem later_operations_drop_findings :
    let full := fullScanOf [codeScan "a" ["x"], codeScan "b" ["y"]]
    let single := PostureOp.triggerScan defaultTenant [codeScan "a" ["x"]] ⟨2⟩
    let sync := PostureOp.syncAssets defaultTenant [] ⟨2⟩
    (∀ now, (sampleGateway.run [full, single]).cache ≠
      some (PostureEngine.summarize (sampleGateway.inventory [full, single])
        (sampleGateway.iterate (sampleGateway.run [full, single]).providers) now)) ∧
    ∀ now, (sampleGateway.run [full, sync]).cache ≠
      some (PostureEngine.summarize (sampleGateway.inventory [full, sync])
        (sampleGateway.iterate (sampleGateway.run [full, sync]).providers) now) := by
  refine ⟨fun now same => ?_, fun now same => ?_⟩
  · have counts := congrArg (Option.map PostureSummary.totalAssets) same
    revert counts
    simp only [Option.map_some, PostureEngine.totalAssets_summarize]
    decide +kernel
  · have counts := congrArg (Option.map PostureSummary.totalAssets) same
    revert counts
    simp only [Option.map_some, PostureEngine.totalAssets_summarize]
    decide +kernel

end PostureGateway

end QuantaWatch.Gateway
