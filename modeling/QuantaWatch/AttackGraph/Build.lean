import QuantaWatch.Lib.Binary64
import QuantaWatch.Lib.Text
import QuantaWatch.Store.Tables

/-!
The attack-path engine (`qw-graph/src/lib.rs`).
-/

namespace QuantaWatch.AttackGraph

open Lib Lib.Binary64 Lib.Text Scanner Store

structure ProviderChannel where
  name : String
  pqcStatus : PqcStatus
  tlsVersion : String
  endpoint : String

structure IdentityInput where
  label : String
  role : String

structure AgentInput where
  name : String
  offline : Bool
  allowedTools : List String
  allowedModels : List String

structure AssetRow where
  id : String
  kind : String
  address : String
  environment : String
  tags : List String
  pqcStatus : String
  tlsVersion : Option String

structure ExposedService where
  port : UInt16
  service : String
  pqcStatus : String
  exposed : Bool

structure HostContainerRow where
  name : String
  image : String

structure TargetRow where
  id : String
  name : String
  host : String
  kind : String
  environment : String
  tags : List String
  exposedServices : List ExposedService
  containers : List HostContainerRow
  hostInfo : Option String
  pqcStatus : String

structure GraphInputs where
  providers : List ProviderChannel
  identities : List IdentityInput
  agents : List AgentInput
  flows : List FlowRow
  findings : List FindingRecord
  assets : List AssetRow
  targets : List TargetRow

abbrev Overrides := String → Option PqcStatus

inductive NodeKind where
  | identity
  | data
  | agent
  | provider
  | certificate
  | dependency
  | asset
  | host
  | service
  | container
deriving DecidableEq

structure Node where
  id : String
  kind : NodeKind
  label : String
  sublabel : String
  pqcStatus : String
  risk : Double
  blastRadius : Double
  observed : Bool

inductive EdgeKind where
  | canAccess
  | handles
  | routesTo
  | securedBy
  | exposes
  | runs
deriving DecidableEq

structure Edge where
  source : String
  target : String
  kind : EdgeKind
  observed : Bool

inductive PathSeverity where
  | critical
  | high
  | medium
  | low
deriving DecidableEq

inductive PathKind where
  | dataExposure
  | accessRisk
  | externalAsset
deriving DecidableEq

structure AttackPath where
  id : String
  title : String
  severity : PathSeverity
  score : Double
  hndl : Bool
  observed : Bool
  requestCount : Nat
  kind : PathKind
  dataClass : String
  agent : String
  provider : String
  tlsVersion : Option String
  channelPqc : PqcStatus
  nodeIds : List String
  recommendation : String

structure Graph where
  nodes : List Node
  edges : List Edge
  paths : List AttackPath

structure DataClass where
  label : String
  weight : Double

def dataClassFor (case : CaseMapping) (tools : List String) (offline : Bool) : DataClass :=
  let joined := case.toLowercase (",".intercalate tools)
  let has (needles : List String) : Bool := needles.any (containsText joined)
  let found : DataClass :=
    if containsText joined "*" || has ["admin", "exec", "shell"] then
      ⟨"Broad / Privileged Access", 1.0⟩
    else if has ["payment", "billing", "card", "finance", "invoice"] then ⟨"Financial Data", 1.0⟩
    else if has ["crm", "customer", "email", "pii", "contact", "user_", "profile"] then
      ⟨"Customer PII", 0.95⟩
    else if has ["db", "database", "sql", "file", "fs", "storage", "read"] then
      ⟨"Internal Data", 0.7⟩
    else if has ["code", "repo", "git", "source"] then ⟨"Source Code", 0.65⟩
    else if has ["web_search", "search", "public"] then ⟨"Public Data", 0.2⟩
    else ⟨"General Data", 0.5⟩
  if offline then { found with weight := found.weight * 0.4 } else found

def channelWeight : PqcStatus → Double
  | .classicalWeak => 1.0
  | .classicalSecure => 0.85
  | .unknown => 0.6
  | .hybrid => 0.15
  | .pqcReady => 0.0

def sortedSet (texts : List String) : List String := (Collections.groupOn id texts).map Prod.fst

def providersForModel (case : CaseMapping) (model : String) : List String :=
  let lower := case.toLowercase model
  let starts (text : String) : Bool := text.toList <+: lower.toList
  (if containsText lower "claude" then ["anthropic"] else []) ++
    (if containsText lower "gpt" || starts "o1" || starts "o3" || containsText lower "openai" then
      ["openai"] else []) ++
    (if containsText lower "ollama" then ["ollama"] else []) ++
    (if containsText lower "deepseek" then ["deepseek"] else []) ++
    (if containsText lower "gemini" || containsText lower "google" then ["google"] else [])

def severityFor (score : Double) : PathSeverity :=
  if 70.0 ≤ score then .critical
  else if 50.0 ≤ score then .high
  else if 30.0 ≤ score then .medium
  else .low

def hostOf (address : String) : String :=
  String.ofList (((lastPiece address "://").takeWhile (· ≠ '/')).takeWhile (· ≠ ':'))

def parseStatus : String → PqcStatus
  | "pqc_ready" => .pqcReady
  | "hybrid" => .hybrid
  | "classical_secure" => .classicalSecure
  | "classical_weak" => .classicalWeak
  | _ => .unknown

def isAirGapped (tags : List String) : Bool :=
  tags.any fun tag => eqIgnoreAsciiCase tag "air-gapped" || eqIgnoreAsciiCase tag "airgapped"

def isClassical (status : PqcStatus) : Bool :=
  status = .classicalSecure || status = .classicalWeak

def tenths (number : Double) : Double := (number * 10.0).round / 10.0

structure Builder where
  nodes : List Node
  seen : List String
  edges : List Edge
  paths : List AttackPath
  blast : AList fun _ : String => Double

namespace Builder

def empty : Builder := ⟨[], [], [], [], ∅⟩

variable (builder : Builder)

def push (node : Node) : Builder :=
  if node.id ∈ builder.seen then builder
  else { builder with nodes := builder.nodes ++ [node], seen := node.id :: builder.seen }

def pushEdge (edge : Edge) : Builder := { builder with edges := builder.edges ++ [edge] }

def pushPath (path : AttackPath) : Builder := { builder with paths := builder.paths ++ [path] }

def addBlast (id : String) (amount : Double) : Builder :=
  { builder with blast := builder.blast.insert id ((builder.blast.lookup id).getD 0.0 + amount) }

def finish : Graph where
  nodes := builder.nodes.map fun node =>
    match builder.blast.lookup node.id with
    | some blast => { node with blastRadius := tenths blast }
    | none => node
  edges := builder.edges
  paths := builder.paths.insertionSort fun left right => right.score ≤ left.score

end Builder

section Engine

variable (case : CaseMapping) (inputs : GraphInputs) (overrides : Overrides)

structure ProviderInfo where
  status : PqcStatus
  tlsVersion : String
  endpoint : String

def providers : List (String × ProviderInfo) :=
  (Collections.groupOn ProviderChannel.name inputs.providers).filterMap fun group =>
    group.2.getLast?.map fun channel =>
      (group.1, ⟨(overrides group.1).getD channel.pqcStatus, channel.tlsVersion, channel.endpoint⟩)

def providerInfo (name : String) : Option ProviderInfo := (providers inputs overrides).lookup name

def flowOf (agent provider : String) : Nat × Nat :=
  (Collections.indexOn (fun flow : FlowRow => (flow.agent, flow.provider))
    (fun flow => (flow.requests, flow.sensitive)) inputs.flows (agent, provider)).getD (0, 0)

def isObserved (provider : String) : Bool := inputs.flows.any fun flow => flow.provider = provider

def liveFindings : List FindingRecord :=
  inputs.findings.filter fun finding => finding.status ≠ .suppressed

def certByHost : String → Option PqcStatus :=
  (liveFindings inputs).foldl
    (fun certs finding =>
      if finding.assetType = .certificate then
        let host := hostOf finding.location
        let worst := (certs host).getD .pqcReady
        Function.update certs host
          (some (if channelWeight worst < channelWeight finding.pqcStatus then finding.pqcStatus
            else worst))
      else certs)
    fun _ => none

def statusNode (id : String) (kind : NodeKind) (label sublabel : String) (status : PqcStatus)
    (observed : Bool) : Node :=
  ⟨id, kind, label, sublabel, status.label, channelWeight status * 100.0, 0.0, observed⟩

def addProvider (builder : Builder) (provider : String × ProviderInfo) : Builder :=
  let (name, info) := provider
  let builder := builder.push <| statusNode ("provider:" ++ name) .provider name
    (if (overrides name).isSome then "TLS " ++ info.tlsVersion ++ " (simulated)"
      else "TLS " ++ info.tlsVersion)
    info.status (isObserved inputs name)
  let host := hostOf info.endpoint
  match certByHost inputs host with
  | none => builder
  | some status =>
    (builder.push <| statusNode ("cert:" ++ host) .certificate (host ++ " cert") "X.509 chain"
      status false).pushEdge ⟨"provider:" ++ name, "cert:" ++ host, .securedBy, false⟩

def isPrivileged (role : String) : Bool := role = "admin" || role = "operator"

def addIdentity (builder : Builder) (identity : IdentityInput) : Builder :=
  builder.push
    ⟨"identity:" ++ identity.label, .identity, identity.label, identity.role, "n/a",
      if isPrivileged identity.role then 55.0 else 20.0, 0.0, false⟩

def agentId (agent : AgentInput) : String := "agent:" ++ agent.name

def dataClass (agent : AgentInput) : DataClass :=
  dataClassFor case agent.allowedTools agent.offline

def dataId (agent : AgentInput) : String :=
  "data:" ++ agent.name ++ ":" ++
    String.ofList ((dataClass case agent).label.toList.map fun char =>
      if char = ' ' then '_' else char)

def hasAccessPath (agent : AgentInput) (identity : IdentityInput) : Bool :=
  "apikey:".toList <+: identity.label.toList && isPrivileged identity.role &&
    0.65 ≤ (dataClass case agent).weight

def accessPath (agent : AgentInput) (identity : IdentityInput) : AttackPath :=
  let data := dataClass case agent
  let score := tenths (data.weight * 60.0)
  { id := "access:" ++ identity.label ++ "->" ++ agent.name
    title := "Over-privileged key '" ++ identity.label ++ "' can drive " ++ agent.name ++
      " (" ++ data.label ++ ")"
    severity := severityFor score
    score
    hndl := false
    observed := false
    requestCount := 0
    kind := .accessRisk
    dataClass := data.label
    agent := agent.name
    provider := "—"
    tlsVersion := none
    channelPqc := .unknown
    nodeIds := ["identity:" ++ identity.label, agentId agent, dataId case agent]
    recommendation := "Scope the '" ++ identity.label ++
      "' API key to least privilege; it can trigger flows handling " ++ data.label ++ "." }

def addAccess (agent : AgentInput) (builder : Builder) (identity : IdentityInput) : Builder :=
  let builder := builder.pushEdge
    ⟨"identity:" ++ identity.label, agentId agent, .canAccess, false⟩
  if hasAccessPath case agent identity then builder.pushPath (accessPath case agent identity)
  else builder

def agentProviders (agent : AgentInput) : List String :=
  sortedSet (agent.allowedModels.flatMap (providersForModel case) ++
    (inputs.flows.filter fun flow => flow.agent = agent.name).map FlowRow.provider)

def channelStatus (provider : String) : PqcStatus :=
  ((providerInfo inputs overrides provider).map ProviderInfo.status).getD .unknown

def flowScore (agent : AgentInput) (provider : String) : Double :=
  let flow := flowOf inputs agent.name provider
  let exposure : Double := if agent.offline then 0.35 else 1.0
  let boost : Double := if 0 < flow.2 then 1.2 else if 0 < flow.1 then 1.08 else 1.0
  let weight := channelWeight (channelStatus inputs overrides provider)
  tenths (min ((dataClass case agent).weight * weight * exposure * boost) 1.0 * 100.0)

def hasFlowPath (agent : AgentInput) (provider : String) : Bool :=
  !(channelWeight (channelStatus inputs overrides provider) ≤ 0.0) &&
    !(flowScore case inputs overrides agent provider < 15.0)

def flowPath (agent : AgentInput) (provider : String) : AttackPath :=
  let data := dataClass case agent
  let requests := (flowOf inputs agent.name provider).1
  let status := channelStatus inputs overrides provider
  let score := flowScore case inputs overrides agent provider
  { id := "flow:" ++ agent.name ++ "->" ++ provider
    title := data.label ++ " reaches " ++ provider ++ " over a quantum-vulnerable channel"
    severity := severityFor score
    score
    hndl := isClassical status
    observed := 0 < requests
    requestCount := requests
    kind := .dataExposure
    dataClass := data.label
    agent := agent.name
    provider
    tlsVersion := (providerInfo inputs overrides provider).map ProviderInfo.tlsVersion
    channelPqc := status
    nodeIds := [dataId case agent, agentId agent, "provider:" ++ provider]
    recommendation :=
      if isClassical status then
        "Enable hybrid ML-KEM (X25519+ML-KEM-768) on the " ++ provider ++ " channel. " ++
          (if 0 < requests then toString requests ++ " real request(s) observed. " else "") ++
          data.label ++ " is exposed to harvest-now-decrypt-later capture."
      else
        "Characterize the " ++ provider ++
          " channel; treat as quantum-vulnerable until proven PQC/hybrid." }

def addRoute (agent : AgentInput) (builder : Builder) (provider : String) : Builder :=
  let id := "provider:" ++ provider
  let builder :=
    if id ∈ builder.seen then builder
    else builder.push <| statusNode id .provider provider "not yet scanned"
      ((overrides provider).getD .unknown) (isObserved inputs provider)
  let observed : Bool := 0 < (flowOf inputs agent.name provider).1
  let builder := builder.pushEdge ⟨agentId agent, id, .routesTo, observed⟩
  if hasFlowPath case inputs overrides agent provider then
    (builder.addBlast id ((dataClass case agent).weight * if observed then 1.3 else 1.0)).pushPath
      (flowPath case inputs overrides agent provider)
  else builder

def agentNode (agent : AgentInput) : Node :=
  ⟨agentId agent, .agent, agent.name, if agent.offline then "isolated" else "networked", "n/a",
    0.0, 0.0, false⟩

def dataNode (agent : AgentInput) : Node :=
  let data := dataClass case agent
  ⟨dataId case agent, .data, data.label, "sensitivity " ++ (data.weight * 100.0).toFixed ++ "%",
    "n/a", data.weight * 100.0, 0.0, false⟩

def addAgent (builder : Builder) (agent : AgentInput) : Builder :=
  let builder := (builder.push (agentNode agent)).push (dataNode case agent)
  let builder := builder.pushEdge ⟨dataId case agent, agentId agent, .handles, false⟩
  let builder := inputs.identities.foldl (addAccess case agent) builder
  (agentProviders case inputs agent).foldl (addRoute case inputs overrides agent) builder

def libraryOf (finding : FindingRecord) : Option String :=
  if finding.assetType = .cryptoLibrary ∧ isClassical finding.pqcStatus = true then
    some (replace finding.title "Crypto dependency: " "")
  else none

def dependencyPath (finding : FindingRecord) (library : String) : AttackPath :=
  let score := tenths (channelWeight finding.pqcStatus * 45.0)
  { id := "asset:" ++ library
    title := "Weak cryptographic dependency: " ++ library
    severity := severityFor score
    score
    hndl := false
    observed := false
    requestCount := 0
    kind := .externalAsset
    dataClass := "Codebase"
    agent := "—"
    provider := "—"
    tlsVersion := none
    channelPqc := finding.pqcStatus
    nodeIds := ["dependency:" ++ library]
    recommendation := "Replace " ++ library ++ " with a maintained, PQC-capable library (" ++
      finding.location ++ ")." }

def addDependency (state : Builder × List String) (finding : FindingRecord) :
    Builder × List String :=
  match libraryOf finding with
  | none => state
  | some library =>
    if library ∈ state.2 then state
    else
      let builder := state.1.push <| statusNode ("dependency:" ++ library) .dependency library
        finding.location finding.pqcStatus false
      (if finding.pqcStatus = .classicalWeak then
          builder.pushPath (dependencyPath finding library)
        else builder,
        library :: state.2)

def environmentWeight (environment : String) (tags : List String) : Double :=
  if containsText (case.toLowercase environment) "prod" ||
      tags.any fun tag => containsText tag "external" || containsText tag "customer" then 0.95
  else 0.6

def assetScore (asset : AssetRow) : Double :=
  tenths (channelWeight (parseStatus asset.pqcStatus) *
    environmentWeight case asset.environment asset.tags * 100.0)

def hasAssetPath (asset : AssetRow) : Bool :=
  0.0 < channelWeight (parseStatus asset.pqcStatus) && !isAirGapped asset.tags &&
    15.0 ≤ assetScore case asset

def assetPath (asset : AssetRow) : AttackPath :=
  let status := parseStatus asset.pqcStatus
  let score := assetScore case asset
  { id := "asset:" ++ asset.id
    title := asset.id ++ " (" ++ asset.kind ++ ") exposes a quantum-vulnerable channel"
    severity := severityFor score
    score
    hndl := isClassical status
    observed := false
    requestCount := 0
    kind := .externalAsset
    dataClass := asset.environment
    agent := "—"
    provider := asset.address
    tlsVersion := asset.tlsVersion
    channelPqc := status
    nodeIds := ["asset:" ++ asset.id]
    recommendation := "Enable hybrid ML-KEM on " ++ asset.address ++ " (" ++
      asset.environment ++ "). " ++
      (if isClassical status then "Quantum-vulnerable and harvestable today."
        else "Characterize and treat as vulnerable until proven PQC.") }

def addAsset (builder : Builder) (asset : AssetRow) : Builder :=
  let airGapped := isAirGapped asset.tags
  let builder := builder.push
    ⟨"asset:" ++ asset.id, .asset, asset.id,
      if airGapped then asset.kind ++ " · " ++ asset.environment ++ " · air-gapped"
      else asset.kind ++ " · " ++ asset.environment,
      asset.pqcStatus,
      if airGapped then 0.0 else channelWeight (parseStatus asset.pqcStatus) * 100.0, 0.0, false⟩
  if hasAssetPath case asset then builder.pushPath (assetPath case asset) else builder

def hostId (target : TargetRow) : String := "host:" ++ target.id

def serviceId (target : TargetRow) (service : ExposedService) : String :=
  "service:" ++ target.id ++ ":" ++ toString service.port.toNat

def serviceScore (target : TargetRow) (service : ExposedService) : Double :=
  let status := parseStatus service.pqcStatus
  let known : Double := if status = .unknown then 0.55 else 1.0
  tenths (channelWeight status * environmentWeight case target.environment target.tags * known *
    100.0)

def hasServicePath (target : TargetRow) (service : ExposedService) : Bool :=
  service.exposed && !(channelWeight (parseStatus service.pqcStatus) ≤ 0.0) &&
    !isAirGapped target.tags && !(serviceScore case target service < 15.0)

def servicePath (target : TargetRow) (service : ExposedService) : AttackPath :=
  let status := parseStatus service.pqcStatus
  let score := serviceScore case target service
  let address := target.host ++ ":" ++ toString service.port.toNat
  { id := serviceId target service
    title := address ++ " (" ++ service.service ++ ") exposes a quantum-vulnerable channel"
    severity := severityFor score
    score
    hndl := isClassical status
    observed := false
    requestCount := 0
    kind := .externalAsset
    dataClass := target.environment
    agent := "—"
    provider := address
    tlsVersion := none
    channelPqc := status
    nodeIds := [hostId target, serviceId target service]
    recommendation :=
      if isClassical status then
        "Terminate " ++ address ++ " behind the QuantaWatch PQC overlay or issue it a " ++
          "hybrid ML-DSA certificate — harvestable today."
      else
        "Fingerprint " ++ address ++
          " and treat as quantum-vulnerable until proven PQC/hybrid." }

def addService (target : TargetRow) (builder : Builder) (service : ExposedService) : Builder :=
  let status := parseStatus service.pqcStatus
  let builder := builder.push
    ⟨serviceId target service, .service,
      ":" ++ toString service.port.toNat ++ " " ++ service.service,
      target.host ++ " · " ++ (if service.exposed then "exposed" else "internal (loopback)"),
      service.pqcStatus, channelWeight status * 100.0, 0.0, false⟩
  let builder := builder.pushEdge ⟨hostId target, serviceId target service, .exposes, false⟩
  if hasServicePath case target service then
    (builder.addBlast (hostId target)
      (channelWeight status * environmentWeight case target.environment target.tags)).pushPath
        (servicePath case target service)
  else builder

def containerId (target : TargetRow) (container : HostContainerRow) : String :=
  "container:" ++ target.id ++ ":" ++ container.name

def addContainer (target : TargetRow) (builder : Builder) (container : HostContainerRow) :
    Builder :=
  (builder.push
    ⟨containerId target container, .container, container.name, container.image, "n/a", 0.0, 0.0,
      false⟩).pushEdge ⟨hostId target, containerId target container, .runs, false⟩

def hostSublabel (target : TargetRow) : String :=
  if isAirGapped target.tags then target.host ++ " · " ++ target.environment ++ " · air-gapped"
  else
    match target.hostInfo with
    | some info =>
      if info = "" then target.host ++ " · " ++ target.kind ++ " · " ++ target.environment
      else target.host ++ " · " ++ info
    | none => target.host ++ " · " ++ target.kind ++ " · " ++ target.environment

def hostNode (target : TargetRow) : Node :=
  ⟨hostId target, .host, target.name, hostSublabel target, target.pqcStatus,
    if isAirGapped target.tags then 0.0 else channelWeight (parseStatus target.pqcStatus) * 100.0,
    0.0, false⟩

def addTarget (builder : Builder) (target : TargetRow) : Builder :=
  let builder := builder.push (hostNode target)
  let builder := target.exposedServices.foldl (addService case target) builder
  target.containers.foldl (addContainer target) builder

def build : Builder :=
  let builder := (providers inputs overrides).foldl (addProvider inputs overrides) .empty
  let builder := inputs.identities.foldl addIdentity builder
  let builder := inputs.agents.foldl (addAgent case inputs overrides) builder
  let builder := ((liveFindings inputs).foldl addDependency (builder, [])).1
  let builder := inputs.assets.foldl (addAsset case) builder
  inputs.targets.foldl (addTarget case) builder

def buildGraph : Graph := (build case inputs overrides).finish

end Engine

end QuantaWatch.AttackGraph
