import QuantaWatch.Cbom.Posture
import QuantaWatch.Lib.FirstWins
import QuantaWatch.Lib.Text

/-!
The inventory document of scan results (`qw-cbom/src/model.rs`,
`qw-cbom/src/posture.rs`, `qw-cbom/src/builder.rs` and `dedupe_scan_results` of
`qw-cbom/src/deterministic.rs`), with scores as exact rationals.
-/

namespace QuantaWatch.Cbom.Exact

open Crypto Lib Lib.Text Scanner

structure NamedFinding extends Finding where
  id : String
  /-- `asset.name` -/
  name : String

structure NamedScanResult where
  scannerId : String
  findings : List NamedFinding

def SameFindings (result other : NamedScanResult) : Prop :=
  result.scannerId = other.scannerId ∧ result.findings.Perm other.findings

def Reordered (results other : List NamedScanResult) : Prop :=
  ∃ middle, results.Perm middle ∧ List.Forall₂ SameFindings middle other

theorem findings_perm_of_reordered {results other : List NamedScanResult}
    (reordered : Reordered results other) :
    (results.flatMap NamedScanResult.findings).Perm (other.flatMap NamedScanResult.findings) := by
  obtain ⟨middle, outer, inner⟩ := reordered
  refine (outer.flatMap_right _).trans ?_
  clear outer
  induction inner with
  | nil => exact .refl _
  | cons same _ ih =>
    rw [List.flatMap_cons, List.flatMap_cons]
    exact same.2.append ih

structure CategoryScore where
  category : String
  score : ℚ
  assetCount : UInt32

structure ProviderScore where
  provider : String
  score : ℚ
  tlsVersion : Option String
  pqcStatus : PqcStatus

structure PostureSummary where
  overallScore : ℚ
  totalAssets : UInt32
  byStatus : List (String × UInt32)
  byCategory : List CategoryScore
  byProvider : List ProviderScore
  calculatedAt : DateTime

structure CipherSuiteInfo where
  name : String
  pqcStatus : PqcStatus

structure ProtocolProperties where
  protocolType : String
  version : String
  cipherSuites : List CipherSuiteInfo

structure CertificateProperties where
  subjectName : String
  issuerName : String
  notValidBefore : DateTime
  notValidAfter : DateTime
  signatureAlgorithm : String
  subjectPublicKeyAlgorithm : String
  keyLength : Option UInt32

structure AlgorithmProperties where
  primitive : String
  parameterSetIdentifier : Option String
  classicalSecurityLevel : Option UInt32
  nistQuantumSecurityLevel : Option UInt8

structure CryptoProperties where
  assetType : String
  algorithmProperties : Option AlgorithmProperties
  certificateProperties : Option CertificateProperties
  protocolProperties : Option ProtocolProperties
  oid : Option String

structure ComponentEvidence where
  scannerId : String
  scanTimestamp : DateTime
  source : String
  confidence : ℚ

structure CryptoComponent where
  bomRef : String
  componentType : String
  name : String
  version : Option String
  cryptoProperties : Option CryptoProperties
  evidence : ComponentEvidence
  postureScore : ℚ
  pqcStatus : PqcStatus

structure CryptoService where
  bomRef : String
  name : String
  endpoints : List String
  authenticated : Bool
  tlsVersion : Option String
  cipherSuite : Option String
  pqcStatus : PqcStatus
  postureScore : ℚ

structure ToolInfo where
  vendor : String
  name : String
  version : String
  fingerprint : Option String

structure BomMetadata where
  timestamp : DateTime
  tools : List ToolInfo

structure CryptoBom where
  bomFormat : String
  specVersion : String
  serialNumber : String
  version : UInt32
  metadata : BomMetadata
  components : List CryptoComponent
  services : List CryptoService
  posture : PostureSummary

def dedupeKey (finding : NamedFinding) : String :=
  match finding.asset.assetType with
  | .cryptoLibrary => "lib:" ++ finding.name
  | _ => finding.name ++ ":" ++ finding.asset.path ++ ":" ++ finding.category.label

def dedupeAfter : List String → List NamedScanResult → List NamedScanResult
  | _, [] => []
  | seen, result :: results =>
    { result with findings := FirstWins.fresh dedupeKey seen result.findings } ::
      dedupeAfter (result.findings.map dedupeKey ++ seen) results

def dedupeScanResults (results : List NamedScanResult) : List NamedScanResult :=
  dedupeAfter [] results

def scorePqcStatus : PqcStatus → ℚ
  | .pqcReady => 100
  | .hybrid => 90
  | .classicalSecure => 60
  | .classicalWeak => 20
  | .unknown => 40

def clamp (value low high : ℚ) : ℚ :=
  if value < low then low else if value > high then high else value

def scoreFinding (finding : Finding) : ℚ :=
  let score := scorePqcStatus finding.pqcStatus
  let adjusted :=
    match finding.category with
    | .expiredCertificate => score - 40
    | .expiringCertificate => score - 15
    | .shortKeyLength => score - 20
    | .deprecatedProtocol => score - 10
    | .vulnerableLibrary => score - 30
    | .hardcodedKey => score - 25
    | .weakAlgorithm => score - 15
    | .unencryptedAtRest => score - 45
    | .staleKeyRotation => score - 8
    | _ => score
  -- no severity is above critical
  clamp (if finding.severity = .critical then adjusted - 10 else adjusted) 0 100

def scoreService (info : ProviderCryptoInfo) : ℚ :=
  let score := scorePqcStatus info.pqcStatus
  clamp (if containsText info.tlsVersion "1.3" then score else score - 10) 0 100

structure Scored where
  status : PqcStatus
  score : ℚ
  group : PostureEngine.ScoreGroup

def scoredFinding (finding : NamedFinding) : Scored :=
  ⟨finding.pqcStatus, scoreFinding finding.toFinding, PostureEngine.groupOf finding.asset.assetType⟩

def scoredProvider (provider : ProviderCryptoInfo) : Scored :=
  ⟨provider.pqcStatus, scoreService provider, .tls⟩

def scoresOf (group : PostureEngine.ScoreGroup) (assets : List Scored) : List ℚ :=
  (assets.filter fun asset => asset.group = group).map Scored.score

def average (scores : List ℚ) : ℚ :=
  if scores.isEmpty then 100 else scores.sum / scores.length

def categoryScore (category : String) (scores : List ℚ) : CategoryScore :=
  ⟨category, average scores, UInt32.ofNat scores.length⟩

def providerScore (provider : ProviderCryptoInfo) : ProviderScore :=
  ⟨provider.providerName, scoreService provider, some provider.tlsVersion, provider.pqcStatus⟩

def overallScore (assets : List Scored) : ℚ :=
  average (scoresOf .tls assets) * (30 / 100) +
    average (scoresOf .certificates assets) * (25 / 100) +
    average (scoresOf .dependencies assets) * (25 / 100) +
    average (scoresOf .keys assets) * (20 / 100)

def summarizeAssets (assets : List Scored) (providers : List ProviderScore) (now : DateTime) :
    PostureSummary where
  -- no score is negative, so half is rounded up
  overallScore := (round (overallScore assets * 10) : ℤ) / 10
  totalAssets := UInt32.ofNat assets.length
  byStatus := PostureEngine.countByStatus (assets.map Scored.status)
  byCategory :=
    [categoryScore "TLS & Protocols" (scoresOf .tls assets),
      categoryScore "Certificates" (scoresOf .certificates assets),
      categoryScore "Dependencies" (scoresOf .dependencies assets),
      categoryScore "Keys & Code" (scoresOf .keys assets)]
  byProvider := providers
  calculatedAt := now

def summarize (results : List NamedScanResult) (providers : List ProviderCryptoInfo)
    (now : DateTime) : PostureSummary :=
  summarizeAssets
    ((results.flatMap NamedScanResult.findings).map scoredFinding ++ providers.map scoredProvider)
    (providers.map providerScore) now

def classifyPrimitive (case : CaseMapping) (alg : String) : String :=
  let lower := case.toLowercase alg
  if containsText lower "dsa" || containsText lower "ecdsa" || containsText lower "ed25519" ||
      containsText lower "rsa" then "signature"
  else if containsText lower "kem" || containsText lower "kyber" || containsText lower "dh" ||
      containsText lower "x25519" then "kem"
  else if containsText lower "aes" || containsText lower "chacha" || containsText lower "3des" then
    "ae"
  else if containsText lower "sha" || containsText lower "blake" || containsText lower "md5" then
    "hash"
  else if containsText lower "hmac" || containsText lower "poly1305" then "mac"
  else "unknown"

def cryptoPropertiesOf (case : CaseMapping) (finding : NamedFinding) : Option CryptoProperties :=
  match finding.asset.assetType with
  | .tlsConnection | .protocolEndpoint =>
    let tlsVersion := (finding.metadata.lookup "tls_version").getD ""
    let cipher := (finding.metadata.lookup "cipher_suite").getD ""
    some {
      assetType := "protocol"
      algorithmProperties := none
      certificateProperties := none
      protocolProperties := some ⟨"tls", tlsVersion, [⟨cipher, finding.pqcStatus⟩]⟩
      oid := none }
  | .certificate =>
    some {
      assetType := "certificate"
      algorithmProperties := none
      certificateProperties := none
      protocolProperties := none
      oid := none }
  | .cryptoLibrary =>
    let alg := finding.asset.algorithm.getD ""
    some {
      assetType := "related-crypto-material"
      algorithmProperties := some {
        primitive := classifyPrimitive case alg
        parameterSetIdentifier := some alg
        classicalSecurityLevel := none
        nistQuantumSecurityLevel :=
          match finding.pqcStatus with
          | .pqcReady => some 3
          | .hybrid => some 3
          | _ => none }
      certificateProperties := none
      protocolProperties := none
      oid := none }
  | _ => none

def componentTypeOf : CryptoAssetType → String
  | .cryptoLibrary => "library"
  | _ => "crypto-asset"

def findingToComponent (case : CaseMapping) (scannerId : String) (finding : NamedFinding) :
    CryptoComponent where
  bomRef := "comp-" ++ finding.id
  componentType := componentTypeOf finding.asset.assetType
  name := finding.name
  version := finding.asset.protocolVersion
  cryptoProperties := cryptoPropertiesOf case finding
  evidence := ⟨scannerId, finding.asset.discoveredAt, finding.asset.path, 9 / 10⟩
  postureScore := scoreFinding finding.toFinding
  pqcStatus := finding.pqcStatus

structure CbomBuilder where
  components : List CryptoComponent
  services : List CryptoService

def CbomBuilder.new : CbomBuilder := ⟨[], []⟩

def CbomBuilder.ingestScanResults (case : CaseMapping) (builder : CbomBuilder)
    (results : List NamedScanResult) : CbomBuilder :=
  { builder with
    components := builder.components ++ (dedupeScanResults results).flatMap fun result =>
      result.findings.map (findingToComponent case result.scannerId) }

def capitalize (case : CaseMapping) (text : String) : String :=
  match text.toList with
  | [] => ""
  | first :: rest => case.toUppercase (String.singleton first) ++ String.ofList rest

def providerService (case : CaseMapping) (provider : ProviderCryptoInfo) : CryptoService where
  bomRef := "service-" ++ provider.providerName
  name := capitalize case provider.providerName ++ " API"
  endpoints := [provider.endpoint]
  authenticated := true
  tlsVersion := some provider.tlsVersion
  cipherSuite := some provider.cipherSuite
  pqcStatus := provider.pqcStatus
  postureScore := scoreService provider

def CbomBuilder.ingestProviderInfo (case : CaseMapping) (builder : CbomBuilder)
    (providers : List ProviderCryptoInfo) : CbomBuilder :=
  { builder with services := builder.services ++ providers.map (providerService case) }

structure Drawn where
  uuid : String
  summarizedAt : DateTime
  builtAt : DateTime

def CbomBuilder.buildWithPosture (packageVersion : String) (drawn : Drawn) (builder : CbomBuilder)
    (gatewayFingerprint : String) (posture : PostureSummary) : CryptoBom where
  bomFormat := "CycloneDX"
  specVersion := "1.6"
  serialNumber := "urn:uuid:" ++ drawn.uuid
  version := 1
  metadata := ⟨drawn.builtAt,
    [⟨"Dyber, Inc.", "QuantaWatch", packageVersion, some gatewayFingerprint⟩]⟩
  components := builder.components
  services := builder.services
  posture := posture

abbrev Entry := String × NamedFinding

def entriesOf (result : NamedScanResult) : List Entry :=
  result.findings.map fun finding => (result.scannerId, finding)

def entryKey (entry : Entry) : String := dedupeKey entry.2

def keptEntries (results : List NamedScanResult) : List Entry :=
  FirstWins.fresh entryKey [] (results.map entriesOf).flatten

theorem fresh_entries (seen : List String) (result : NamedScanResult) :
    FirstWins.fresh entryKey seen (entriesOf result) =
      entriesOf { result with findings := FirstWins.fresh dedupeKey seen result.findings } := by
  rw [entriesOf, entriesOf, FirstWins.fresh_map]
  rfl

theorem map_entryKey_entriesOf (result : NamedScanResult) :
    (entriesOf result).map entryKey = result.findings.map dedupeKey := by
  rw [entriesOf, List.map_map]
  rfl

theorem entries_dedupeAfter (seen : List String) (results : List NamedScanResult) :
    ((dedupeAfter seen results).map entriesOf).flatten =
      FirstWins.fresh entryKey seen (results.map entriesOf).flatten := by
  induction results generalizing seen with
  | nil => rfl
  | cons result results ih =>
    rw [dedupeAfter, List.map_cons, List.flatten_cons, List.map_cons, List.flatten_cons,
      FirstWins.fresh_append, fresh_entries, map_entryKey_entriesOf, ih]

variable (results : List NamedScanResult)

theorem entries_dedupeScanResults :
    ((dedupeScanResults results).map entriesOf).flatten = keptEntries results :=
  entries_dedupeAfter [] results

theorem keptEntries_dedupeScanResults :
    keptEntries (dedupeScanResults results) = keptEntries results := by
  rw [keptEntries, entries_dedupeScanResults, keptEntries, FirstWins.fresh_fresh]

theorem findings_eq_entries :
    results.flatMap NamedScanResult.findings = ((results.map entriesOf).flatten).map Prod.snd := by
  induction results with
  | nil => rfl
  | cons result results ih =>
    rw [List.flatMap_cons, ih, List.map_cons, List.flatten_cons, List.map_append,
      entriesOf, List.map_map]
    exact congrArg (· ++ _) (List.map_id _).symm

theorem components_ingestScanResults (case : CaseMapping) (builder : CbomBuilder)
    (results : List NamedScanResult) : (builder.ingestScanResults case results).components =
      builder.components ++
        (keptEntries results).map fun entry => findingToComponent case entry.1 entry.2 := by
  have listed : ∀ kept : List NamedScanResult,
      (kept.flatMap fun result => result.findings.map (findingToComponent case result.scannerId)) =
        (kept.map entriesOf).flatten.map fun entry => findingToComponent case entry.1 entry.2 := by
    intro kept
    induction kept with
    | nil => rfl
    | cons result kept ih =>
      rw [List.flatMap_cons, ih, List.map_cons, List.flatten_cons,
        List.map_append, entriesOf, List.map_map]
      rfl
  rw [← entries_dedupeScanResults, ← listed]
  rfl

def groupOfComponent (component : CryptoComponent) : PostureEngine.ScoreGroup :=
  match component.cryptoProperties with
  | none => .keys
  | some properties =>
    if properties.assetType = "protocol" then .tls
    else if properties.assetType = "certificate" then .certificates
    else .dependencies

def scoredComponent (component : CryptoComponent) : Scored :=
  ⟨component.pqcStatus, component.postureScore, groupOfComponent component⟩

theorem scoredComponent_findingToComponent (case : CaseMapping) (scannerId : String)
    (finding : NamedFinding) :
    scoredComponent (findingToComponent case scannerId finding) = scoredFinding finding := by
  have group : groupOfComponent (findingToComponent case scannerId finding) =
      PostureEngine.groupOf finding.asset.assetType := by
    rw [groupOfComponent, findingToComponent, cryptoPropertiesOf]
    cases finding.asset.assetType <;> rfl
  rw [scoredComponent, group]
  rfl

theorem average_perm {left right : List ℚ} (perm : left.Perm right) :
    average left = average right := by
  rw [average, average, perm.sum_eq, perm.length_eq, perm.isEmpty_eq]

theorem scoresOf_perm {left right : List Scored} (perm : left.Perm right)
    (group : PostureEngine.ScoreGroup) : (scoresOf group left).Perm (scoresOf group right) :=
  (perm.filter _).map _

theorem countByStatus_perm {left right : List PqcStatus} (perm : left.Perm right) :
    PostureEngine.countByStatus left = PostureEngine.countByStatus right := by
  have counted : ∀ statuses : List PqcStatus, PostureEngine.countByStatus statuses =
      ((Collections.groupOn PqcStatus.label statuses).map (Prod.map id List.length)).map
        (Prod.map id UInt32.ofNat) := by
    intro statuses
    rw [List.map_map]
    rfl
  rw [counted, counted, Collections.groupOn_lengths_perm perm]

theorem summarizeAssets_perm {left right : List Scored} (perm : left.Perm right)
    (providers : List ProviderScore) (now : DateTime) :
    summarizeAssets left providers now = summarizeAssets right providers now := by
  have averages : ∀ group, average (scoresOf group left) = average (scoresOf group right) :=
    fun group => average_perm (scoresOf_perm perm group)
  have lengths : ∀ group, (scoresOf group left).length = (scoresOf group right).length :=
    fun group => (scoresOf_perm perm group).length_eq
  simp only [summarizeAssets, overallScore, categoryScore, averages, lengths, perm.length_eq,
    countByStatus_perm (perm.map Scored.status)]

end QuantaWatch.Cbom.Exact
