import QuantaWatch.Lib.Collections
import QuantaWatch.Scanner.Types

/-!
The posture score of findings and provider channels (`qw-cbom/src/posture.rs`).
-/

namespace QuantaWatch.Cbom

open Crypto Lib Scanner

structure ProviderCryptoInfo where
  providerName : String
  endpoint : String
  tlsVersion : String
  cipherSuite : String
  pqcStatus : PqcStatus
  lastSeen : DateTime

structure CategoryScore where
  category : String
  score : Float
  assetCount : UInt32

structure ProviderScore where
  provider : String
  score : Float
  tlsVersion : Option String
  pqcStatus : PqcStatus

structure PostureSummary where
  overallScore : Float
  totalAssets : UInt32
  byStatus : List (String × UInt32)
  byCategory : List CategoryScore
  byProvider : List ProviderScore
  calculatedAt : DateTime

namespace PostureEngine

def scorePqcStatus : PqcStatus → Float
  | .pqcReady => 100.0
  | .hybrid => 90.0
  | .classicalSecure => 60.0
  | .classicalWeak => 20.0
  | .unknown => 40.0

def clamp (value low high : Float) : Float :=
  if value < low then low else if value > high then high else value

def scoreFinding (finding : Finding) : Float :=
  let score := scorePqcStatus finding.pqcStatus
  let adjusted :=
    match finding.category with
    | .expiredCertificate => score - 40.0
    | .expiringCertificate => score - 15.0
    | .shortKeyLength => score - 20.0
    | .deprecatedProtocol => score - 10.0
    | .vulnerableLibrary => score - 30.0
    | .hardcodedKey => score - 25.0
    | .weakAlgorithm => score - 15.0
    | .unencryptedAtRest => score - 45.0
    | .staleKeyRotation => score - 8.0
    | _ => score
  -- no severity is above critical
  clamp (if finding.severity = .critical then adjusted - 10.0 else adjusted) 0.0 100.0

def scoreService (info : ProviderCryptoInfo) : Float :=
  let score := scorePqcStatus info.pqcStatus
  clamp (if "1.3".toList <:+: info.tlsVersion.toList then score else score - 10.0) 0.0 100.0

inductive ScoreGroup where
  | tls
  | certificates
  | dependencies
  | keys
deriving DecidableEq

def groupOf : CryptoAssetType → ScoreGroup
  | .tlsConnection => .tls
  | .protocolEndpoint => .tls
  | .certificate => .certificates
  | .cryptoLibrary => .dependencies
  | .signingKey => .keys
  | .encryptionKey => .keys
  | .hashFunction => .keys
  | .dataStore => .keys

def scoresOf (group : ScoreGroup) (findings : List Finding) : List Float :=
  (findings.filter fun finding => groupOf finding.asset.assetType = group).map scoreFinding

def average (scores : List Float) : Float :=
  if scores = [] then 100.0 else scores.foldl (· + ·) 0.0 / Float.ofNat scores.length

def countByStatus (statuses : List PqcStatus) : List (String × UInt32) :=
  (Collections.groupOn PqcStatus.label statuses).map fun group =>
    (group.1, UInt32.ofNat group.2.length)

def categoryScore (category : String) (scores : List Float) : CategoryScore :=
  ⟨category, average scores, UInt32.ofNat scores.length⟩

def providerScore (provider : ProviderCryptoInfo) : ProviderScore :=
  ⟨provider.providerName, scoreService provider, some provider.tlsVersion, provider.pqcStatus⟩

def summarizeFindings (findings : List Finding) (providers : List ProviderCryptoInfo)
    (now : DateTime) : PostureSummary :=
  let tls := scoresOf .tls findings ++ providers.map scoreService
  let certificates := scoresOf .certificates findings
  let dependencies := scoresOf .dependencies findings
  let keys := scoresOf .keys findings
  let overall := average tls * 0.30 + average certificates * 0.25 + average dependencies * 0.25 +
    average keys * 0.20
  { overallScore := (overall * 10.0).round / 10.0
    totalAssets := UInt32.ofNat (findings.length + providers.length)
    byStatus := countByStatus
      (findings.map Finding.pqcStatus ++ providers.map ProviderCryptoInfo.pqcStatus)
    byCategory :=
      [categoryScore "TLS & Protocols" tls, categoryScore "Certificates" certificates,
        categoryScore "Dependencies" dependencies, categoryScore "Keys & Code" keys]
    byProvider := providers.map providerScore
    calculatedAt := now }

def summarize (results : List ScanResult) (providers : List ProviderCryptoInfo) (now : DateTime) :
    PostureSummary :=
  summarizeFindings (results.flatMap ScanResult.findings) providers now

@[simp] theorem totalAssets_summarize (results : List ScanResult)
    (providers : List ProviderCryptoInfo) (now : DateTime) :
    (summarize results providers now).totalAssets =
      UInt32.ofNat ((results.flatMap ScanResult.findings).length + providers.length) :=
  rfl

end PostureEngine

end QuantaWatch.Cbom
