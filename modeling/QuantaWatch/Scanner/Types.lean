import QuantaWatch.Crypto.Primitives

/-!
What scanners report (`qw-scanner/src/types.rs`).
-/

namespace QuantaWatch.Scanner

open Crypto

inductive PqcStatus where
  | pqcReady
  | hybrid
  | classicalSecure
  | classicalWeak
  | unknown
deriving DecidableEq

def PqcStatus.label : PqcStatus → String
  | pqcReady => "pqc_ready"
  | hybrid => "hybrid"
  | classicalSecure => "classical_secure"
  | classicalWeak => "classical_weak"
  | unknown => "unknown"

inductive FindingCategory where
  | weakAlgorithm
  | shortKeyLength
  | expiredCertificate
  | expiringCertificate
  | deprecatedProtocol
  | hardcodedKey
  | missingPqc
  | pqcReady
  | vulnerableLibrary
  | classicalCrypto
  | unencryptedAtRest
  | staleKeyRotation
deriving DecidableEq

def FindingCategory.label : FindingCategory → String
  | weakAlgorithm => "weak_algorithm"
  | shortKeyLength => "short_key_length"
  | expiredCertificate => "expired_certificate"
  | expiringCertificate => "expiring_certificate"
  | deprecatedProtocol => "deprecated_protocol"
  | hardcodedKey => "hardcoded_key"
  | missingPqc => "missing_pqc"
  | pqcReady => "pqc_ready"
  | vulnerableLibrary => "vulnerable_library"
  | classicalCrypto => "classical_crypto"
  | unencryptedAtRest => "unencrypted_at_rest"
  | staleKeyRotation => "stale_key_rotation"

inductive FindingSeverity where
  | info
  | low
  | medium
  | high
  | critical
deriving DecidableEq

def FindingSeverity.label : FindingSeverity → String
  | info => "info"
  | low => "low"
  | medium => "medium"
  | high => "high"
  | critical => "critical"

def FindingSeverity.rank : FindingSeverity → Nat
  | info => 0
  | low => 1
  | medium => 2
  | high => 3
  | critical => 4

inductive CryptoAssetType where
  | tlsConnection
  | certificate
  | signingKey
  | encryptionKey
  | hashFunction
  | cryptoLibrary
  | protocolEndpoint
  | dataStore
deriving DecidableEq

def CryptoAssetType.label : CryptoAssetType → String
  | tlsConnection => "tls_connection"
  | certificate => "certificate"
  | signingKey => "signing_key"
  | encryptionKey => "encryption_key"
  | hashFunction => "hash_function"
  | cryptoLibrary => "crypto_library"
  | protocolEndpoint => "protocol_endpoint"
  | dataStore => "data_store"

structure CryptoAsset where
  assetType : CryptoAssetType
  algorithm : Option String
  keyLength : Option UInt32
  protocolVersion : Option String
  /-- `location.path` -/
  path : String
  discoveredBy : String
  discoveredAt : DateTime
deriving DecidableEq

structure Finding where
  category : FindingCategory
  severity : FindingSeverity
  title : String
  description : String
  asset : CryptoAsset
  remediation : Option String
  pqcStatus : PqcStatus
  metadata : List (String × String)
deriving DecidableEq

inductive ScanStatus where
  | completed
  | partialFailure
  | failed
deriving DecidableEq

structure ScanResult where
  scannerId : String
  targetId : String
  startedAt : DateTime
  completedAt : DateTime
  findings : List Finding
  status : ScanStatus

inductive TargetType where
  | tlsEndpoint
  | dependencyFile
  | certificate
  | codeDirectory
  | cloudKeyStore
  | dataStore
  | sshEndpoint
  | networkHost
  | startTlsEndpoint
  | rdpEndpoint
  | ctDomain
deriving DecidableEq

structure ScanTarget where
  id : String
  targetType : TargetType
  address : String
  metadata : List (String × String)

structure ScanRecord where
  id : String
  scannerId : String
  targetId : String
  targetAddress : String
  status : ScanStatus
  findingCount : UInt32
  startedAt : DateTime
  completedAt : DateTime
  contentHash : String

inductive Confidence where
  | high
  | medium
  | low
deriving DecidableEq

inductive FindingStatus where
  | opened
  | acknowledged
  | suppressed
deriving DecidableEq

structure FindingRecord where
  id : String
  scanId : String
  category : FindingCategory
  severity : FindingSeverity
  title : String
  description : String
  assetType : CryptoAssetType
  algorithm : Option String
  pqcStatus : PqcStatus
  location : String
  remediation : Option String
  createdAt : DateTime
  confidence : Confidence
  evidence : List String
  status : FindingStatus
  note : Option String
deriving DecidableEq

def confidenceOf (finding : Finding) : Confidence :=
  match finding.pqcStatus, finding.asset.assetType with
  | .unknown, _ => .low
  | _, .tlsConnection => .high
  | _, .certificate => .high
  | _, .protocolEndpoint => .high
  | _, .dataStore => .high
  | _, _ => .medium

def evidenceOf (platform : Platform) (finding : Finding) (scannerId : String) : List String :=
  let asset := finding.asset
  ["Probe: " ++ (if scannerId = "" then asset.discoveredBy else scannerId) ++ " scanner",
    "Observed: " ++ platform.toRfc3339 asset.discoveredAt,
    "Location: " ++ asset.path] ++
  (asset.algorithm.map fun algorithm => "Algorithm: " ++ algorithm).toList ++
  (asset.protocolVersion.map fun version => "Protocol: " ++ version).toList ++
  (asset.keyLength.map fun length => "Key length: " ++ toString length ++ " bits").toList ++
  ["Classified: " ++ finding.pqcStatus.label] ++
  ["security_mode", "exposed", "source", "tls_version"].filterMap fun key =>
    (finding.metadata.lookup key).map fun value => key ++ ": " ++ value

end QuantaWatch.Scanner
