import QuantaWatch.Lib.Json.Value

/-!
How the security monitor combines its detectors
(`qw-monitor/src/lib.rs`, `types.rs`).
-/

namespace QuantaWatch.Monitor

open Lib.Json

inductive Severity where
  | none
  | low
  | medium
  | high
  | critical
deriving DecidableEq

def Severity.rank : Severity → Nat
  | none => 0
  | low => 1
  | medium => 2
  | high => 3
  | critical => 4

instance : LinearOrder Severity :=
  LinearOrder.lift' Severity.rank fun left right equal => by
    cases left <;> cases right <;> first | rfl | cases equal

inductive ThreatCategory where
  | promptInjection
  | systemPromptExtraction
  | dataExfiltration
  | piiExposure
  | jailbreakAttempt
  | dangerousOutput
deriving DecidableEq

structure DetectedThreat where
  category : ThreatCategory
  patternName : String
  description : String
  matchedText : String
  severity : Severity
  confidence : F64

structure ThreatAssessment where
  threats : List DetectedThreat
  severity : Severity
  shouldBlock : Bool

namespace ThreatAssessment

def clean : ThreatAssessment := ⟨[], .none, false⟩

def fromThreats (threats : List DetectedThreat) (blockingThreshold : Severity) : ThreatAssessment :=
  if threats.isEmpty then clean
  else
    let severity := (threats.map DetectedThreat.severity).max?.getD .none
    ⟨threats, severity, decide (blockingThreshold ≤ severity)⟩

end ThreatAssessment

abbrev Detector := String → List DetectedThreat

structure SecurityMonitor where
  injection : Detector
  exfiltration : Detector
  pii : Detector
  heuristics : Detector
  semantic : Option Detector
  blockingThreshold : Severity

namespace SecurityMonitor

variable (monitor : SecurityMonitor)

def scanRequest (text : String) (system : Option String) : ThreatAssessment :=
  let onSystem (detector : Detector) := (system.map detector).getD []
  .fromThreats
    (monitor.injection text ++ onSystem monitor.injection ++ monitor.pii text ++
      monitor.heuristics text ++
      (monitor.semantic.map fun classifier => classifier text ++ onSystem classifier).getD [])
    monitor.blockingThreshold

def scanResponse (text : String) : ThreatAssessment :=
  .fromThreats
    (monitor.exfiltration text ++ monitor.pii text ++ monitor.heuristics text ++
      (monitor.semantic.map fun classifier => classifier text).getD [])
    monitor.blockingThreshold

end SecurityMonitor

end QuantaWatch.Monitor
