import QuantaWatch.AttackGraph.Dependencies
import QuantaWatch.AttackGraph.PathIds
import QuantaWatch.AttackGraph.Simulation
import QuantaWatch.AttackGraph.WellFormed
import QuantaWatch.Audit.CheckpointRoot
import QuantaWatch.Audit.Failures
import QuantaWatch.Audit.Tamper
import QuantaWatch.Cbom.PostureSound
import QuantaWatch.Cbom.References
import QuantaWatch.Cbom.Suppression
import QuantaWatch.Cbom.TrustChain
import QuantaWatch.Cli.NamedSigner
import QuantaWatch.Cli.SignFiles
import QuantaWatch.Gateway.AuthApi
import QuantaWatch.Gateway.AuthLayer
import QuantaWatch.Gateway.BusinessContext
import QuantaWatch.Gateway.CloudAssets
import QuantaWatch.Gateway.ConfigExpansion
import QuantaWatch.Gateway.EndpointReports
import QuantaWatch.Gateway.FactorChange
import QuantaWatch.Gateway.IdleTimeout
import QuantaWatch.Gateway.Offline
import QuantaWatch.Gateway.OneTimeUse
import QuantaWatch.Gateway.Outbound
import QuantaWatch.Gateway.PasswordGuess
import QuantaWatch.Gateway.PolicyState
import QuantaWatch.Gateway.PromptScan
import QuantaWatch.Gateway.ProxyResponse
import QuantaWatch.Gateway.RateLimit
import QuantaWatch.Gateway.Resilience
import QuantaWatch.Gateway.Siem
import QuantaWatch.Gateway.TargetDeletion
import QuantaWatch.Integrations.RemediationBranch
import QuantaWatch.Monitor.Heuristics
import QuantaWatch.Monitor.Pii
import QuantaWatch.Policy.Decisions
import QuantaWatch.Scanner.CertificateStatus
import QuantaWatch.Scanner.LineReader
import QuantaWatch.Scanner.SshFindings
import QuantaWatch.Store.Backends
import QuantaWatch.Store.Secrets
import QuantaWatch.Store.TriageRuns
