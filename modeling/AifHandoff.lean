import AifHandoff.System.Escape
import AifHandoff.Data.HierarchyRuns
import AifHandoff.System.ClaimRuns
import AifHandoff.System.PollPass
import AifHandoff.System.CancelFinal
import AifHandoff.Data.ArtifactBoundary
import AifHandoff.Agent.ArtifactDecisions
import AifHandoff.System.SynthesisHold
import AifHandoff.Data.EndpointLease
import AifHandoff.Data.RuntimeProfiles
import AifHandoff.Data.MemoryRuns
import AifHandoff.Agent.RuntimeRecovery
import AifHandoff.Shared.PlanChecklist
import AifHandoff.Shared.GitIsolation
import AifHandoff.Shared.AuditSynthesis
import AifHandoff.Agent.AgentRuns
import AifHandoff.Runtime.QwenEvidence
import AifHandoff.System.SyncRaces
import AifHandoff.Api.OperatorCloseout
import AifHandoff.Runtime.EndpointSemaphore
import AifHandoff.Runtime.ChildOutput
import AifHandoff.Runtime.CodexLimits
import AifHandoff.Runtime.EndpointCircuit
import AifHandoff.Agent.PlanSchedule
import AifHandoff.Data.RequirementKeys
import AifHandoff.Data.RuntimeLimitStore
import AifHandoff.Shared.FutureHint
import AifHandoff.Shared.PlanAnnotationUpsert
import AifHandoff.Data.UsageLedger
import AifHandoff.Data.TaskDeletion
import AifHandoff.Data.WarmupSessions
import AifHandoff.Agent.RawSidecars
import AifHandoff.Data.CleanTexts
import AifHandoff.Shared.AuditEvidencePayloads
import AifHandoff.Shared.SplitScopes
import AifHandoff.Shared.ManifestCanonical
import AifHandoff.Runtime.ReadWindows
import AifHandoff.Data.ArtifactPaths
import AifHandoff.Runtime.TokenBudgets
import AifHandoff.Runtime.WriteBoundaries
import AifHandoff.Shared.ShellChains
import AifHandoff.Shared.FileBoundaries
import AifHandoff.Runtime.ShellSafety
import AifHandoff.Shared.ProviderMetaSecrets
import AifHandoff.System.VerifiedFinal
import AifHandoff.Mcp.SyncRuns
import AifHandoff.System.WatchdogRuns
import AifHandoff.Data.QaGate
