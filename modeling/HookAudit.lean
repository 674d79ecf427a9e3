import HookAudit.Main
import HookAudit.Engine.Rehearsal
import HookAudit.Scanner.Report
import HookAudit.Query.Build
import HookAudit.Proofs.Score.Additive
import HookAudit.Proofs.Engine.Answers
import HookAudit.Proofs.Engine.Preparation
import HookAudit.Proofs.Detection
import HookAudit.Proofs.Scanner.Hook
import HookAudit.Proofs.Score.Reporting
import HookAudit.Proofs.Scanner.Unmasked
import HookAudit.Proofs.Engine.Reordering
import HookAudit.Proofs.Engine.Attempts
import HookAudit.Proofs.Engine.Moves
import HookAudit.Proofs.Engine.Steps
import HookAudit.Proofs.Engine.Requests
import HookAudit.Proofs.Engine.Operations
import HookAudit.Proofs.Engine.Consistency
import HookAudit.Proofs.Engine.Stability
import HookAudit.Proofs.Engine.Atomicity
import HookAudit.Proofs.Engine.Transparency
import HookAudit.Proofs.Engine.SingleShot
import HookAudit.Proofs.Engine.Agreement
import HookAudit.Proofs.CommandLine.ExitCode
import HookAudit.Proofs.Engine.Availability
import HookAudit.Proofs.Scanner.Pool
import HookAudit.Proofs.Scanner.Coherence
import HookAudit.Proofs.Scanner.Padding
import HookAudit.Proofs.Engine.Renewal
import HookAudit.Proofs.Scanner.Report
import HookAudit.Proofs.CommandLine.Format
import HookAudit.Proofs.Engine.Isolation
import HookAudit.Proofs.Score.Relevance
import HookAudit.Proofs.Score.Findings
import HookAudit.Proofs.Scanner.Merging
import HookAudit.Proofs.Engine.Independence
import HookAudit.Proofs.Snippet
import HookAudit.Proofs.Excerpts
import HookAudit.Proofs.Engine.LanguageChoice
import HookAudit.Proofs.Language.Shebang
import HookAudit.Proofs.Scanner.Recognition
import HookAudit.Proofs.Query.PipedDownloads
import HookAudit.Proofs.Query.ForcedRemovals
import HookAudit.Proofs.Taxonomy
import HookAudit.Proofs.Engine.Reasons
import HookAudit.Proofs.CommandLine.Walk
