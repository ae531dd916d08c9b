import TextExpr.CommandLine
import TextExpr.Expr.Host
import TextExpr.Expr.Workspace
import TextExpr.Main
import TextExpr.Pattern.PlainText
import TextExpr.Proofs.Boundary
import TextExpr.Proofs.Contract
import TextExpr.Proofs.SearchLoop
import TextExpr.Proofs.GlobalMatch
import TextExpr.Proofs.Replace
import TextExpr.Proofs.Split
import TextExpr.Proofs.LinearSearch
import TextExpr.Proofs.PlanMatch
import TextExpr.Proofs.PlanOrder
import TextExpr.Proofs.TreePlan
import TextExpr.Proofs.GroupNumbers
import TextExpr.Proofs.EngineContract
import TextExpr.Proofs.Paths
import TextExpr.Proofs.Binding
import TextExpr.Proofs.Arguments
import TextExpr.Proofs.Dispatch
import TextExpr.Proofs.NestedReplacement
import TextExpr.Proofs.Shared.Syntax
import TextExpr.Proofs.Shared.LinearClass
import TextExpr.Proofs.Shared.LinearPattern
import TextExpr.Proofs.Shared.BacktrackClass
import TextExpr.Proofs.Shared.BacktrackPattern
import TextExpr.Proofs.Shared.Reading
import TextExpr.Proofs.Shared.Written
import TextExpr.Proofs.Shared.Agreement
import TextExpr.Proofs.EngineSwap
import TextExpr.Proofs.FlagLetters
import TextExpr.Proofs.PatternValue
import TextExpr.Proofs.CanonicalForm
import TextExpr.Proofs.Separators
import TextExpr.Proofs.CurrentValue
import TextExpr.Proofs.Candidates
import TextExpr.Proofs.MatchPresence
import TextExpr.Proofs.FlagEffects
import TextExpr.Proofs.RegistryHistory
