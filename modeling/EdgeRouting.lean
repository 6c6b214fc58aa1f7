import EdgeRouting.Bundle.Decode
import EdgeRouting.Bundle.Encode
import EdgeRouting.CommandLine.Run
import EdgeRouting.Config.Reader
import EdgeRouting.Emulator
import EdgeRouting.Log.Filter
import EdgeRouting.Main
import EdgeRouting.Proofs.CutOrder
import EdgeRouting.Proofs.Regex
import EdgeRouting.Proofs.ExpressionText
import EdgeRouting.Proofs.RuleMeaning
import EdgeRouting.Proofs.Accepted
import EdgeRouting.Proofs.RuleCompile
import EdgeRouting.Proofs.PatternNames
import EdgeRouting.Proofs.RuleAcceptance
import EdgeRouting.Proofs.RoutedAgain
import EdgeRouting.Proofs.GlobMeaning
import EdgeRouting.Proofs.GlobAcceptance
import EdgeRouting.Proofs.Decoding
import EdgeRouting.Proofs.CompiledBundle
import EdgeRouting.Proofs.JsonText
import EdgeRouting.Proofs.BundleRoundTrip
import EdgeRouting.Proofs.TamperEvidence
import EdgeRouting.Proofs.ComposedPolicy
import EdgeRouting.Proofs.KeyInvariance
import EdgeRouting.Proofs.MarkedText
import EdgeRouting.Proofs.KeyReading
import EdgeRouting.Proofs.FailClosed
import EdgeRouting.Proofs.ConfigErrors
import EdgeRouting.Proofs.PassedThrough
import EdgeRouting.Proofs.RedirectAnswer
import EdgeRouting.Proofs.ResponseHandling
import EdgeRouting.Proofs.ExchangeCounts
import EdgeRouting.Proofs.RenamedNames
import EdgeRouting.Proofs.HeaderOverrides
import EdgeRouting.Proofs.ForwardedParts
import EdgeRouting.Proofs.OriginRequest
import EdgeRouting.Proofs.RuleEdits
import EdgeRouting.Proofs.SelectedNames
import EdgeRouting.Proofs.PolicyFindings
import EdgeRouting.Proofs.GlobExpansion
import EdgeRouting.Proofs.GlobWidening
import EdgeRouting.Proofs.StoredGlobs
import EdgeRouting.Proofs.FilePaths
import EdgeRouting.Proofs.PatternSlices
