import Bugs.Grammar
import Bugs.Main
import Bugs.Proofs.Backtracking
import Bugs.Proofs.Brackets.Matched
import Bugs.Proofs.CommandLine.Failure
import Bugs.Proofs.CommandLine.Verdict
import Bugs.Proofs.Commitment
import Bugs.Proofs.Excerpt
import Bugs.Proofs.ExtraColors
import Bugs.Proofs.FirstError
import Bugs.Proofs.JoinedLines
import Bugs.Proofs.LineBreakForms
import Bugs.Proofs.LineCounter
import Bugs.Proofs.Listing
import Bugs.Proofs.LongestMatch
import Bugs.Proofs.Lookahead
import Bugs.Proofs.NoConsumption
import Bugs.Proofs.Observation
import Bugs.Proofs.Progress
import Bugs.Proofs.RestoredSign
import Bugs.Proofs.RoundTrip
import Bugs.Proofs.Settings.Precedence
import Bugs.Proofs.SourceAccount
import Bugs.Proofs.Spelling
import Bugs.Proofs.Trace.Account
import Bugs.Proofs.Trace.Threshold
import Bugs.Proofs.TrackedPlace
import Bugs.Session
