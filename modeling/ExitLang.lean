import ExitLang.Main
import ExitLang.Proofs.Numerals
import ExitLang.Proofs.Words
import ExitLang.Proofs.GeneratedListing
import ExitLang.Proofs.Parsing
import ExitLang.Proofs.Scanning
import ExitLang.Proofs.Language
import ExitLang.Proofs.Meaning
import ExitLang.Proofs.Locations
import ExitLang.Proofs.Outputs
import ExitLang.Proofs.FileEffects
import ExitLang.Proofs.RunEffects
import ExitLang.Proofs.Acceptance
import ExitLang.Proofs.CheckedRuns
import ExitLang.Proofs.Layout
import ExitLang.Proofs.FileAccess
import ExitLang.Proofs.FirstFailure
import ExitLang.Proofs.Intermediates
import ExitLang.Proofs.Placement
import ExitLang.Proofs.Blame
import ExitLang.Proofs.DefaultOutputs
import ExitLang.Proofs.Immediates
import ExitLang.Proofs.Crashes
import ExitLang.Proofs.Spellings
import ExitLang.Proofs.BuildCalls
import ExitLang.Proofs.CleaningUp
import ExitLang.Proofs.Respelling
import ExitLang.Proofs.LineLayout
import ExitLang.Proofs.RenderedLines
import ExitLang.Proofs.Directories
import ExitLang.Proofs.ScannerCalls
import ExitLang.Proofs.CursorCalls
import ExitLang.Proofs.TargetNames
