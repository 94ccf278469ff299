import HiddenImports.Disk.FileTree
import HiddenImports.Main
import HiddenImports.Session
import HiddenImports.Proofs.Occurrence
import HiddenImports.Proofs.Outcome
import HiddenImports.Proofs.Run
import HiddenImports.Proofs.Acceptance
import HiddenImports.Proofs.LiteralRun
import HiddenImports.Proofs.Cuts
import HiddenImports.Proofs.Compile
import HiddenImports.Proofs.Layers
import HiddenImports.Proofs.Answers
import HiddenImports.Proofs.Loading
import HiddenImports.Proofs.Resolution
import HiddenImports.Proofs.Emission
import HiddenImports.Proofs.History
import HiddenImports.Proofs.EscapedText
import HiddenImports.Proofs.VersionText
import HiddenImports.Proofs.WrittenValue
import HiddenImports.Proofs.BufferedValue
import HiddenImports.Proofs.WrittenTable
import HiddenImports.Proofs.Defects
import HiddenImports.Proofs.Restoring
import HiddenImports.Proofs.Validity
import HiddenImports.Proofs.Cascade
import HiddenImports.Proofs.Grouping
import HiddenImports.Proofs.Isolation
import HiddenImports.Proofs.FirstFlaw
import HiddenImports.Proofs.ExitCode
import HiddenImports.Proofs.VersionGrammar
import HiddenImports.Proofs.Ellipsis
import HiddenImports.Proofs.Rerouting
import HiddenImports.Proofs.Doubled
import HiddenImports.Proofs.Taking
import HiddenImports.Proofs.ByteSplits
import HiddenImports.Proofs.NameGrammar
import HiddenImports.Proofs.Surroundings
import HiddenImports.Proofs.Holdings
import HiddenImports.Proofs.InsertedFile
