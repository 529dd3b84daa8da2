import PageAudit.Main
import PageAudit.Audit.Session
import PageAudit.Dump.LogFile
import PageAudit.Proofs.Steps
import PageAudit.Proofs.Text.LineBreaks
import PageAudit.Proofs.Text.LineEnds
import PageAudit.Proofs.Text.Numerals
import PageAudit.Proofs.Text.WrittenNumbers
import PageAudit.Proofs.Dump.Parsing
import PageAudit.Proofs.Dump.Printing
import PageAudit.Proofs.Dump.Blocks
import PageAudit.Proofs.Dump.Runs
import PageAudit.Proofs.Memory.Decoding
import PageAudit.Proofs.Memory.Encoding
import PageAudit.Proofs.Memory.Census
import PageAudit.Proofs.Memory.Renaming
import PageAudit.Proofs.Memory.FrameRanges
import PageAudit.Proofs.Audit.Search
import PageAudit.Proofs.Audit.FirstBreach
import PageAudit.Proofs.Audit.Acceptance
import PageAudit.Proofs.Audit.Stages
import PageAudit.Proofs.Audit.LogLines
import PageAudit.Proofs.Audit.SameMemory
import PageAudit.Proofs.Audit.Reach
import PageAudit.Proofs.Audit.Redundancy
import PageAudit.Proofs.Audit.FirstOverlap
import PageAudit.Proofs.Audit.PageCounts
import PageAudit.Proofs.Audit.UserMemory
import PageAudit.Proofs.Audit.Symmetry
import PageAudit.Proofs.Audit.Faults
import PageAudit.Proofs.Audit.Sessions
import PageAudit.Proofs.Audit.Endings
import PageAudit.Proofs.Audit.FreeFrames
import PageAudit.Proofs.Audit.Widths
import PageAudit.Proofs.Audit.Evidence
import PageAudit.Proofs.Audit.RunLog
import PageAudit.Proofs.Audit.OneLine
import PageAudit.Proofs.Settings.OneVariable
import PageAudit.Proofs.Command.Readers
import PageAudit.Proofs.Command.Outcome
import PageAudit.Proofs.Command.RowWidth
import PageAudit.Proofs.Guarded.Operations
import PageAudit.Proofs.Guarded.Dumps
import PageAudit.Proofs.Guarded.Checks
import PageAudit.Proofs.Guarded.Audit
