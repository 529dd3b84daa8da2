import PageAudit.Audit.Auditor
import PageAudit.Proofs.Dump.Printing

/-!
# What an audit sees of a log

The text of a log counts only through its lines, for the dump that is read from it as well as
for the rows that are shown when none can be read. So the report on a log does not tell how its
lines were ended, and the report on a log that was written from a dump is the report on the
dump.

* `auditLog_congr`: logs with the same lines have the same report;
* `printed_dump_audited_alike`: a dump and the log that shows it;
* `auditLog_lineEnds`: logs that differ in their line ends.
-/
namespace PageAudit.Auditor

open Text

variable {a : Auditor} {g : Stage}

theorem auditLog_congr {log log' : Text} (h : lines log = lines log') :
    a.auditLog g log = a.auditLog g log' := by
  have parsed : Dump.parse log = Dump.parse log' := congrArg Dump.ofLines h
  unfold auditLog
  rw [parsed, h]

theorem auditLog_of_parse {log : Text} {d : Dump} (h : Dump.parse log = .ok d) :
    a.auditLog g log = a.auditDump g d := by
  unfold auditLog
  rw [h]

/-! ## Dumps and the logs that show them -/

/-- Writing a dump as a log and reading a log as a dump are inverse. The lines of a dump are read
as that dump, whatever follows them, exactly if its data fit on lines, and the report on them is
then the report on the dump itself, whatever the stage and the width. Of a log that is read as a
dump, the first eleven lines are the lines of the dump. -/
theorem printed_dump_audited_alike :
    (∀ (d : Dump) (rest : Text), Dump.parse (unlines d.lines ++ rest) = .ok d ↔ d.Printable) ∧
    (∀ (a : Auditor) (g : Stage) (d : Dump) (rest : Text), d.Printable →
      a.auditLog g (unlines d.lines ++ rest) = a.auditDump g d) ∧
    ∀ (log : Text) (ls : List Text) (d : Dump), BreaksInto log ls → Dump.parse log = .ok d →
      d.lines = ls.take 11 := by
  refine ⟨fun d rest => Dump.parse_unlines_lines_iff, ?_, ?_⟩
  · intro a g d rest h
    exact auditLog_of_parse (Dump.parse_unlines_lines_iff.mpr h)
  · intro log ls d hls h
    rw [← hls.lines_eq]
    exact (Dump.take_lines_of_parse h).symm

/-- A dump with an empty line, a carriage return inside a line, and data that look like a header
comes back from its log, is audited there like by itself, and has its lines at the beginning of a
log in which they are ended in another way. -/
theorem printed_dump_audited_alike_on_odd_data :
    let d : Dump := ⟨"K\rK".toList, #v[[], "VIRTUAL MEMORY FOR PROCESS 2".toList, [], "\r.".toList]⟩
    let log := unlinesWith (fun _ => .returnFeed) (d.lines ++ ["bye".toList])
    d.Printable ∧ Dump.parse (unlines d.lines ++ "bye".toList) = .ok d ∧
    default.auditLog .four (unlines d.lines ++ "bye".toList) = default.auditDump .four d ∧
    BreaksInto log (d.lines ++ ["bye".toList]) ∧ Dump.parse log = .ok d ∧
    d.lines = (d.lines ++ ["bye".toList]).take 11 := by
  intro d log
  have printable : d.Printable := Dump.printable_iff.mpr (by decide)
  have broken : BreaksInto log (d.lines ++ ["bye".toList]) :=
    breaksInto_unlinesWith (by decide) _
  have parsed : Dump.parse log = .ok d := by
    rw [Dump.parse_of_breaksInto broken]
    exact Dump.ofLines_lines_append d _
  obtain ⟨back, alike, first⟩ := printed_dump_audited_alike
  exact ⟨printable, (back d _).mpr printable, alike default .four d _ printable, broken, parsed,
    first log _ d broken parsed⟩

/-! ## Line ends -/

/-- The report on a log is the same however each of its lines is ended, whether the log can be
read or not. -/
theorem auditLog_lineEnds (a : Auditor) (g : Stage) {ls : List Text} (h : ∀ l ∈ ls, FitsLine l)
    (ends ends' : Nat → LineEnd) :
    a.auditLog g (unlinesWith ends ls) = a.auditLog g (unlinesWith ends' ls) := by
  apply auditLog_congr
  rw [(breaksInto_unlinesWith h ends).lines_eq, (breaksInto_unlinesWith h ends').lines_eq]

/-- A log with a wrong second line gets one report, which names that line without its end. -/
theorem auditLog_lineEnds_on_broken_log :
    let ls := ["Starting WeensyOS".toList, "panic".toList, []]
    (∀ l ∈ ls, FitsLine l) ∧
    default.auditLog .one "Starting WeensyOS\r\npanic\n\r\n".toList =
      default.auditLog .one "Starting WeensyOS\npanic\r\n\n".toList ∧
    (default.auditLog .one "Starting WeensyOS\r\npanic\n\r\n".toList).verdict.fault? =
      some (.badHeader 1 "PHYSICAL MEMORY DUMP".toList "panic".toList) := by
  intro ls
  have fits : ∀ l ∈ ls, FitsLine l := by decide
  refine ⟨fits, ?_, by decide⟩
  exact auditLog_lineEnds default .one fits (fun n => if n = 1 then .feed else .returnFeed)
    fun n => if n = 1 then .returnFeed else .feed

end PageAudit.Auditor
