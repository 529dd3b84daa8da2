import PageAudit.Dump.Rows
import PageAudit.Memory.Image
import PageAudit.Audit.Inspection
import PageAudit.Audit.Report

/-!
# The audit of a log

An audit decodes the dumps of a log, compares the page counts of every process, and carries
out the checks of the stage, in a fixed order, until one fails. The checks of a stage are
those of the stage before it and then its own.

* `schedule_prefix`: what a stage checks, every later stage checks first.
-/
namespace PageAudit

/-- The checks that a stage adds to those of the stage before it.
mirrors src/grader.rs:219-236 -/
def Stage.ownChecks (stage : Stage) (image : Image) : List Inspection :=
  match stage with
  | .one => image.spaces.map .kernelIsolation
  | .two => image.spaces.map fun s => .processIsolation s s.pid
  | .three => [.allocationProgress image.frames]
  | .four =>
    [.exhaustion image.frames, .overlap image.spaces] ++
      image.spaces.map fun s => .stackPlacement s s.pid

/-- The checks of a stage, in order.
mirrors src/grader.rs:219-236 -/
def Stage.schedule (stage : Stage) (image : Image) : List Inspection :=
  ([.one, .two, .three, .four].filter stage.reaches).flatMap (·.ownChecks image)

/-- The warnings about the page counts of the processes.
mirrors src/grader.rs:209-217 -/
def Image.warnings (image : Image) (stage : Stage) : List CountWarning :=
  image.spaces.filterMap fun s =>
    countWarning? image.frames.census (s.mappedCount s.pid) s.pid stage.tableFrames

/-- Audits logs and shows those that fail in rows of its width.
mirrors src/grader.rs:106-111 -/
structure Auditor where
  width : Width
  deriving DecidableEq, Repr

namespace Auditor

/-- The auditor that uses the default width.
mirrors src/grader.rs:113-122 -/
def default : Auditor := ⟨Width.default⟩

/-- The auditor with the width asked for; zero leaves the width as it is.
mirrors src/grader.rs:124-130 -/
def withWidth (a : Auditor) (n : Nat) : Auditor := ⟨a.width.orKeep n⟩

/-- What the log of a run says of a fault.
mirrors src/grader.rs:89 -/
def faultRecord (f : Fault) : Record := ⟨.error, f.message⟩

/-- The log of a run over the memory of a dump.
mirrors src/grader.rs:166-169,183,209-236 -/
def traceImage (stage : Stage) (image : Image) : List Record :=
  let checks := stage.schedule image
  (image.warnings stage).map (fun w => ⟨.warn, w.describe⟩) ++ Inspection.trace checks ++
    [match Inspection.firstViolation checks with
      | some v => ⟨.error, v.describe⟩
      | none => ⟨.info, stage.describe ++ " passed".toList⟩]

/-- The audit of a dump.
mirrors src/grader.rs:160-189 -/
def auditDump (a : Auditor) (stage : Stage) (d : Dump) : Report :=
  let start : Record := ⟨.info, "grading ".toList ++ stage.describe⟩
  match d.decode with
  | .error f => ⟨stage, .faulty f, d.rows a.width, [start, faultRecord f]⟩
  | .ok image =>
    ⟨stage, .graded (image.warnings stage) (Inspection.firstViolation (stage.schedule image)),
      d.rows a.width, start :: traceImage stage image⟩

/-- The audit of a log. If the dumps cannot be told apart the whole log is shown.
mirrors src/grader.rs:136-147 -/
def auditLog (a : Auditor) (stage : Stage) (log : Text) : Report :=
  match Dump.parse log with
  | .error f => ⟨stage, .faulty f, rows a.width (Text.lines log), [faultRecord f]⟩
  | .ok d => a.auditDump stage d

end Auditor

theorem Stage.schedule_prefix {s t : Stage} (h : t.reaches s = true) (image : Image) :
    s.schedule image <+: t.schedule image := by
  revert h
  cases s <;> cases t <;> simp [schedule, reaches, number]

end PageAudit
