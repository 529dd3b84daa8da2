import PageAudit.Guarded.Checks

/-!
# The audit step by step

A log that fails is shown in rows whose length is computed from the width, and every row of a dump has
a label that is computed from its number. A log that passes is not shown, so its rows are not computed
step by step.
-/
namespace PageAudit.Guarded

/-! ## Rows -/

/-- A row of a dump under its number, with the index of its first page in front.
mirrors src/report.rs:30-33 -/
def labelled (w : Nat) (x : Text × Nat) : Except Lapse Text := do
  return pageLabel (← size (x.2 * w)) ++ x.1

/-- The rows of a dump line with `perPage` characters for a page. An empty line is one empty
row.
mirrors src/report.rs:23-35 -/
def dumpRows (w perPage : Nat) (l : Text) : Except Lapse (List Text) :=
  if l = [] then return [[]]
  else do (← pieces (← size (w * perPage)) l).zipIdx.mapM (labelled w)

/-- The rows of any other line.
mirrors src/report.rs:37-43,61 -/
def textRows (w : Nat) (l : Text) : Except Lapse (List Text) := do
  let width ← size (2 * w)
  if l.length ≤ width then return [l] else pieces width l

/-- The rows of the line of a number.
mirrors src/report.rs:52-62 -/
def lineRows (w : Nat) (x : Text × Nat) : Except Lapse (List Text) :=
  match LineKind.ofNumber x.2 with
  | .physical => dumpRows w 1 x.1
  | .virtual => dumpRows w 2 x.1
  | .text => textRows w x.1

/-- The rows of the lines of a log, line by line.
mirrors src/report.rs:47-65 -/
def rows (width : Nat) (ls : List Text) : Except Lapse (List Text) := do
  return (← ls.zipIdx.mapM (lineRows (max width 1))).flatten

/-! ## Audits -/

/-- The log of a run that comes to these warnings and carries out these checks. -/
def traceOf (stage : Stage) (ws : List CountWarning) (checks : List Inspection) : List Record :=
  ws.map (fun w => ⟨.warn, w.describe⟩) ++ Inspection.trace checks ++
    [match Inspection.firstViolation checks with
      | some v => ⟨.error, v.describe⟩
      | none => ⟨.info, stage.describe ++ " passed".toList⟩]

/-- The audit of a dump. The rows come last, and only after a fault or a violation.
mirrors src/grader.rs:160-189 -/
def auditDump (a : Auditor) (stage : Stage) (d : Dump) : Except Lapse Report := do
  let start : Record := ⟨.info, "grading ".toList ++ stage.describe⟩
  match ← decode d with
  | .error f =>
    return ⟨stage, .faulty f, ← rows a.width (← lines d), [start, Auditor.faultRecord f]⟩
  | .ok image =>
    let ws ← warnings image stage
    let checks ← schedule stage image
    let trace := start :: traceOf stage ws checks
    match Inspection.firstViolation checks with
    | some v => return ⟨stage, .graded ws (some v), ← rows a.width (← lines d), trace⟩
    | none => return ⟨stage, .graded ws none, d.rows a.width, trace⟩

/-- The audit of a log.
mirrors src/grader.rs:137-147 -/
def auditLog (a : Auditor) (stage : Stage) (log : Text) : Except Lapse Report := do
  match ← ofLines (Text.lines log) with
  | .error f => return ⟨stage, .faulty f, ← rows a.width (Text.lines log), [Auditor.faultRecord f]⟩
  | .ok d => auditDump a stage d

end PageAudit.Guarded
