import PageAudit.Proofs.Audit.FirstBreach
import PageAudit.Proofs.Audit.LogLines

/-!
# How an audit ends

An audit ends in one of three ways: everything passes, a rule is violated, or there is no memory
to check. `Ending.Of` says when from the lines of the log, `Report.Laid` what the report then
consists of, word by word.

* `Report.Laid.ending_eq`: a report is laid out for one ending only;
* `Report.exists_above`: what a report that fails says above its rows;
* `ending_of_auditLog`: the verdict on a log is the ending that its lines call for;
* `rows_auditLog`: which lines of a log are shown;
* `auditLog_laid`: every report is laid out for the ending that its log calls for.
-/
namespace PageAudit

open Text

/-- How an audit ends. -/
inductive Ending
  | passed
  | violated (v : Violation)
  | faulty (f : Fault)
  deriving DecidableEq, Repr

/-- When the audit of a log with these lines ends so. -/
inductive Ending.Of (g : Stage) (ls : List Text) : Ending → Prop
  /-- The memory can be read and nothing in it fails. -/
  | passed {d : Dump} (read : Dump.ofLines ls = .ok d) (sized : d.WellSized)
      (clean : ∀ v, ¬ Failing g d v) : Of g ls .passed
  /-- The memory can be read and fails. -/
  | violated {d : Dump} {v : Violation} (read : Dump.ofLines ls = .ok d) (sized : d.WellSized)
      (failing : Failing g d v) : Of g ls (.violated v)
  /-- The dumps can be told apart, but one of them cannot be read. -/
  | undecoded {d : Dump} {f : Fault} (read : Dump.ofLines ls = .ok d)
      (fault : d.decode = .error f) : Of g ls (.faulty f)
  /-- The dumps cannot be told apart. -/
  | unread {f : Fault} (fault : Dump.ofLines ls = .error f) : Of g ls (.faulty f)

/-- The lines of a log that are shown when it fails: those of its dumps, or all of them if the
dumps cannot be told apart. -/
def shownLines (ls : List Text) : List Text :=
  match Dump.ofLines ls with
  | .ok _ => ls.take 11
  | .error _ => ls

theorem mem_of_mem_shownLines {ls : List Text} {l : Text} (h : l ∈ shownLines ls) : l ∈ ls := by
  unfold shownLines at h
  cases hd : Dump.ofLines ls with
  | error f =>
    rw [hd] at h
    exact h
  | ok d =>
    rw [hd] at h
    exact List.mem_of_mem_take h

theorem shownLines_eq_nil_iff {ls : List Text} : shownLines ls = [] ↔ ls = [] := by
  unfold shownLines
  cases Dump.ofLines ls <;> simp

/-! ## The report on an ending -/

/-- The parts of a report on a stage that ended so, where `shown` are the rows of the log. -/
inductive Report.Laid (g : Stage) (shown : List Text) (r : Report) : Ending → Prop
  | passed (success : r.verdict.passed = true) (noViolation : r.verdict.violation? = none)
      (noFault : r.verdict.fault? = none)
      (diagnostics : r.diagnostics =
        r.verdict.warnings.map (fun w => "warning: ".toList ++ w.describe) ++
          ["PASS: all ".toList ++ g.describe ++ " checks passed".toList]) :
      Laid g shown r .passed
  | violated {v : Violation} (failure : r.verdict.passed = false)
      (violation : r.verdict.violation? = some v) (noFault : r.verdict.fault? = none)
      (diagnostics : r.diagnostics =
        r.verdict.warnings.map (fun w => "warning: ".toList ++ w.describe) ++
          ["FAIL: ".toList ++ v.describe, "memory dump:".toList] ++ shown) :
      Laid g shown r (.violated v)
  | faulty {f : Fault} (failure : r.verdict.passed = false)
      (noViolation : r.verdict.violation? = none) (noWarnings : r.verdict.warnings = [])
      (fault : r.verdict.fault? = some f)
      (diagnostics : r.diagnostics =
        ["error: ".toList ++ f.message, "memory dump:".toList] ++ shown) :
      Laid g shown r (.faulty f)

/-- The ending that a verdict stands for. -/
def Verdict.ending : Verdict → Ending
  | faulty f => .faulty f
  | graded _ (some v) => .violated v
  | graded _ none => .passed

section
variable {v : Verdict}

theorem Verdict.ending_of_passed (h : v.passed = true) : v.ending = .passed := by
  cases v with
  | faulty f => cases h
  | graded ws o =>
    cases o with
    | none => rfl
    | some x => cases h

theorem Verdict.ending_of_violation {x : Violation} (h : v.violation? = some x) :
    v.ending = .violated x := by
  cases v with
  | faulty f => cases h
  | graded ws o =>
    cases h
    rfl

theorem Verdict.ending_of_fault {f : Fault} (h : v.fault? = some f) : v.ending = .faulty f := by
  cases v with
  | faulty f' =>
    cases h
    rfl
  | graded ws o => cases h

end

namespace Report

variable {r : Report} {e : Ending}

/-- What is set in a verdict tells the endings apart. -/
theorem Laid.ending_eq {g : Stage} {shown : List Text} (h : r.Laid g shown e) :
    r.verdict.ending = e := by
  cases h with
  | passed success => exact Verdict.ending_of_passed success
  | violated _ violation => exact Verdict.ending_of_violation violation
  | faulty _ _ _ fault => exact Verdict.ending_of_fault fault

theorem laid (r : Report) : r.Laid r.stage r.rows r.verdict.ending := by
  obtain ⟨g, verdict, shown, trace⟩ := r
  cases verdict with
  | faulty f =>
    apply Laid.faulty rfl rfl rfl rfl
    unfold diagnostics rowsHeader
    rfl
  | graded ws o =>
    cases o with
    | none => exact .passed rfl rfl rfl rfl
    | some v =>
      apply Laid.violated rfl rfl rfl
      unfold diagnostics rowsHeader
      dsimp only
      rw [List.append_assoc]
      rfl

/-- A report that passes shows no rows. -/
theorem diagnostics_of_passed (h : r.verdict.passed = true) (shown : List Text) :
    { r with rows := shown }.diagnostics = r.diagnostics := by
  obtain ⟨g, verdict, rows, trace⟩ := r
  cases verdict with
  | faulty f => cases h
  | graded ws o =>
    cases o with
    | none => rfl
    | some v => cases h

/-- Any other report ends with its rows, under the line that announces them. Nothing above this line
looks like it or depends on the rows. -/
theorem exists_above (h : r.verdict.passed = false) :
    ∃ above, rowsHeader ∉ above ∧
      ∀ shown, { r with rows := shown }.diagnostics = above ++ rowsHeader :: shown := by
  obtain ⟨g, verdict, rows, trace⟩ := r
  cases verdict with
  | faulty f =>
    refine ⟨["error: ".toList ++ f.message], ?_, fun shown => rfl⟩
    intro among
    cases congrArg List.head? (List.mem_singleton.mp among)
  | graded ws o =>
    cases o with
    | none => cases h
    | some v =>
      refine ⟨ws.map warningLine ++ ["FAIL: ".toList ++ v.describe], ?_, ?_⟩
      · intro among
        rcases List.mem_append.mp among with warning | failure
        · obtain ⟨w, -, line⟩ := List.mem_map.mp warning
          cases congrArg List.head? line
        · cases congrArg List.head? (List.mem_singleton.mp failure)
      · intro shown
        unfold diagnostics
        dsimp only
        rw [List.append_assoc]
        rfl

theorem exitStatus_eq (r : Report) :
    r.exitStatus = if r.verdict.ending = .passed then 0 else 1 := by
  obtain ⟨g, verdict, shown, trace⟩ := r
  cases verdict with
  | faulty f => rfl
  | graded ws o => cases o <;> rfl

end Report

/-! ## The report on a log -/

namespace Auditor

variable {a : Auditor} {g : Stage}

theorem stage_auditDump (d : Dump) : (a.auditDump g d).stage = g := by
  unfold auditDump
  cases d.decode <;> rfl

theorem rows_auditDump (d : Dump) : (a.auditDump g d).rows = d.rows a.width := by
  unfold auditDump
  cases d.decode <;> rfl

theorem stage_auditLog (log : Text) : (a.auditLog g log).stage = g := by
  unfold auditLog
  cases Dump.parse log with
  | error f => rfl
  | ok d => exact stage_auditDump d

section
variable {log : Text} {ls : List Text} (h : BreaksInto log ls)
include h

/-- A log that can be read is shown as far as it was read. -/
theorem rows_auditLog : (a.auditLog g log).rows = rows a.width (shownLines ls) := by
  unfold auditLog shownLines
  rw [Dump.parse_of_breaksInto h]
  cases hd : Dump.ofLines ls with
  | error f => rw [h.lines_eq]
  | ok d =>
    obtain ⟨wellFormed, rfl⟩ := Dump.ofLines_eq_ok_iff.mp hd
    -- the dump is printed again, which gives the lines that it was read from
    simp only [rows_auditDump, Dump.rows, Dump.lines_ofPlaces wellFormed]

theorem ending_of_auditLog : (a.auditLog g log).verdict.ending.Of g ls := by
  cases hd : Dump.ofLines ls with
  | error f =>
    have parsed : Dump.parse log = .error f := (Dump.parse_of_breaksInto h).trans hd
    simp only [auditLog, parsed]
    exact .unread hd
  | ok d =>
    rw [auditLog_of_parse ((Dump.parse_of_breaksInto h).trans hd)]
    cases hi : d.decode with
    | error f =>
      rw [verdict_of_fault hi]
      exact .undecoded hd hi
    | ok image =>
      have sized : d.WellSized := Dump.exists_decode_iff.mp ⟨image, hi⟩
      have first := firstViolation_finds hi g
      rw [verdict_of_decode hi]
      cases hv : Inspection.firstViolation (g.schedule image) with
      | none => exact .passed hd sized (first.eq_none_iff.mp hv)
      | some v => exact .violated hd sized (first.first v hv).1

end

/-- The audit of a log ends in one way, the one that its lines call for, and its report has the
parts that belong to this ending, with the lines that are shown in rows of the width of the
auditor. The exit status is 0 if everything passed and 1 otherwise. -/
theorem auditLog_laid (a : Auditor) (g : Stage) {log : Text} {ls : List Text}
    (h : BreaksInto log ls) :
    ∃ e : Ending, e.Of g ls ∧
      (a.auditLog g log).Laid g (rows a.width (shownLines ls)) e ∧
      (∀ e' shown, (a.auditLog g log).Laid g shown e' → e' = e) ∧
      (a.auditLog g log).exitStatus = if e = .passed then 0 else 1 := by
  refine ⟨_, ending_of_auditLog h, ?_, fun e' shown laid => laid.ending_eq.symm,
    Report.exitStatus_eq _⟩
  have laid := (a.auditLog g log).laid
  rwa [stage_auditLog, rows_auditLog h] at laid

/-- A log that breaks off is shown whole, under the reason why it could not be audited. -/
theorem auditLog_laid_on_panic :
    let ls := ["Starting WeensyOS".toList, "panic".toList]
    let f : Fault := .badHeader 1 "PHYSICAL MEMORY DUMP".toList "panic".toList
    let r := default.auditLog .one "Starting WeensyOS\r\npanic".toList
    BreaksInto "Starting WeensyOS\r\npanic".toList ls ∧ r.Laid .one ls (.faulty f) ∧
      r.exitStatus = 1 := by
  intro ls f r
  have broken : BreaksInto "Starting WeensyOS\r\npanic".toList ls := by
    have := breaksInto_lines "Starting WeensyOS\r\npanic".toList
    have split : Text.lines "Starting WeensyOS\r\npanic".toList = ls := by decide
    rwa [split] at this
  have fault : Dump.ofLines ls = .error f := by rfl
  have shown : rows default.width (shownLines ls) = ls := by decide
  obtain ⟨e, ending, laid, -, status⟩ := auditLog_laid default .one broken
  rw [shown] at laid
  cases ending with
  | unread fault' =>
    obtain rfl := Except.error.inj (fault.symm.trans fault')
    exact ⟨broken, laid, status⟩
  | passed read => cases fault.symm.trans read
  | violated read => cases fault.symm.trans read
  | undecoded read => cases fault.symm.trans read

end Auditor

end PageAudit
