import PageAudit.Audit.Auditor

/-!
# Sessions

A session keeps the width of the rows and the dump that was last taken in, and answers requests
one after the other. Only a width above zero changes the width, only a dump that can be read
replaces the dump.
-/
namespace PageAudit

/-- What a session keeps between requests. -/
structure Session where
  auditor : Auditor
  dump : Option Dump
  deriving DecidableEq, Repr

/-- What can be asked of a session. Stages are asked for by number. -/
inductive Request
  /-- Use rows of this width. -/
  | width (n : Nat)
  /-- Keep the dump of this log. -/
  | load (log : Text)
  /-- Keep this dump. -/
  | loadDump (d : Dump)
  /-- Audit the dump that is kept. -/
  | audit (stage : UInt8)
  /-- Show the dump that is kept. -/
  | view
  /-- Show the dump that is kept, in rows. -/
  | viewRows
  /-- Audit a log and keep nothing of it. -/
  | auditLog (stage : UInt8) (log : Text)
  /-- Audit a dump and keep nothing of it. -/
  | auditDump (stage : UInt8) (d : Dump)
  deriving DecidableEq, Repr

/-- What a session answers. -/
inductive Answer
  | done
  | refused (fault : Fault)
  | noDump
  | report (r : Report)
  | dump (d : Dump)
  | rows (ls : List Text)
  deriving DecidableEq, Repr

namespace Session

/-- A session before the first request. -/
def start : Session := ⟨Auditor.default, none⟩

/-- The answer that needs a stage; a number without a stage is refused.
mirrors src/grader.rs:47-55 -/
def withStage (n : UInt8) (answer : Stage → Answer) : Answer :=
  match Stage.ofNumber n with
  | .error f => .refused f
  | .ok stage => answer stage

/-- The answer that needs the dump that is kept. -/
def withDump (s : Session) (answer : Dump → Answer) : Answer :=
  match s.dump with
  | none => .noDump
  | some d => answer d

/-- The session after a request, and its answer.
mirrors src/grader.rs:119-189 and src/io.rs:38-93 -/
def step (s : Session) : Request → Session × Answer
  | .width n => ({ s with auditor := s.auditor.withWidth n }, .done)
  | .load log =>
    match Dump.parse log with
    | .error f => (s, .refused f)
    | .ok d => ({ s with dump := some d }, .done)
  | .loadDump d => ({ s with dump := some d }, .done)
  | .audit n => (s, withStage n fun g => s.withDump fun d => .report (s.auditor.auditDump g d))
  | .view => (s, s.withDump .dump)
  | .viewRows => (s, s.withDump fun d => .rows (d.rows s.auditor.width))
  | .auditLog n log => (s, withStage n fun g => .report (s.auditor.auditLog g log))
  | .auditDump n d => (s, withStage n fun g => .report (s.auditor.auditDump g d))

/-- The session after each of the requests, with the answers. -/
def run (s : Session) : List Request → List (Session × Answer)
  | [] => []
  | r :: rs => s.step r :: (s.step r).1.run rs

end Session
end PageAudit
