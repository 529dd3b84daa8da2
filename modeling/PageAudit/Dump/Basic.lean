import PageAudit.Dump.Fault
import PageAudit.Text.Lines

/-!
# Memory dumps

A log starts with a banner, the physical dump under its header, and the virtual dump of each
process under a header of its own; what follows is of no interest. `Dump.parse` takes the
dumps out of a log and insists on the headers, `Dump.lines` writes a dump as the lines of a
log.

* `ofLines_lines_append`: the lines of a dump, whatever follows them, are read as that dump.
-/
namespace PageAudit

/-- The dumps of a log as they were printed.
mirrors src/io.rs:9-14 -/
structure Dump where
  physical : Text
  /-- One text for each of `processIds`, in that order. -/
  virtuals : Vector Text 4
  deriving DecidableEq, Repr

/-- The line before the virtual dump of a process.
mirrors src/io.rs:16-18 -/
def virtualHeader (pid : UInt8) : Text := virtualHeaderStem ++ Text.decimal pid.toNat

namespace Dump

/-- The lines of a log that show the dump.
mirrors src/io.rs:81-93 -/
def lines (d : Dump) : List Text :=
  [bannerHeader, physicalHeader, d.physical] ++
    (processIds.zip d.virtuals.toList).flatMap fun (pid, raw) => [virtualHeader pid, raw]

/-- The next line, which has number `n`, and the lines after it.
mirrors src/io.rs:44-47 -/
def takeLine (n : Nat) : List Text → Except Fault (Text × List Text)
  | [] => .error (.missingLine n n)
  | l :: ls => .ok (l, ls)

/-- The lines after the next line, which has number `n` and must be the given header.
mirrors src/io.rs:48-56 -/
def takeHeader (n : Nat) (header : Text) (ls : List Text) : Except Fault (List Text) := do
  let (l, ls) ← takeLine n ls
  if l = header then return ls else throw (.badHeader n header l)

/-- The virtual dump of a process, which starts at line `n`, and the lines after it.
mirrors src/io.rs:25,44-61 -/
def takeVirtual (n : Nat) (pid : UInt8) (ls : List Text) : Except Fault (Text × List Text) := do
  let ls ← takeHeader n (virtualHeader pid) ls
  takeLine (n + 1) ls

/-- The dump that the lines of a log show. The first line that is missing or that is not the
header expected there is the fault.
mirrors src/io.rs:43-62 -/
def ofLines (ls : List Text) : Except Fault Dump := do
  let ls ← takeHeader 0 bannerHeader ls
  let ls ← takeHeader 1 physicalHeader ls
  let (physical, ls) ← takeLine 2 ls
  let (one, ls) ← takeVirtual 3 1 ls
  let (two, ls) ← takeVirtual 5 2 ls
  let (three, ls) ← takeVirtual 7 3 ls
  let (four, _) ← takeVirtual 9 4 ls
  return ⟨physical, #v[one, two, three, four]⟩

/-- The dump that a log shows.
mirrors src/io.rs:38-63 -/
def parse (log : Text) : Except Fault Dump := ofLines (Text.lines log)

theorem lines_mk (p a b c d : Text) :
    lines ⟨p, #v[a, b, c, d]⟩ =
      [bannerHeader, physicalHeader, p, virtualHeader 1, a, virtualHeader 2, b,
        virtualHeader 3, c, virtualHeader 4, d] := rfl

theorem exists_mk (d : Dump) : ∃ p a b c e : Text, d = ⟨p, #v[a, b, c, e]⟩ := by
  obtain ⟨p, ⟨⟨vs⟩, h⟩⟩ := d
  match vs, h with
  | [a, b, c, e], _ => exact ⟨p, a, b, c, e, rfl⟩

theorem ofLines_lines_append (d : Dump) (ls : List Text) : ofLines (d.lines ++ ls) = .ok d := by
  obtain ⟨p, a, b, c, e, rfl⟩ := exists_mk d
  rw [lines_mk]
  rfl

theorem length_lines (d : Dump) : d.lines.length = logLength := by
  obtain ⟨p, a, b, c, e, rfl⟩ := exists_mk d
  rfl

end Dump
end PageAudit
