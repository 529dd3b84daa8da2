import PageAudit.Trace
import PageAudit.Audit.Isolation
import PageAudit.Audit.FrameUse
import PageAudit.Audit.Overlap
import PageAudit.Audit.StackPlacement

/-!
# Inspections

A check as it is carried out: it is announced in the log, may remark on what it finds, and
comes to a verdict. A series of inspections ends with the first one that finds a violation.
-/
namespace PageAudit

/-- A check that was carried out. -/
structure Inspection where
  announcement : Text
  remark : Option Text
  violation : Option Violation
  deriving DecidableEq, Repr

namespace Inspection

/-! ## The checks -/

/-- Kernel isolation in an address space.
mirrors src/checks.rs:125-152 -/
def kernelIsolation (s : AddressSpace) : Inspection where
  announcement := "checking kernel isolation for process ".toList ++ Text.decimal s.pid.toNat
  remark := none
  violation := s.kernelIsolation

/-- Isolation of a process in an address space.
mirrors src/checks.rs:156-180 -/
def processIsolation (s : AddressSpace) (pid : UInt8) : Inspection where
  announcement := "checking process isolation for process ".toList ++ Text.decimal pid.toNat
  remark := none
  violation := s.processIsolation pid

/-- Use of the frames up to the progress mark.
mirrors src/checks.rs:183-198 -/
def allocationProgress (m : FrameMap) : Inspection where
  announcement :=
    "checking that frames 0..".toList ++ Text.decimal progressEnd ++ " are allocated".toList
  remark := none
  violation := m.allocationProgress

/-- Use of all frames.
mirrors src/checks.rs:201-215 -/
def exhaustion (m : FrameMap) : Inspection where
  announcement := "checking that physical memory is exhausted".toList
  remark := none
  violation := m.exhaustion

/-- Overlap of the address spaces; where one is found it is remarked.
mirrors src/checks.rs:219-244 -/
def overlap (ss : List AddressSpace) : Inspection :=
  let site := AddressSpace.firstOverlap ss
  { announcement := "checking for overlapping address spaces".toList
    remark := site.map fun o =>
      "processes ".toList ++ Text.decimal o.first.toNat ++ " and ".toList ++
        Text.decimal o.second.toNat ++ " overlap at virtual page ".toList ++ Text.decimal o.page
    violation := AddressSpace.missingOverlap site }

/-- Placement of the stack of a process.
mirrors src/checks.rs:247-261 -/
def stackPlacement (s : AddressSpace) (pid : UInt8) : Inspection where
  announcement := "checking stack placement for process ".toList ++ Text.decimal pid.toNat
  remark := none
  violation := s.stackPlacement pid

/-! ## A series of them -/

/-- What an inspection adds to the log. -/
def records (i : Inspection) : List Record :=
  ⟨.debug, i.announcement⟩ :: i.remark.toList.map fun t => ⟨.debug, t⟩

/-- The first violation found in a series.
mirrors src/grader.rs:219-237 -/
def firstViolation (is : List Inspection) : Option Violation := is.findSome? (·.violation)

/-- What a series adds to the log, up to the inspection that finds a violation. -/
def trace : List Inspection → List Record
  | [] => []
  | i :: is => i.records ++ if i.violation.isSome then [] else trace is

end Inspection
end PageAudit
