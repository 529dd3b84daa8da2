import PageAudit.Audit.Violation
import PageAudit.Memory.FrameMap

/-!
# Use of the frames

Once virtual pages are allocated the frames below `progressEnd` are in use, and processes that
allocate all they can leave no frame free.
-/
namespace PageAudit.FrameMap

/-- The first free frame of a range, as a violation.
mirrors src/checks.rs:186-197,204-214 -/
def freeFrame (m : FrameMap) (check : Check) (stop : Nat) (rule : Nat → Rule) : Option Violation :=
  (m.firstFree 0 stop).map fun i => .atFrame check i .free (rule i)

/-- The first frame below the progress mark that is still free.
mirrors src/checks.rs:182-198 -/
def allocationProgress (m : FrameMap) : Option Violation :=
  m.freeFrame .allocationProgress progressEnd .progress

/-- The first frame that is still free.
mirrors src/checks.rs:200-215 -/
def exhaustion (m : FrameMap) : Option Violation :=
  m.freeFrame .exhaustion frameCount .exhaustion

end PageAudit.FrameMap
