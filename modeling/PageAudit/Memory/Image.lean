import PageAudit.Dump.Basic
import PageAudit.Memory.FrameMap
import PageAudit.Memory.AddressSpace

/-!
# The memory that a dump shows

A dump is decoded as a whole: first the frames, then the address spaces of the processes in
order. The first part of a wrong length is the fault.
-/
namespace PageAudit

/-- The physical memory and the address spaces of the processes, in their order. -/
structure Image where
  frames : FrameMap
  spaces : List AddressSpace
  deriving DecidableEq, Repr

/-- The memory that a dump shows.
mirrors src/grader.rs:192-201 -/
def Dump.decode (d : Dump) : Except Fault Image := do
  let frames ← FrameMap.decode d.physical
  let spaces ← (processIds.zip d.virtuals.toList).mapM fun (pid, raw) => AddressSpace.decode pid raw
  return ⟨frames, spaces⟩

end PageAudit
