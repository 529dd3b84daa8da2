import PageAudit.Audit.Violation

/-!
# Placement of the stack

A process has its stack at the end of its address space, so it holds the last page.
-/
namespace PageAudit.AddressSpace

/-- The last page, if it is not the process's.
mirrors src/checks.rs:246-261 -/
def stackPlacement (s : AddressSpace) (pid : UInt8) : Option Violation :=
  if s.lastEntry.owner = .process pid then none
  else some (.atPage .stackPlacement pid stackPage s.lastEntry .stack)

end PageAudit.AddressSpace
