import PageAudit.Audit.Violation

/-!
# Isolation

Two rules about each page of an address space. `kernelRule` protects the kernel: the console
page is the console's and accessible, nothing else in kernel memory is accessible, and no
unmapped page is. `processRule` protects the processes: a mapped page of user memory is the
process's own and accessible. A check reports the first page that breaks its rule.
-/
namespace PageAudit

/-- The rule of kernel isolation that a page breaks, if it breaks one.
mirrors src/checks.rs:137-149 -/
def kernelRule (page : Nat) (e : Entry) : Option Rule :=
  if page = consolePage then
    if e.owner = .console ∧ e.user then none else some .console
  else if page < kernelBoundary ∧ e.user then some .kernelMemory
  else if e.user ∧ !e.owner.isMapped then some .unmappedAccess
  else none

/-- The rule of process isolation that a page of user memory breaks, if it breaks one.
mirrors src/checks.rs:160-177 -/
def processRule (pid : UInt8) (e : Entry) : Option Rule :=
  if !e.owner.isMapped then none
  else if e.owner ≠ .process pid then some .foreignPage
  else if !e.user then some .ownPage
  else none

namespace AddressSpace

/-- The first page that breaks a rule of kernel isolation.
mirrors src/checks.rs:123-152 -/
def kernelIsolation (s : AddressSpace) : Option Violation :=
  s.pages.findSome? fun (e, i) => (kernelRule i e).map (.atPage .kernelIsolation s.pid i e)

/-- The first page of user memory that breaks a rule of isolation for the process.
mirrors src/checks.rs:154-180 -/
def processIsolation (s : AddressSpace) (pid : UInt8) : Option Violation :=
  s.userPages.findSome? fun (e, i) => (processRule pid e).map (.atPage .processIsolation pid i e)

end AddressSpace
end PageAudit
