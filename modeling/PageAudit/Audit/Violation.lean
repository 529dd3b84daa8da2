import PageAudit.Memory.AddressSpace

/-!
# Violations

A check looks for the first page that breaks a rule. What it finds is a `Violation`: the check,
the place as far as there is one, what was seen there, and the rule in words.

* `eq_general_iff`, `eq_atFrame_iff`, `eq_atPage_iff`: the parts of a violation of each kind.
-/
namespace PageAudit

/-- What is checked.
mirrors src/checks.rs:14-23 -/
inductive Check
  | countConsistency
  | kernelIsolation
  | processIsolation
  | allocationProgress
  | exhaustion
  | overlap
  | stackPlacement
  deriving DecidableEq, Repr

/-- The check as messages name it.
mirrors src/checks.rs:25-38 -/
def Check.title : Check → Text
  | countConsistency => "count consistency".toList
  | kernelIsolation => "kernel isolation".toList
  | processIsolation => "process isolation".toList
  | allocationProgress => "virtual page allocation".toList
  | exhaustion => "physical memory exhaustion".toList
  | overlap => "overlapping address spaces".toList
  | stackPlacement => "stack at top of address space".toList

/-- The rules that the checks enforce. -/
inductive Rule
  /-- The console page is the console's and accessible. -/
  | console
  /-- Kernel memory is not accessible. -/
  | kernelMemory
  /-- What is not mapped is not accessible. -/
  | unmappedAccess
  /-- User memory of a process is its own. -/
  | foreignPage
  /-- A process can access its own pages. -/
  | ownPage
  /-- The frames up to the progress mark are in use; this one is not. -/
  | progress (frame : Nat)
  /-- All frames are in use; this one is not. -/
  | exhaustion (frame : Nat)
  /-- Processes use the same virtual addresses. -/
  | overlap
  /-- The stack is at the end of the address space. -/
  | stack
  deriving DecidableEq, Repr

/-- The rule in words.
mirrors src/checks.rs:140,145,148,172,176,190-194,208-211,242,256 -/
def Rule.message : Rule → Text
  | console =>
    "the console page at 0xB8000 must map the console and be accessible to user processes".toList
  | kernelMemory =>
    "kernel memory below the kernel boundary must not be accessible to user processes".toList
  | unmappedAccess => "an unmapped page cannot be user-accessible".toList
  | foreignPage => "a process may only map its own pages above the kernel boundary".toList
  | ownPage => "a process's own pages must be user-accessible".toList
  | progress frame =>
    "virtual allocation should use physical frames 0x0 to 0x".toList ++
      Text.hex (progressEnd * pageBytes) ++ ", yet frame ".toList ++ Text.decimal frame ++
      " is still free".toList
  | exhaustion frame =>
    "processes allocate until memory runs out, but frame ".toList ++ Text.decimal frame ++
      " is still free".toList
  | overlap =>
    ("process address spaces did not overlap; every process should use the same virtual " ++
      "addresses").toList
  | stack => "the stack must occupy the last page of the virtual address space".toList

/-- A broken rule and where it was found.
mirrors src/checks.rs:40-50 -/
structure Violation where
  check : Check
  /-- The process whose memory was checked, if it was that of one process. -/
  pid : Option UInt8
  /-- The page or frame, if there is one. -/
  index : Option Nat
  /-- The owner seen there. -/
  owner : Option Owner
  /-- Whether user code can access it, for a virtual page. -/
  user : Option Bool
  /-- The rule in words. -/
  message : Text
  deriving DecidableEq, Repr

namespace Violation

/-- A rule broken by no page in particular.
mirrors src/checks.rs:53-62 -/
def general (check : Check) (rule : Rule) : Violation :=
  ⟨check, none, none, none, none, rule.message⟩

/-- A rule broken by a frame.
mirrors src/checks.rs:53-62,69-73 -/
def atFrame (check : Check) (frame : Nat) (owner : Owner) (rule : Rule) : Violation :=
  ⟨check, none, some frame, some owner, none, rule.message⟩

/-- A rule broken by a page of a process.
mirrors src/checks.rs:53-78 -/
def atPage (check : Check) (pid : UInt8) (page : Nat) (e : Entry) (rule : Rule) : Violation :=
  ⟨check, some pid, some page, some e.owner, some e.user, rule.message⟩

/-- The violation in words: the check, then as much of the place as there is, then the rule.
mirrors src/checks.rs:81-98 -/
def describe (v : Violation) : Text :=
  let pid := v.pid.elim [] fun p => " for process ".toList ++ Text.decimal p.toNat
  let index := v.index.elim [] fun i =>
    " at page ".toList ++ Text.decimal i ++ " (0x".toList ++ Text.hex3 i ++ ")".toList
  let owner := v.owner.elim [] fun o => ", owner ".toList ++ o.describe
  let user := v.user.elim [] fun u =>
    ", user-accessible: ".toList ++ (if u then "true" else "false").toList
  v.check.title ++ " failed".toList ++ pid ++ index ++ owner ++ user ++ ": ".toList ++ v.message

theorem eq_general_iff {v : Violation} {check : Check} {rule : Rule} :
    v = general check rule ↔ v.check = check ∧ v.pid = none ∧ v.index = none ∧ v.owner = none ∧
      v.user = none ∧ v.message = rule.message := by
  cases v
  simp [general]

theorem eq_atFrame_iff {v : Violation} {check : Check} {frame : Nat} {owner : Owner} {rule : Rule} :
    v = atFrame check frame owner rule ↔ v.check = check ∧ v.pid = none ∧ v.index = some frame ∧
      v.owner = some owner ∧ v.user = none ∧ v.message = rule.message := by
  cases v
  simp [atFrame]

theorem eq_atPage_iff {v : Violation} {check : Check} {pid : UInt8} {page : Nat} {e : Entry}
    {rule : Rule} :
    v = atPage check pid page e rule ↔ v.check = check ∧ v.pid = some pid ∧ v.index = some page ∧
      v.owner = some e.owner ∧ v.user = some e.user ∧ v.message = rule.message := by
  cases v
  simp [atPage]

end Violation
end PageAudit
