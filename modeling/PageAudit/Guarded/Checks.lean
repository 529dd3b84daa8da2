import PageAudit.Audit.Auditor
import PageAudit.Guarded.Dumps

/-!
# Checks step by step

The frames and pages of a process are counted one by one. A frame that is found free is looked up again
for its owner. An address space is compared with those behind its place, and the last page is looked up
by number.

All checks of a stage are carried out here, those behind the first violation too.
-/
namespace PageAudit.Guarded

/-! ## Counts -/

/-- Counts one more frame of an owner.
mirrors src/counters.rs:12 -/
def tally (o : Owner) : Census → Except Lapse Census
  | [] => .ok [(o, 1)]
  | (p, n) :: r =>
    if o = p then do return (p, ← size (n + 1)) :: r
    else if o.rank < p.rank then .ok ((o, 1) :: (p, n) :: r)
    else do return (p, n) :: (← tally o r)

/-- The census of the owners in a list, added to another.
mirrors src/counters.rs:9-15 -/
def tallyAll (c : Census) (os : List Owner) : Except Lapse Census :=
  os.foldlM (fun c o => tally o c) c

/-- Whether the counts of a process fit together; if not, the warning about them.
mirrors src/checks.rs:264-276 -/
def countWarning? (census : Census) (stage : Stage) (s : AddressSpace) :
    Except Lapse (Option CountWarning) := do
  let expected ← size (s.mappedCount s.pid + stage.tableFrames)
  return if census.count (.process s.pid) = expected then none
    else some ⟨s.pid, census.count (.process s.pid), s.mappedCount s.pid, stage.tableFrames⟩

/-- The warnings about the page counts of the processes.
mirrors src/grader.rs:209-217 -/
def warnings (image : Image) (stage : Stage) : Except Lapse (List CountWarning) := do
  let census ← tallyAll [] image.frames.owners
  return (← image.spaces.mapM (countWarning? census stage)).filterMap id

/-! ## Frames -/

/-- Whether the frame of this number is free. -/
def isFreeAt (m : FrameMap) (i : Nat) : Except Lapse Bool := do
  return (← item m.owners i).isFree

/-- The lowest free frame from `start` on and below `stop`.
mirrors src/memory.rs:152-155 -/
def firstFree (m : FrameMap) (start stop : Nat) : Except Lapse (Option Nat) :=
  (List.range' start (min stop m.owners.length - start)).findM? (isFreeAt m)

/-- The first free frame of a range, as a violation with the owner that the frame is looked up to
have.
mirrors src/checks.rs:186-197,204-214 -/
def freeFrame (m : FrameMap) (check : Check) (stop : Nat) (rule : Nat → Rule) :
    Except Lapse (Option Violation) := do
  match ← firstFree m 0 stop with
  | none => return none
  | some i => return some (.atFrame check i (← item m.owners i) (rule i))

/-! ## Address spaces -/

/-- What is found among the pairs of an address space with those behind its place.
mirrors src/checks.rs:223-238 -/
def overlapBehind (ss : List AddressSpace) (x : AddressSpace × Nat) :
    Except Lapse (Option OverlapSite) := do
  return x.1.overlapWith (← itemsFrom ss (← size (x.2 + 1)))

/-- The first overlap of the address spaces.
mirrors src/checks.rs:222-239 -/
def firstOverlap (ss : List AddressSpace) : Except Lapse (Option OverlapSite) :=
  ss.zipIdx.findSomeM? (overlapBehind ss)

/-- The last page, if it is not the process's.
mirrors src/checks.rs:250-260 -/
def stackPlacement (s : AddressSpace) (pid : UInt8) : Except Lapse (Option Violation) := do
  let e ← item s.entries stackPage
  return if e.owner = .process pid then none
    else some (.atPage .stackPlacement pid stackPage e .stack)

/-! ## Schedules -/

/-- The placement of the stack of a process in its own address space. -/
def stackInspection (s : AddressSpace) : Except Lapse Inspection := do
  return { Inspection.stackPlacement s s.pid with violation := ← stackPlacement s s.pid }

/-- The checks that a stage adds to those of the stage before it, with what they find.
mirrors src/grader.rs:219-235 -/
def ownChecks (image : Image) : Stage → Except Lapse (List Inspection)
  | .one => return image.spaces.map .kernelIsolation
  | .two => return image.spaces.map fun s => .processIsolation s s.pid
  | .three => do
    let free ← freeFrame image.frames .allocationProgress progressEnd .progress
    return [{ Inspection.allocationProgress image.frames with violation := free }]
  | .four => do
    let free ← freeFrame image.frames .exhaustion frameCount .exhaustion
    let site ← firstOverlap image.spaces
    return [{ Inspection.exhaustion image.frames with violation := free },
        { Inspection.overlap image.spaces with violation := AddressSpace.missingOverlap site }] ++
      (← image.spaces.mapM stackInspection)

/-- The checks of a stage, in order. -/
def schedule (stage : Stage) (image : Image) : Except Lapse (List Inspection) := do
  return (← ([Stage.one, .two, .three, .four].filter stage.reaches).mapM (ownChecks image)).flatten

end PageAudit.Guarded
