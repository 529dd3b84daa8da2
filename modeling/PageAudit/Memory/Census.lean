import PageAudit.Memory.FrameMap

/-!
# Census of the frames

How many frames each owner holds, free ones included, in the order of owners. Only owners that
hold a frame are listed.
-/
namespace PageAudit

/-- Owners with the number of their frames, by ascending `Owner.rank`.
mirrors src/counters.rs:6-7 -/
abbrev Census := List (Owner × Nat)

namespace Census

/-- Counts one more frame of an owner.
mirrors src/counters.rs:12 -/
def tally (o : Owner) : Census → Census
  | [] => [(o, 1)]
  | (p, n) :: r =>
    if o = p then (p, n + 1) :: r
    else if o.rank < p.rank then (o, 1) :: (p, n) :: r
    else (p, n) :: tally o r

/-- The census of the owners in a list.
mirrors src/counters.rs:9-15 -/
def ofOwners (os : List Owner) : Census := os.foldl (fun c o => tally o c) []

/-- The frames of an owner, zero if it is not listed.
mirrors src/counters.rs:17-21 -/
def count (c : Census) (o : Owner) : Nat := (c.lookup o).getD 0

end Census

/-- The census of a frame map.
mirrors src/counters.rs:9-15 -/
def FrameMap.census (m : FrameMap) : Census := Census.ofOwners m.owners

end PageAudit
