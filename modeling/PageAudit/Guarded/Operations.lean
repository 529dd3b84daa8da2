import PageAudit.Dump.Rows
import PageAudit.Settings.Environment

/-!
# Operations that have a result for some arguments only

A list has an item at some places, can be cut from some places on and into pieces of any length but
zero; sizes are below `Environment.sizeLimit`, bytes below 256. Here each of these operations is a step
that ends in a `Lapse` where there is no result, so a computation that ends without one has kept to the
arguments that have. The audit in these steps is the one that a run carries out: where it lapses, the
run is aborted. Sizes are checked as in a build that checks its arithmetic.
-/
namespace PageAudit.Guarded

/-- Why an operation has no result. -/
inductive Lapse
  /-- The list has no such place. -/
  | place
  /-- Pieces of a list hold an item at least. -/
  | emptyPiece
  /-- The number is not below the limit, or would be below zero. -/
  | range
  /-- The value of a variable holds no zero character. -/
  | zeroCharacter
  deriving DecidableEq, Repr

section
variable {α : Type}

/-! ## Lists -/

/-- The item at a place. -/
def item (l : List α) (i : Nat) : Except Lapse α :=
  match l[i]? with
  | some a => .ok a
  | none => .error .place

/-- The items from a place on. The place after the last item is one. -/
def itemsFrom (l : List α) (i : Nat) : Except Lapse (List α) :=
  if i ≤ l.length then .ok (l.drop i) else .error .place

/-- The list in pieces of `n`, the last one possibly shorter. -/
def pieces (n : Nat) (l : List α) : Except Lapse (List (List α)) :=
  if pos : 0 < n then .ok (chunks n pos l) else .error .emptyPiece

end

/-! ## Numbers -/

/-- A number as a size. -/
def size (n : Nat) : Except Lapse Nat :=
  if n < Environment.sizeLimit then .ok n else .error .range

/-- A number as a byte. -/
def byte (n : Nat) : Except Lapse UInt8 :=
  if n < 256 then .ok (UInt8.ofNat n) else .error .range

/-- The difference of two numbers, if it is not below zero. -/
def difference (m n : Nat) : Except Lapse Nat :=
  if n ≤ m then .ok (m - n) else .error .range

end PageAudit.Guarded
