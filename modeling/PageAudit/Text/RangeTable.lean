import PageAudit.Text.Basic

/-!
# Tables of character ranges

A property of characters is given by the ranges of code points that have it, in ascending order.
The ranges stand in a balanced search tree, so that a look-up takes few steps.
-/
namespace PageAudit.Text

/-- Ranges of code points, first and last of each included. -/
inductive RangeTable
  | empty
  | node (below : RangeTable) (first last : Nat) (above : RangeTable)

namespace RangeTable

/-- The table of at most `size` ranges; the one in the middle is the root. -/
def build (size : Nat) (ranges : List (Nat × Nat)) : RangeTable :=
  match size with
  | 0 => empty
  | size + 1 =>
    match ranges.drop (ranges.length / 2) with
    | [] => empty
    | (first, last) :: above =>
      node (build size (ranges.take (ranges.length / 2))) first last (build size above)

/-- The table of the ranges. -/
def ofList (ranges : List (Nat × Nat)) : RangeTable := build ranges.length ranges

/-- Whether a code point lies in one of the ranges. -/
def coversPoint (n : Nat) : RangeTable → Bool
  | empty => false
  | node below first last above =>
    if n < first then below.coversPoint n else n ≤ last || above.coversPoint n

/-- Whether a character lies in one of the ranges. -/
def covers (table : RangeTable) (c : Char) : Bool := table.coversPoint c.toNat

end RangeTable
end PageAudit.Text
