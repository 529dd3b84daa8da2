import PageAudit.Audit.Violation

/-!
# Overlapping address spaces

Two address spaces overlap where both map the same virtual page, to pages of different owners.
One overlap among all pairs is enough.

* `firstConflict_eq`: a conflict is looked for from the first page on.
-/
namespace PageAudit

/-- Whether two pages of the same address are mapped to different owners.
mirrors src/checks.rs:228 -/
def Entry.conflicts (a b : Entry) : Bool :=
  a.owner.isMapped && b.owner.isMapped && a.owner ≠ b.owner

/-- Where two address spaces overlap.
mirrors src/checks.rs:230-235 -/
structure OverlapSite where
  first : UInt8
  second : UInt8
  page : Nat
  deriving DecidableEq, Repr

namespace AddressSpace

/-- The first conflict of two rows of pages, which start at the page given. -/
def firstConflictFrom (page : Nat) : List Entry → List Entry → Option Nat
  | a :: as, b :: bs => if a.conflicts b then some page else firstConflictFrom (page + 1) as bs
  | _, _ => none

/-- The first page at which two address spaces overlap.
mirrors src/checks.rs:224-228 -/
def firstConflict (a b : AddressSpace) : Option Nat := firstConflictFrom 0 a.entries b.entries

/-- What is found among the pairs of an address space with others.
mirrors src/checks.rs:223-238 -/
def overlapWith (a : AddressSpace) (ss : List AddressSpace) : Option OverlapSite :=
  ss.findSome? fun b => (a.firstConflict b).map (⟨a.pid, b.pid, ·⟩)

/-- The first overlap of the address spaces, by the first of a pair, then by the second, then
by page.
mirrors src/checks.rs:217-239 -/
def firstOverlap : List AddressSpace → Option OverlapSite
  | [] => none
  | a :: r => a.overlapWith r <|> firstOverlap r

/-- The violation that address spaces do not overlap, if no overlap was found.
mirrors src/checks.rs:236,240-243 -/
def missingOverlap : Option OverlapSite → Option Violation
  | some _ => none
  | none => some (.general .overlap .overlap)

theorem firstConflictFrom_eq (page : Nat) (as bs : List Entry) :
    firstConflictFrom page as bs =
      ((as.zip bs).findIdx? fun (a, b) => a.conflicts b).map (page + ·) := by
  induction as generalizing page bs with
  | nil => rfl
  | cons a as ih =>
    cases bs with
    | nil => rfl
    | cons b bs =>
      simp only [firstConflictFrom, List.zip_cons_cons, List.findIdx?_cons]
      split
      · rfl
      · rw [ih, Option.map_map]
        congr 1
        funext i
        simp only [Function.comp_apply]
        omega

theorem firstConflict_eq (a b : AddressSpace) :
    a.firstConflict b = (a.entries.zip b.entries).findIdx? fun (x, y) => x.conflicts y := by
  simp [firstConflict, firstConflictFrom_eq]

end AddressSpace
end PageAudit
