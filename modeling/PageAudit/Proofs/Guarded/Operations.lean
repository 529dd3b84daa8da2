import PageAudit.Guarded.Operations
import PageAudit.Proofs.Steps
import Mathlib.Algebra.Ring.Nat

/-!
# Operations without a lapse

An operation in range has the result of the plain operation. The rest of this directory goes from there
to the whole audit, function by function: a step by step computation that does not lapse comes to what
the plain one comes to.

* `item_eq_ok`, `itemsFrom_eq_ok`, `pieces_eq_ok`, `size_eq_ok`, `byte_eq_ok`: when there is a result;
* `mapM_eq_ok`, `findM?_eq_ok`: loops over steps that have results.
-/
namespace PageAudit.Guarded

section
variable {α β : Type}

/-! ## Lists -/

theorem item_eq_ok {l : List α} {i : Nat} {a : α} (h : l[i]? = some a) : item l i = .ok a := by
  rw [item, h]

theorem itemsFrom_eq_ok {l : List α} {i : Nat} (h : i ≤ l.length) :
    itemsFrom l i = .ok (l.drop i) :=
  if_pos h

theorem pieces_eq_ok {n : Nat} (pos : 0 < n) (l : List α) : pieces n l = .ok (chunks n pos l) :=
  dif_pos pos

/-! ## Numbers -/

theorem size_eq_ok {n : Nat} (h : n < 2 ^ 64) : size n = .ok n :=
  if_pos h

theorem byte_eq_ok {n : Nat} (h : n < 256) : byte n = .ok (UInt8.ofNat n) :=
  if_pos h

/-! ## Loops -/

theorem mapM_eq_ok {f : α → Except Lapse β} {g : α → β} {l : List α}
    (h : ∀ a ∈ l, f a = .ok (g a)) : l.mapM f = .ok (l.map g) := by
  rw [Steps.mapM_eq_ok_iff, List.forall₂_map_right_iff, List.forall₂_same]
  exact h

theorem findM?_eq_ok {f : α → Except Lapse Bool} {p : α → Bool} {l : List α}
    (h : ∀ a ∈ l, f a = .ok (p a)) : l.findM? f = .ok (l.find? p) := by
  induction l with
  | nil => rfl
  | cons a l ih =>
    obtain ⟨first, rest⟩ := List.forall_mem_cons.mp h
    rw [List.findM?, first, Steps.ok_bind, List.find?_cons, ih rest]
    cases p a <;> rfl

end

end PageAudit.Guarded
