import Mathlib.Data.List.Forall2

/-!
# Steps that can fail

Reading a log and decoding its dumps are series of steps, each of which yields a value or ends
the series with a fault.

* `forM_range_eq_error_iff`: a numbered series of checks fails at the first check that fails;
* `mapM_eq_ok_iff`: a series over a list succeeds if every step does, with their values in order;
* `mapM_eq_error_iff`: it fails at the first step that fails.
-/
namespace PageAudit.Steps

variable {ε α β : Type}

@[simp] theorem ok_bind (a : α) (f : α → Except ε β) : (Except.ok a >>= f) = f a := rfl

@[simp] theorem error_bind (e : ε) (f : α → Except ε β) : (Except.error e >>= f) = .error e := rfl

@[simp] theorem throw_eq (e : ε) : (throw e : Except ε α) = .error e := rfl

theorem bind_eq_ok_iff {x : Except ε α} {f : α → Except ε β} {b : β} :
    (x >>= f) = .ok b ↔ ∃ a, x = .ok a ∧ f a = .ok b := by
  cases x <;> simp

theorem bind_eq_error_iff {x : Except ε α} {f : α → Except ε β} {e : ε} :
    (x >>= f) = .error e ↔ x = .error e ∨ ∃ a, x = .ok a ∧ f a = .error e := by
  cases x <;> simp

/-- One more check after `n` checks. -/
theorem forM_range_succ (check : Nat → Except ε Unit) (n : Nat) :
    (List.range (n + 1)).forM check = ((List.range n).forM check >>= fun _ => check n) := by
  rw [List.range_succ, List.forM_eq_forM, List.forM_append, List.forM_cons]
  cases check n <;> rfl

theorem forM_range_congr {check check' : Nat → Except ε Unit} {n : Nat}
    (h : ∀ k < n, check k = check' k) :
    (List.range n).forM check = (List.range n).forM check' := by
  induction n with
  | zero => rfl
  | succ n ih =>
    rw [forM_range_succ, forM_range_succ, ih fun k hk => h k (by omega), h n (by omega)]

theorem forM_range_eq_ok_iff {check : Nat → Except ε Unit} {n : Nat} :
    (List.range n).forM check = .ok () ↔ ∀ k < n, check k = .ok () := by
  induction n with
  | zero => simp; rfl
  | succ n ih =>
    rw [forM_range_succ, bind_eq_ok_iff]
    constructor
    · intro hall k hk
      obtain ⟨_, h, hn⟩ := hall
      rcases Nat.lt_succ_iff_lt_or_eq.mp hk with hk | rfl
      · exact ih.mp h k hk
      · exact hn
    · intro h
      exact ⟨(), ih.mpr fun k hk => h k (by omega), h n (by omega)⟩

theorem forM_range_eq_error_iff {check : Nat → Except ε Unit} {n : Nat} {e : ε} :
    (List.range n).forM check = .error e ↔
      ∃ k < n, check k = .error e ∧ ∀ j < k, check j = .ok () := by
  induction n with
  | zero =>
    constructor
    · intro h; cases h
    · intro hfail
      obtain ⟨k, hk, -⟩ := hfail
      omega
  | succ n ih =>
    rw [forM_range_succ, bind_eq_error_iff, ih]
    constructor
    · intro hfail
      rcases hfail with ⟨k, hk, h, hj⟩ | ⟨_, h, hn⟩
      · exact ⟨k, by omega, h, hj⟩
      · exact ⟨n, by omega, hn, forM_range_eq_ok_iff.mp h⟩
    · intro hfail
      obtain ⟨k, hk, h, hj⟩ := hfail
      rcases Nat.lt_succ_iff_lt_or_eq.mp hk with hk | rfl
      · exact .inl ⟨k, hk, h, hj⟩
      · exact .inr ⟨(), forM_range_eq_ok_iff.mpr hj, h⟩

theorem mapM_eq_ok_iff {f : α → Except ε β} {l : List α} {m : List β} :
    l.mapM f = .ok m ↔ List.Forall₂ (fun a b => f a = .ok b) l m := by
  induction l generalizing m with
  | nil => cases m <;> simp [pure, Except.pure]
  | cons a l ih =>
    rw [List.mapM_cons, bind_eq_ok_iff]
    constructor
    · intro hsteps
      obtain ⟨b, hb, h⟩ := hsteps
      obtain ⟨bs, hbs, h⟩ := bind_eq_ok_iff.mp h
      cases h
      exact .cons hb (ih.mp hbs)
    · intro h
      cases h with
      | @cons _ b _ bs hb hbs => exact ⟨b, hb, bind_eq_ok_iff.mpr ⟨bs, ih.mpr hbs, rfl⟩⟩

theorem exists_mapM_eq_ok_iff {f : α → Except ε β} {l : List α} :
    (∃ m, l.mapM f = .ok m) ↔ ∀ a ∈ l, ∃ b, f a = .ok b := by
  induction l with
  | nil => simp [pure, Except.pure]
  | cons a l ih =>
    simp only [mapM_eq_ok_iff, List.forall₂_cons_left_iff, List.forall_mem_cons] at ih ⊢
    rw [← ih]
    constructor
    · intro h
      obtain ⟨_, b, m, hb, hm, rfl⟩ := h
      exact ⟨⟨b, hb⟩, m, hm⟩
    · intro h
      obtain ⟨⟨b, hb⟩, m, hm⟩ := h
      exact ⟨b :: m, b, m, hb, hm, rfl⟩

/-- A series fails with the fault of the first of its steps that fails. -/
theorem mapM_eq_error_iff {f : α → Except ε β} {l : List α} {e : ε} :
    l.mapM f = .error e ↔ ∃ before a behind, l = before ++ a :: behind ∧ f a = .error e ∧
      ∀ b ∈ before, ∃ c, f b = .ok c := by
  induction l with
  | nil => simp [pure, Except.pure]
  | cons a l ih =>
    have step : (a :: l).mapM f = .error e ↔
        f a = .error e ∨ (∃ c, f a = .ok c) ∧ l.mapM f = .error e := by
      rw [List.mapM_cons]
      cases f a with
      | error e' => simp
      | ok c => cases l.mapM f <;> simp [pure, Except.pure]
    rw [step, ih]
    constructor
    · intro fails
      rcases fails with fault | ⟨ok, before, b, behind, rfl, fault, sound⟩
      · exact ⟨[], a, l, rfl, fault, nofun⟩
      · exact ⟨a :: before, b, behind, rfl, fault, List.forall_mem_cons.mpr ⟨ok, sound⟩⟩
    · intro fails
      obtain ⟨before, b, behind, split, fault, sound⟩ := fails
      cases before with
      | nil =>
        cases split
        exact .inl fault
      | cons _ before =>
        cases split
        obtain ⟨ok, sound⟩ := List.forall_mem_cons.mp sound
        exact .inr ⟨ok, before, b, behind, rfl, fault, sound⟩

theorem mem_iff_of_mapM_eq_ok {f : α → Except ε β} {l : List α} {m : List β}
    (h : l.mapM f = .ok m) {b : β} : b ∈ m ↔ ∃ a ∈ l, f a = .ok b := by
  rw [mapM_eq_ok_iff] at h
  induction h with
  | nil => simp
  | @cons a c l m hac _ ih =>
    have head : b = c ↔ f a = .ok b := by rw [hac, Except.ok.injEq, eq_comm]
    simp only [List.mem_cons, ih, exists_eq_or_imp, ← head]

/-- If every step also gives an item of one list, the items come out in the order of the list. -/
theorem map_eq_of_mapM_eq_ok {γ : Type} {f : α → Except ε β} {l : List α} {m : List β}
    (h : l.mapM f = .ok m) (key : α → γ) (key' : β → γ)
    (keys : ∀ a b, f a = .ok b → key a = key' b) : l.map key = m.map key' := by
  have eqs : List.Forall₂ (· = ·) (l.map key) (m.map key') := by
    rw [List.forall₂_map_left_iff, List.forall₂_map_right_iff]
    exact (mapM_eq_ok_iff.mp h).imp keys
  rwa [List.forall₂_eq_eq_eq] at eqs

end PageAudit.Steps
