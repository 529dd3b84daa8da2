import PageAudit.Memory.Census
import PageAudit.Proofs.Memory.Decoding
import Mathlib.Algebra.Ring.Nat
import Mathlib.Data.List.Count
import Mathlib.Data.List.Perm.Basic

/-!
# What a census counts

A census is kept in ascending order of owners, which is what makes a look-up find the one entry
of an owner. Each frame that is tallied adds one to the count of its own owner and to no other, so
in the end every owner has as many frames as have its tag. A census that is kept so is determined by
its counts (`Proper.ext`), and the order of the frames is lost in it.

* `rank_lt_iff`: the order of owners, kind by kind;
* `tally_ascending`, `count_tally`, `Proper.tally`, `total_tally`: one frame more;
* `count_ofOwners`, `mem_owners_ofOwners`, `ofOwners_eq_iff`: all frames of a list;
* `count_census_of_decode`: the frames of an owner are the tags of that owner;
* `census_partition`: the census of the frames that a physical dump shows.
-/
namespace PageAudit

/-! ## The order of owners -/

namespace Owner

/-- The kinds of owners, in the order in which they are declared. -/
def kind : Owner → Nat
  | free => 0
  | unmapped => 1
  | reserved => 2
  | kernel => 3
  | console => 4
  | process _ => 5
  | other _ => 6

/-- The order of owners: by kind, then processes by number and other tags by character. -/
inductive Precedes : Owner → Owner → Prop
  | kind {a b : Owner} : a.kind < b.kind → Precedes a b
  | process {p q : UInt8} : p < q → Precedes (.process p) (.process q)
  | other {c d : Char} : c < d → Precedes (.other c) (.other d)

theorem rank_lt_iff {a b : Owner} : a.rank < b.rank ↔ a.Precedes b := by
  constructor
  · intro lt
    by_cases kinds : a.kind < b.kind
    · exact .kind kinds
    -- no kind reaches into the ranks of the next, so these two owners are of one kind
    cases a <;> cases b <;> simp only [rank, kind] at lt kinds
    case process.process p q => exact .process (UInt8.lt_iff_toNat_lt.mpr (by omega))
    case process.other p c => omega
    case other.process c p => have := p.toNat_lt; omega
    case other.other c d =>
      have codes : c.toNat < d.toNat := by omega
      exact .other (UInt32.lt_iff_toNat_lt.mpr codes)
    all_goals omega
  · intro precedes
    cases precedes with
    | kind kinds =>
      cases a <;> cases b <;> simp only [rank, kind] at kinds ⊢
      case process.other p c => have := p.toNat_lt; omega
      all_goals omega
    | process lt => exact Nat.add_lt_add_left (UInt8.lt_iff_toNat_lt.mp lt) 5
    | other lt => exact Nat.add_lt_add_left (UInt32.lt_iff_toNat_lt.mp lt) 261

end Owner

namespace Census

/-- Whether the owners of a census stand in strictly ascending order. -/
def Ascending (c : Census) : Prop := c.Pairwise fun x y => x.1.rank < y.1.rank

/-- A census as it is kept: the owners in strictly ascending order, each with a frame at least. -/
structure Proper (c : Census) : Prop where
  ascending : Ascending c
  positive : ∀ x ∈ c, 1 ≤ x.2

/-- The frames that are counted in a census. -/
def total (c : Census) : Nat := (c.map Prod.snd).sum

variable {c c' : Census} {o q : Owner}

theorem count_cons (p : Owner) (n : Nat) (c : Census) (q : Owner) :
    count ((p, n) :: c) q = if q = p then n else count c q := by
  unfold count
  rw [List.lookup_cons]
  by_cases h : q = p
  · simp [h]
  · simp [h, beq_eq_false_iff_ne.mpr h]

/-- An owner below all that are listed is not listed. -/
theorem count_eq_zero_of_below (h : ∀ x ∈ c, q.rank < x.1.rank) : count c q = 0 := by
  induction c with
  | nil => rfl
  | cons x c ih =>
    have hne : q ≠ x.1 := fun hq => Nat.ne_of_lt (h x List.mem_cons_self) (congrArg Owner.rank hq)
    rw [count_cons, if_neg hne]
    exact ih fun y hy => h y (List.mem_cons_of_mem x hy)

/-! ## One frame more -/

/-- The owner of the frame is all that can be new in the list. -/
theorem owner_of_mem_tally {x : Owner × Nat} (h : x ∈ tally o c) :
    x.1 = o ∨ ∃ y ∈ c, x.1 = y.1 := by
  induction c with
  | nil => exact .inl (congrArg Prod.fst (List.mem_singleton.mp h))
  | cons y c ih =>
    unfold tally at h
    split at h
    · rcases List.mem_cons.mp h with rfl | hx
      · exact .inr ⟨y, List.mem_cons_self, rfl⟩
      · exact .inr ⟨x, List.mem_cons_of_mem y hx, rfl⟩
    split at h
    · rcases List.mem_cons.mp h with rfl | hx
      · exact .inl rfl
      · exact .inr ⟨x, hx, rfl⟩
    · rcases List.mem_cons.mp h with rfl | hx
      · exact .inr ⟨_, List.mem_cons_self, rfl⟩
      · refine (ih hx).imp id ?_
        intro hold
        obtain ⟨z, hz, hxz⟩ := hold
        exact ⟨z, List.mem_cons_of_mem y hz, hxz⟩

theorem tally_ascending (h : Ascending c) : Ascending (tally o c) := by
  induction c with
  | nil => exact List.pairwise_singleton _ _
  | cons y c ih =>
    obtain ⟨p, n⟩ := y
    obtain ⟨above, rest⟩ := List.pairwise_cons.mp h
    unfold tally
    split
    · exact List.pairwise_cons.mpr ⟨above, rest⟩
    next hne =>
    split
    · next hlt =>
      refine List.pairwise_cons.mpr ⟨?_, h⟩
      intro x hx
      rcases List.mem_cons.mp hx with rfl | hx
      · exact hlt
      · exact Nat.lt_trans hlt (above x hx)
    · next hle =>
      refine List.pairwise_cons.mpr ⟨?_, ih rest⟩
      intro x hx
      rcases owner_of_mem_tally hx with hxo | ⟨z, hz, hxz⟩
      · have hrank : o.rank ≠ p.rank := fun hr => hne (Owner.rank_injective hr)
        rw [hxo]
        show p.rank < o.rank
        omega
      · rw [hxz]
        exact above z hz

theorem count_tally (h : Ascending c) :
    count (tally o c) q = count c q + if q = o then 1 else 0 := by
  induction c with
  | nil => rw [tally, count_cons]; split <;> rfl
  | cons y c ih =>
    obtain ⟨p, n⟩ := y
    obtain ⟨above, rest⟩ := List.pairwise_cons.mp h
    unfold tally
    split
    · next hop =>
      rw [count_cons, count_cons, hop]
      split <;> rfl
    next hne =>
    split
    · next hlt =>
      rw [count_cons]
      split
      · next hq =>
        subst hq
        -- the new entry stands before all others, so no older one is hidden by it
        have unlisted : count ((p, n) :: c) q = 0 := by
          refine count_eq_zero_of_below fun x hx => ?_
          rcases List.mem_cons.mp hx with rfl | hx
          · exact hlt
          · exact Nat.lt_trans hlt (above x hx)
        rw [unlisted]
      · rfl
    · rw [count_cons, count_cons, ih rest]
      split
      · next hqp => rw [if_neg fun hqo => hne (hqo.symm.trans hqp)]; rfl
      · rfl

theorem Proper.tally (h : Proper c) : Proper (tally o c) := by
  refine ⟨tally_ascending h.ascending, ?_⟩
  replace h := h.positive
  induction c with
  | nil => exact List.forall_mem_singleton.mpr (Nat.le_refl 1)
  | cons y c ih =>
    obtain ⟨p, n⟩ := y
    obtain ⟨head, rest⟩ := List.forall_mem_cons.mp h
    unfold Census.tally
    split
    · exact List.forall_mem_cons.mpr ⟨Nat.le_add_left 1 n, rest⟩
    split
    · exact List.forall_mem_cons.mpr ⟨Nat.le_refl 1, h⟩
    · exact List.forall_mem_cons.mpr ⟨head, ih rest⟩

theorem total_tally : total (tally o c) = total c + 1 := by
  induction c with
  | nil => rfl
  | cons y c ih =>
    obtain ⟨p, n⟩ := y
    unfold tally
    split
    · simp only [total, List.map_cons, List.sum_cons]
      omega
    split
    · simp only [total, List.map_cons, List.sum_cons]
      omega
    · simp only [total, List.map_cons, List.sum_cons] at ih ⊢
      omega

/-! ## All frames -/

theorem count_foldl_tally (os : List Owner) (h : Ascending c) :
    count (os.foldl (fun c o => tally o c) c) q = count c q + os.count q := by
  induction os generalizing c with
  | nil => rfl
  | cons o os ih =>
    rw [List.foldl_cons, ih (tally_ascending h), count_tally h, List.count_cons]
    by_cases hq : q = o
    · simp only [hq, if_true, beq_self_eq_true]
      omega
    · simp only [hq, if_false, beq_eq_false_iff_ne.mpr (Ne.symm hq), Bool.false_eq_true]
      omega

/-- A census counts every owner as often as it stands in the list. -/
theorem count_ofOwners (os : List Owner) (q : Owner) : count (ofOwners os) q = os.count q := by
  have start : Ascending [] := List.Pairwise.nil
  rw [ofOwners, count_foldl_tally os start]
  exact Nat.zero_add _

theorem proper_ofOwners (os : List Owner) : Proper (ofOwners os) := by
  have run : ∀ c, Proper c → Proper (os.foldl (fun c o => Census.tally o c) c) := by
    induction os with
    | nil => exact fun c h => h
    | cons o os ih => exact fun c h => ih _ h.tally
  exact run [] ⟨List.Pairwise.nil, nofun⟩

theorem total_ofOwners (os : List Owner) : total (ofOwners os) = os.length := by
  have run : ∀ c, total (os.foldl (fun c o => tally o c) c) = total c + os.length := by
    induction os with
    | nil => exact fun c => rfl
    | cons o os ih =>
      intro c
      rw [List.foldl_cons, ih, total_tally, List.length_cons]
      omega
  exact (run []).trans (Nat.zero_add _)

/-! ## What is listed -/

/-- An owner is listed with the number that a look-up gives, unless this is zero. -/
theorem Proper.mem_iff (h : Proper c) {n : Nat} : (q, n) ∈ c ↔ count c q = n ∧ 1 ≤ n := by
  obtain ⟨ascending, positive⟩ := h
  induction c with
  | nil =>
    simp only [List.not_mem_nil, count, List.lookup_nil, Option.getD_none, false_iff]
    omega
  | cons x c ih =>
    obtain ⟨p, k⟩ := x
    obtain ⟨above, rest⟩ := List.pairwise_cons.mp ascending
    obtain ⟨head, positive⟩ := List.forall_mem_cons.mp positive
    rw [List.mem_cons, Prod.mk.injEq, count_cons, ih rest positive]
    by_cases hq : q = p
    · have below : ∀ x ∈ c, q.rank < x.1.rank := by rwa [hq]
      have unlisted : ¬ (count c q = n ∧ 1 ≤ n) := by
        rw [count_eq_zero_of_below below]
        omega
      simp only [hq, true_and, if_true]
      rw [← hq]
      omega
    · simp [hq]

/-- A census is determined by its look-ups. -/
theorem Proper.ext (h : Proper c) (h' : Proper c') (counts : ∀ q, count c q = count c' q) :
    c = c' := by
  have nodup : ∀ {c : Census}, Proper c → c.Nodup := by
    intro c h
    refine h.ascending.imp ?_
    rintro x y lt rfl
    exact Nat.lt_irrefl _ lt
  have members : c.Perm c' := by
    rw [List.perm_ext_iff_of_nodup (nodup h) (nodup h')]
    rintro ⟨q, n⟩
    rw [h.mem_iff, h'.mem_iff, counts]
  refine members.eq_of_pairwise ?_ h.ascending h'.ascending
  intro x y _ _ lt gt
  exact absurd lt (Nat.lt_asymm gt)

/-- Two lists of owners have one census if they are the same but for the order. -/
theorem ofOwners_eq_iff {os os' : List Owner} : ofOwners os = ofOwners os' ↔ os.Perm os' := by
  rw [List.perm_iff_count]
  constructor
  · intro same q
    rw [← count_ofOwners, same, count_ofOwners]
  · intro counts
    refine (proper_ofOwners os).ext (proper_ofOwners os') ?_
    intro q
    rw [count_ofOwners, count_ofOwners, counts]

theorem mem_owners_ofOwners {os : List Owner} {q : Owner} :
    q ∈ (ofOwners os).map Prod.fst ↔ q ∈ os := by
  rw [← List.one_le_count_iff (l := os), ← count_ofOwners]
  simp only [List.mem_map, Prod.exists, (proper_ofOwners os).mem_iff]
  constructor
  · rintro ⟨_, n, ⟨rfl, listed⟩, rfl⟩
    exact listed
  · intro listed
    exact ⟨q, _, ⟨rfl, listed⟩, rfl⟩

end Census

/-! ## The census of a frame map -/

/-- The frames of a process are the tags with its digit. -/
theorem count_census_of_decode {raw : Text} {m : FrameMap} (h : FrameMap.decode raw = .ok m)
    {p : UInt8} (hp : p ∈ processIds) :
    m.census.count (.process p) = raw.count (Owner.process p).tag := by
  have counted := List.count_map_of_injective raw _ (ofTag_injective .physical) (Owner.process p).tag
  rw [ofTag_tag_process hp] at counted
  rw [FrameMap.census, Census.count_ofOwners, (FrameMap.decode_eq_ok_iff.mp h).2, counted]

/-- A census of frames lists the owners that hold a frame, each with the number of its frames and no
other, in the order of owners. Every frame is counted once. Two physical dumps have one census exactly
if they are the same but for the order of their tags. -/
theorem census_partition {raw : Text} {m : FrameMap} (h : FrameMap.decode raw = .ok m) :
    (∀ o, m.census.count o = m.owners.count o) ∧
    (∀ o, o ∈ m.census.map Prod.fst ↔ o ∈ m.owners) ∧
    (∀ o n, (o, n) ∈ m.census → n = m.owners.count o ∧ 1 ≤ n) ∧
    m.census.Pairwise (fun x y => x.1.Precedes y.1) ∧
    (m.census.map Prod.snd).sum = 512 ∧
    ∀ raw', raw.Perm raw' ↔ ∃ m', FrameMap.decode raw' = .ok m' ∧ m'.census = m.census := by
  have proper : m.census.Proper := Census.proper_ofOwners m.owners
  have counts : ∀ o, m.census.count o = m.owners.count o := Census.count_ofOwners m.owners
  obtain ⟨sized, owners⟩ := FrameMap.decode_eq_ok_iff.mp h
  refine ⟨counts, fun o => Census.mem_owners_ofOwners, ?_, ?_, ?_, ?_⟩
  · intro o n listed
    obtain ⟨count, positive⟩ := proper.mem_iff.mp listed
    exact ⟨count.symm.trans (counts o), positive⟩
  · exact proper.ascending.imp Owner.rank_lt_iff.mp
  · exact (Census.total_ofOwners m.owners).trans m.length_owners
  · intro raw'
    have same : ∀ m', FrameMap.decode raw' = .ok m' →
        (m'.census = m.census ↔ raw.Perm raw') := by
      intro m' h'
      rw [FrameMap.census, FrameMap.census, Census.ofOwners_eq_iff, owners,
        (FrameMap.decode_eq_ok_iff.mp h').2, List.map_perm_map_iff (ofTag_injective .physical),
        List.perm_comm]
    constructor
    · intro perm
      obtain ⟨m', h'⟩ := (FrameMap.exists_decode_iff raw').mpr (perm.length_eq.symm.trans sized)
      exact ⟨m', h', (same m' h').mpr perm⟩
    · rintro ⟨m', h', census⟩
      exact (same m' h').mp census

/-- The frames of process 1 are not those with the tag `5`, which is nobody's digit. The census does
not see in which order they stand. -/
theorem census_partition_of_digits :
    let raw := List.replicate 500 '5' ++ List.replicate 12 '1'
    ∃ m, FrameMap.decode raw = .ok m ∧ m.census.count (.process 1) = 12 ∧
      m.census.count (.process 5) = 0 ∧ m.census.count (.other '5') = 500 ∧
      ∃ m', FrameMap.decode raw.reverse = .ok m' ∧ m'.census = m.census := by
  intro raw
  obtain ⟨m, h⟩ := (FrameMap.exists_decode_iff raw).mpr (by decide +kernel)
  obtain ⟨counts, -, -, -, -, permuted⟩ := census_partition h
  have owners : m.owners = raw.map (Owner.ofTag .physical) := (FrameMap.decode_eq_ok_iff.mp h).2
  refine ⟨m, h, ?_, ?_, ?_, (permuted _).mp raw.reverse_perm.symm⟩
  all_goals
    rw [counts, owners]
    decide +kernel

end PageAudit
