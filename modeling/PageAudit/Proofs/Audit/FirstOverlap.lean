import PageAudit.Proofs.Audit.Redundancy

/-!
# The first overlap of a list

Overlap is looked for pair by pair, in the order of the list, and the first pair that overlaps ends
the search. Whether there is one does not depend on the order, nor on how often an address space is
listed: some page is mapped to two owners by members of the list. Only the remark on the pair that
was found depends on the order.

* `firstConflict_eq_some_iff`: the page that is found for one pair;
* `firstOverlap_first`: the pair that is found is the first of all;
* `firstOverlap_copy`: a copy behind a member is never found;
* `overlap_of_list`: what the check says of a list of any length.
-/
namespace PageAudit

/-- Whether two mappings of pages map page `i` to different owners. -/
def ConflictAt (f g : Nat → Option Entry) (i : Nat) : Prop :=
  ∃ x y, f i = some x ∧ g i = some y ∧
    x.owner ≠ .unmapped ∧ y.owner ≠ .unmapped ∧ x.owner ≠ y.owner

namespace AddressSpace

variable {a b s : AddressSpace} {ss : List AddressSpace}

/-- Whether the address spaces at two places of a list, the second behind the first, overlap. -/
def OverlapAt (ss : List AddressSpace) (i j : Nat) : Prop :=
  i < j ∧ ∃ a b, ss[i]? = some a ∧ ss[j]? = some b ∧ Overlap a.entry? b.entry?

/-! ## One pair -/

theorem firstConflict_eq_some_iff {n : Nat} :
    a.firstConflict b = some n ↔ IsLeast {i | ConflictAt a.entry? b.entry? i} n := by
  have pages : ∀ i, ConflictAt a.entry? b.entry? i ↔
      ∃ xy, (a.entries.zip b.entries)[i]? = some xy ∧ (xy.1.conflicts xy.2) = true := by
    intro i
    simp only [Prod.exists, List.getElem?_zip_eq_some, Entry.conflicts_eq_true_iff, and_assoc]
    rfl
  rw [firstConflict_eq, findIdx?_eq_some_iff_isLeast]
  simp only [pages]

theorem firstConflict_self (s : AddressSpace) : s.firstConflict s = none :=
  firstConflict_eq_none_iff.mpr (Overlap.irrefl s.entry?)

theorem firstConflict_comm (h : a.firstConflict b = none) : b.firstConflict a = none :=
  firstConflict_eq_none_iff.mpr fun overlap => firstConflict_eq_none_iff.mp h overlap.symm

/-! ## The first pair -/

theorem firstOverlap_cons (a : AddressSpace) (ss : List AddressSpace) :
    firstOverlap (a :: ss) = (a.overlapWith ss).or (firstOverlap ss) := by
  rw [firstOverlap]
  exact Option.orElse_eq_or

theorem overlapWith_eq_none_iff :
    a.overlapWith ss = none ↔ ∀ b ∈ ss, ¬ Overlap a.entry? b.entry? := by
  simp [overlapWith, List.findSome?_eq_none_iff, firstConflict_eq_none_iff]

theorem overlapAt_cons_zero {j : Nat} :
    OverlapAt (s :: ss) 0 (j + 1) ↔ ∃ b, ss[j]? = some b ∧ Overlap s.entry? b.entry? := by
  simp [OverlapAt]

theorem overlapAt_cons_succ {i j : Nat} :
    OverlapAt (s :: ss) (i + 1) (j + 1) ↔ OverlapAt ss i j := by
  simp [OverlapAt]

/-- Of the address spaces that overlap another the first is found. -/
theorem overlapWith_first {o : OverlapSite} (h : a.overlapWith ss = some o) :
    ∃ j, ∃ b : AddressSpace, ss[j]? = some b ∧ o.first = a.pid ∧ o.second = b.pid ∧
      IsLeast {n | ConflictAt a.entry? b.entry? n} o.page ∧
      ∀ (j' : Nat) (b' : AddressSpace), ss[j']? = some b' → Overlap a.entry? b'.entry? →
        j ≤ j' := by
  obtain ⟨before, b, behind, rfl, found, none⟩ := List.findSome?_eq_some_iff.mp h
  obtain ⟨n, conflict, rfl⟩ := Option.map_eq_some_iff.mp found
  refine ⟨before.length, b, by simp, rfl, rfl, firstConflict_eq_some_iff.mp conflict, ?_⟩
  intro j' b' hb overlap
  by_contra earlier
  have member : b' ∈ before := by
    rw [List.getElem?_append_left (Nat.lt_of_not_le earlier)] at hb
    exact List.mem_of_getElem? hb
  exact firstConflict_eq_none_iff.mp (Option.map_eq_none_iff.mp (none b' member)) overlap

/-- The pair that is found comes first of all that overlap, by the first place and then by the second,
and the page is the first at which it conflicts. -/
theorem firstOverlap_first {o : OverlapSite} (h : firstOverlap ss = some o) :
    ∃ i j a b, i < j ∧ ss[i]? = some a ∧ ss[j]? = some b ∧ o.first = a.pid ∧ o.second = b.pid ∧
      IsLeast {n | ConflictAt a.entry? b.entry? n} o.page ∧
      ∀ i' j', OverlapAt ss i' j' → i < i' ∨ i = i' ∧ j ≤ j' := by
  induction ss with
  | nil => cases h
  | cons s ss ih =>
    rw [firstOverlap_cons] at h
    cases row : s.overlapWith ss with
    | some site =>
      rw [row] at h
      obtain rfl : site = o := Option.some.inj h
      obtain ⟨j, b, hb, first, second, page, least⟩ := overlapWith_first row
      refine ⟨0, j + 1, s, b, Nat.succ_pos j, rfl, hb, first, second, page, ?_⟩
      rintro (_ | i') (_ | j') pair
      · cases pair.1
      · obtain ⟨b', hb', overlap⟩ := overlapAt_cons_zero.mp pair
        exact .inr ⟨rfl, Nat.succ_le_succ (least j' b' hb' overlap)⟩
      · cases pair.1
      · exact .inl (Nat.succ_pos i')
    | none =>
      rw [row] at h
      obtain ⟨i, j, a, b, lt, ha, hb, first, second, page, least⟩ := ih h
      refine ⟨i + 1, j + 1, a, b, Nat.succ_lt_succ lt, ha, hb, first, second, page, ?_⟩
      rintro (_ | i') (_ | j') pair
      · cases pair.1
      · -- the address space at the head overlaps none of the others
        obtain ⟨b', hb', overlap⟩ := overlapAt_cons_zero.mp pair
        exact absurd overlap (overlapWith_eq_none_iff.mp row b' (List.mem_of_getElem? hb'))
      · cases pair.1
      · have := least i' j' (overlapAt_cons_succ.mp pair)
        omega

/-! ## Copies -/

theorem overlapWith_append (a : AddressSpace) (ss ts : List AddressSpace) :
    a.overlapWith (ss ++ ts) = (a.overlapWith ss).or (a.overlapWith ts) :=
  List.findSome?_append

theorem overlapWith_cons (a b : AddressSpace) (ss : List AddressSpace) :
    a.overlapWith (b :: ss) =
      ((a.firstConflict b).map (⟨a.pid, b.pid, ·⟩)).or (a.overlapWith ss) := by
  rw [overlapWith, List.findSome?_cons]
  cases (a.firstConflict b).map _ <;> rfl

theorem overlapWith_skip (h : a.firstConflict s = none) (mid behind : List AddressSpace) :
    a.overlapWith (mid ++ s :: behind) = a.overlapWith (mid ++ behind) := by
  rw [overlapWith_append, overlapWith_append, overlapWith_cons, h, Option.map_none, Option.none_or]

/-- If a copy is found, so is the address space before it. -/
theorem overlapWith_copy (a s : AddressSpace) (before mid behind : List AddressSpace) :
    a.overlapWith (before ++ s :: mid ++ s :: behind) =
      a.overlapWith (before ++ s :: mid ++ behind) := by
  simp only [overlapWith_append, overlapWith_cons]
  cases a.overlapWith before <;> cases a.firstConflict s <;> cases a.overlapWith mid <;> rfl

theorem firstOverlap_skip {mid behind : List AddressSpace}
    (h : ∀ b ∈ mid ++ behind, ¬ Overlap s.entry? b.entry?) :
    firstOverlap (mid ++ s :: behind) = firstOverlap (mid ++ behind) := by
  induction mid with
  | nil =>
    have row : s.overlapWith behind = none := overlapWith_eq_none_iff.mpr h
    rw [List.nil_append, List.nil_append, firstOverlap_cons, row, Option.none_or]
  | cons b mid ih =>
    obtain ⟨head, rest⟩ := List.forall_mem_cons.mp h
    have disjoint : b.firstConflict s = none :=
      firstConflict_comm (firstConflict_eq_none_iff.mpr head)
    rw [List.cons_append, List.cons_append, firstOverlap_cons, firstOverlap_cons,
      overlapWith_skip disjoint, ih rest]

/-- A copy behind a member is not found, for the member overlaps whatever the copy does. -/
theorem firstOverlap_copy (s : AddressSpace) (before mid behind : List AddressSpace) :
    firstOverlap (before ++ s :: mid ++ s :: behind) =
      firstOverlap (before ++ s :: mid ++ behind) := by
  induction before with
  | nil =>
    rw [List.nil_append, List.cons_append, List.cons_append, firstOverlap_cons, firstOverlap_cons,
      overlapWith_skip s.firstConflict_self]
    cases row : s.overlapWith (mid ++ behind) with
    | some site => rfl
    | none => rw [firstOverlap_skip (overlapWith_eq_none_iff.mp row)]
  | cons b before ih =>
    have heads : ∀ ts, b :: before ++ s :: mid ++ ts = b :: (before ++ s :: mid ++ ts) :=
      fun ts => rfl
    rw [heads, heads, firstOverlap_cons, firstOverlap_cons, overlapWith_copy, ih]

end AddressSpace

/-! ## The check -/

namespace Inspection

variable {ss ts : List AddressSpace}

theorem overlap_passes_mono (h : ss ⊆ ts) (passes : (overlap ss).Passes) :
    (overlap ts).Passes := by
  obtain ⟨a, ha, b, hb, overlaps⟩ := overlap_passes_iff.mp passes
  exact overlap_passes_iff.mpr ⟨a, h ha, b, h hb, overlaps⟩

theorem overlap_passes_iff_isSome :
    (overlap ss).Passes ↔ (AddressSpace.firstOverlap ss).isSome = true := by
  unfold Passes overlap
  cases AddressSpace.firstOverlap ss <;> simp [AddressSpace.missingOverlap]

/-- There is one way to fail, without a remark. -/
theorem overlap_of_not_passes (h : ¬ (overlap ss).Passes) :
    overlap ss = ⟨"checking for overlapping address spaces".toList, none,
      some (.general .overlap .overlap)⟩ := by
  have absent : AddressSpace.firstOverlap ss = none :=
    Option.not_isSome_iff_eq_none.mp (mt overlap_passes_iff_isSome.mpr h)
  unfold overlap
  rw [absent]
  rfl

theorem overlap_violation_congr (h : ss ⊆ ts) (h' : ts ⊆ ss) :
    (overlap ss).violation = (overlap ts).violation := by
  by_cases passes : (overlap ss).Passes
  · exact passes.trans (overlap_passes_mono h passes).symm
  · have fails : ¬ (overlap ts).Passes := fun passes' => passes (overlap_passes_mono h' passes')
    rw [overlap_of_not_passes passes, overlap_of_not_passes fails]

/-- In a list of one address space no page has two owners. -/
theorem not_overlap_passes_of_short (h : ss.length ≤ 1) : ¬ (overlap ss).Passes := by
  intro passes
  obtain ⟨a, ha, b, hb, overlaps⟩ := overlap_passes_iff.mp passes
  match ss, h with
  | [s], _ =>
    obtain rfl := List.mem_singleton.mp ha
    obtain rfl := List.mem_singleton.mp hb
    exact Overlap.irrefl _ overlaps

/-- Address spaces overlap if some page is mapped to two owners, whatever their number and processes
are. So one alone does not, and the result is that of any other list with the same members, in
another order or with copies of them; more address spaces do no harm. What is remarked is the pair
that comes first in the list, with the first page at which it conflicts, and a copy behind a member
does not change that either. -/
theorem overlap_of_list (ss : List AddressSpace) :
    ((overlap ss).Passes ↔ ∃ i, ∃ a ∈ ss, ∃ b ∈ ss, ConflictAt a.entry? b.entry? i) ∧
    (¬ (overlap ss).Passes → (overlap ss).violation = some (.general .overlap .overlap) ∧
      (overlap ss).records = [⟨.debug, "checking for overlapping address spaces".toList⟩]) ∧
    (ss.length ≤ 1 → ¬ (overlap ss).Passes) ∧
    (∀ ts, ss.Perm ts → (overlap ts).violation = (overlap ss).violation) ∧
    (∀ ts, ss ⊆ ts → (overlap ss).Passes → (overlap ts).Passes) ∧
    (∀ before s behind, ss = before ++ behind → s ∈ ss →
      (overlap (before ++ s :: behind)).violation = (overlap ss).violation) ∧
    (∀ before s mid behind, ss = before ++ s :: mid ++ behind →
      overlap (before ++ s :: mid ++ s :: behind) = overlap ss) ∧
    ((overlap ss).Passes → ∃ i j a b n, i < j ∧ ss[i]? = some a ∧ ss[j]? = some b ∧
      IsLeast {n | ConflictAt a.entry? b.entry? n} n ∧
      (∀ i' j', AddressSpace.OverlapAt ss i' j' → i < i' ∨ i = i' ∧ j ≤ j') ∧
      (overlap ss).records = [⟨.debug, "checking for overlapping address spaces".toList⟩,
        ⟨.debug, "processes ".toList ++ Text.decimal a.pid.toNat ++ " and ".toList ++
          Text.decimal b.pid.toNat ++ " overlap at virtual page ".toList ++ Text.decimal n⟩]) := by
  refine ⟨?_, ?_, not_overlap_passes_of_short, ?_, ?_, ?_, ?_, ?_⟩
  · rw [overlap_passes_iff]
    constructor
    · rintro ⟨a, ha, b, hb, i, conflict⟩
      exact ⟨i, a, ha, b, hb, conflict⟩
    · rintro ⟨i, a, ha, b, hb, conflict⟩
      exact ⟨a, ha, b, hb, i, conflict⟩
  · intro fails
    simp only [overlap_of_not_passes fails, records, Option.toList_none, List.map_nil, and_self]
  · intro ts perm
    exact overlap_violation_congr perm.symm.subset perm.subset
  · exact fun ts more => overlap_passes_mono more
  · rintro before s behind rfl member
    have members : ∀ t, t ∈ before ++ s :: behind ↔ t ∈ before ++ behind := by
      intro t
      rw [List.mem_append, List.mem_cons, or_left_comm, ← List.mem_append, or_iff_right_iff_imp]
      rintro rfl
      exact member
    exact overlap_violation_congr (fun t => (members t).mp) fun t => (members t).mpr
  · rintro before s mid behind rfl
    unfold overlap
    rw [AddressSpace.firstOverlap_copy]
  · intro passes
    obtain ⟨o, found⟩ := Option.isSome_iff_exists.mp (overlap_passes_iff_isSome.mp passes)
    obtain ⟨i, j, a, b, lt, ha, hb, first, second, page, least⟩ :=
      AddressSpace.firstOverlap_first found
    refine ⟨i, j, a, b, o.page, lt, ha, hb, page, least, ?_⟩
    unfold overlap
    rw [found, ← first, ← second]
    rfl

/-- Two address spaces that are listed for one process overlap at page 0, in either order. One of them
alone does not, and a copy of it changes nothing. -/
theorem overlap_of_list_of_one_process :
    let a : AddressSpace := ⟨7, List.replicate 768 ⟨.kernel, false⟩, List.length_replicate⟩
    let b : AddressSpace := ⟨7, List.replicate 768 ⟨.process 3, true⟩, List.length_replicate⟩
    ¬ (overlap [a]).Passes ∧ (overlap [a, b]).Passes ∧ (overlap [b, a]).violation = none ∧
    (overlap [a, b]).records = [⟨.debug, "checking for overlapping address spaces".toList⟩,
      ⟨.debug, "processes 7 and 7 overlap at virtual page 0".toList⟩] ∧
    overlap [a, a, b] = overlap [a, b] := by
  intro a b
  have pages : ConflictAt a.entry? b.entry? 0 := ⟨_, _, rfl, rfl, nofun, nofun, nofun⟩
  obtain ⟨-, -, short, -⟩ := overlap_of_list [a]
  obtain ⟨conflict, -, -, perm, -, -, copy, first⟩ := overlap_of_list [a, b]
  have passes : (overlap [a, b]).Passes := conflict.mpr ⟨0, a, by simp, b, by simp, pages⟩
  obtain ⟨i, j, a', b', n, lt, ha, hb, page, -, records⟩ := first passes
  have inside : j < 2 := (List.getElem?_eq_some_iff.mp hb).1
  obtain ⟨rfl, rfl⟩ : i = 0 ∧ j = 1 := by omega
  obtain rfl : a = a' := Option.some.inj ha
  obtain rfl : b = b' := Option.some.inj hb
  obtain rfl : n = 0 := Nat.le_zero.mp (page.2 pages)
  have text : "processes ".toList ++ Text.decimal a.pid.toNat ++ " and ".toList ++
      Text.decimal b.pid.toNat ++ " overlap at virtual page ".toList ++ Text.decimal 0 =
      "processes 7 and 7 overlap at virtual page 0".toList := by decide +kernel
  rw [text] at records
  exact ⟨short (Nat.le_refl 1), passes, (perm _ (.swap _ _ _)).trans passes, records,
    copy [] a [] [b] rfl⟩

end Inspection

end PageAudit
