import PageAudit.Proofs.Audit.Reach

/-!
# Which counts are worth a warning

A warning compares a count over the physical dump, taken from the census of its frames, with a
count over the user memory of one address space. Both are counts of characters: the digit of the
process among the frame tags (`Dump.frameTags`), and the same digit among the page tags of user
memory in the process's own virtual dump (`Dump.pageTags`). The flags of the pages do not count,
and neither does anything that the checks find.

* `AddressSpace.countP_drop`: a count of pages as a count of their indices;
* `Image.warnings_of_decode`: the warnings about a dump in terms of its characters;
* `warnings_exact`: the same for the verdict on the dump, whatever its outcome.
-/
namespace PageAudit

/-! ## Counts of characters -/

/-- The frame tags that are the digit of a process. -/
def Dump.frameTags (d : Dump) (p : UInt8) : Nat := d.physical.count p.toNat.digitChar

/-- The indices of user memory at which the virtual dump of a process has its digit for a tag. -/
def Dump.pageTags (d : Dump) (p : UInt8) : Nat :=
  (List.range' 256 512).countP fun i => (d.virtualOf p)[2 * i]? = some p.toNat.digitChar

/-- The warning about a process whose counts do not fit together. -/
def Dump.countWarning (d : Dump) (g : Stage) (p : UInt8) : CountWarning :=
  ⟨p, d.frameTags p, d.pageTags p, g.tableFrames⟩

/-- Pages from the page `n` on are counted by their indices. -/
theorem AddressSpace.countP_drop (s : AddressSpace) (n : Nat) (q : Entry → Bool) :
    (s.entries.drop n).countP q =
      (List.range' n (pageCount - n)).countP fun i => (s.entry? i).any q := by
  have entries : s.entries.drop n = (s.pages.drop n).map Prod.fst := by
    rw [List.map_drop, pages, List.zipIdx_map_fst]
  have indices : List.range' n (pageCount - n) = (s.pages.drop n).map Prod.snd := by
    rw [List.map_drop, pages, List.zipIdx_map_snd, s.length_entries, List.drop_range', Nat.mul_one,
      Nat.zero_add]
  rw [entries, indices, List.countP_map, List.countP_map]
  refine List.countP_congr ?_
  intro a ha
  have here := (mem_pages_drop_iff.mp ha).2
  simp [here]

/-- A page is a process's own if its tag is the digit of the process. -/
theorem Entry.any_own_iff {raw : Text} (hlen : raw.length = 1536) {p : UInt8} (hp : p ∈ processIds)
    (i : Nat) :
    (Entry.at? raw i).any (·.owner = .process p) = true ↔
      raw[2 * i]? = some p.toNat.digitChar := by
  rw [← tag_process_of_mem hp]
  cases ht : raw[2 * i]? with
  | none => simp [Entry.at?, ht]
  | some tag =>
    obtain ⟨flag, hf⟩ := exists_flag hlen ht
    have page : Entry.at? raw i = some (.ofPair (tag, flag)) :=
      Entry.at?_eq_some_iff.mpr ⟨tag, flag, ht, hf, rfl⟩
    have owner : (Entry.ofPair (tag, flag)).owner = .process p ↔ tag = (Owner.process p).tag :=
      ofTag_eq_process_iff hp
    simp [page, owner]

section
variable {d : Dump} {image : Image} (hd : d.decode = .ok image)
include hd

theorem Dump.census_eq_frameTags {p : UInt8} (hp : p ∈ processIds) :
    image.frames.census.count (.process p) = d.frameTags p := by
  rw [count_census_of_decode (Dump.decode_eq_ok_iff.mp hd).1 hp, tag_process_of_mem hp]
  rfl

theorem Dump.mappedCount_eq_pageTags {s : AddressSpace} (hs : s ∈ image.spaces) :
    s.mappedCount s.pid = d.pageTags s.pid := by
  have sized : d.WellSized := Dump.exists_decode_iff.mp ⟨image, hd⟩
  obtain ⟨hp, hentry⟩ := Dump.entry?_of_decode hd hs
  have hlen : (d.virtualOf s.pid).length = 1536 := Dump.length_virtualOf sized hp
  rw [AddressSpace.mappedCount, AddressSpace.countP_drop, hentry, Dump.pageTags]
  refine List.countP_congr ?_
  intro i _
  rw [Entry.any_own_iff hlen hp, decide_eq_true_iff]

/-! ## Warnings -/

/-- The processes are warned of in their order, each for its own counts. -/
theorem Image.warnings_of_decode (g : Stage) :
    image.warnings g =
      (processIds.filter fun p => d.frameTags p ≠ d.pageTags p + g.tableFrames).map
        (d.countWarning g) := by
  have one : ∀ s ∈ image.spaces,
      countWarning? image.frames.census (s.mappedCount s.pid) s.pid g.tableFrames =
        if d.frameTags s.pid ≠ d.pageTags s.pid + g.tableFrames then some (d.countWarning g s.pid)
        else none := by
    intro s hs
    have hp := (Dump.entry?_of_decode hd hs).1
    rw [countWarning?, Dump.census_eq_frameTags hd hp, Dump.mappedCount_eq_pageTags hd hs]
    split <;> simp_all [Dump.countWarning]
  rw [Image.warnings, List.filterMap_congr one, ← List.filterMap_eq_map, List.filterMap_filter,
    ← Dump.pids_of_decode hd, List.filterMap_map]
  simp

end

theorem Dump.countWarning_ascending (d : Dump) (g : Stage) (keep : UInt8 → Bool) :
    (((processIds.filter keep).map (d.countWarning g)).map (·.pid)).Pairwise (· < ·) := by
  have ids : processIds.Pairwise (· < ·) := by decide
  rw [List.map_map]
  have pids : (fun w : CountWarning => w.pid) ∘ d.countWarning g = id := rfl
  rw [pids, List.map_id]
  exact ids.filter keep

namespace Auditor

theorem warnings_auditDump (a : Auditor) (g : Stage) {d : Dump} (h : d.WellSized) :
    (a.auditDump g d).verdict.warnings =
      (processIds.filter fun p => d.frameTags p ≠ d.pageTags p + g.tableFrames).map
        (d.countWarning g) := by
  obtain ⟨image, himage⟩ := Dump.exists_decode_iff.mpr h
  rw [verdict_of_decode himage]
  exact Image.warnings_of_decode himage g

/-- Of a dump with the right lengths the warnings are, in ascending order of the processes, those
about the processes whose frame tags are not as many as their page tags and the page tables of the
stage. Nothing else about the dump or the outcome of the checks counts: two dumps with the same
counts have the same warnings. -/
theorem warnings_exact (a : Auditor) (g : Stage) {d : Dump} (h : d.WellSized) :
    (a.auditDump g d).verdict.warnings =
      ([1, 2, 3, 4].filter fun p => d.frameTags p ≠ d.pageTags p + g.tableFrames).map
        (d.countWarning g) ∧
    ((a.auditDump g d).verdict.warnings.map (·.pid)).Pairwise (· < ·) ∧
    ∀ (b : Auditor) (e : Dump), e.WellSized →
      (∀ p ∈ processIds, e.frameTags p = d.frameTags p ∧ e.pageTags p = d.pageTags p) →
      (b.auditDump g e).verdict.warnings = (a.auditDump g d).verdict.warnings := by
  rw [warnings_auditDump a g h]
  refine ⟨rfl, d.countWarning_ascending g _, ?_⟩
  intro b e he hcounts
  have fits : ∀ p ∈ processIds, decide (e.frameTags p ≠ e.pageTags p + g.tableFrames) =
      decide (d.frameTags p ≠ d.pageTags p + g.tableFrames) := by
    intro p hp
    obtain ⟨hframes, hpages⟩ := hcounts p hp
    rw [hframes, hpages]
  rw [warnings_auditDump b g he, List.filter_congr fits]
  apply List.map_congr_left
  intro p hp
  obtain ⟨hframes, hpages⟩ := hcounts p (List.mem_of_mem_filter hp)
  rw [Dump.countWarning, Dump.countWarning, hframes, hpages]

/-- Processes 1 and 2 have more frames than the first stage expects. They are warned of whether
the checks pass or stop at a page of the kernel that user code can access. -/
theorem warnings_exact_on_stacks :
    let frames := List.replicate 499 'R' ++ List.replicate 5 '1' ++ List.replicate 6 '2' ++ ['3', '4']
    let d : Dump := ⟨frames, #v[stackOnly '1', stackOnly '2', stackOnly '3', stackOnly '4']⟩
    let e : Dump := ⟨frames, #v['K' :: 'u' :: (stackOnly '1').drop 2, stackOnly '2', stackOnly '3',
      stackOnly '4']⟩
    d.WellSized ∧ e.WellSized ∧
    (default.auditDump .one d).verdict = .graded [⟨1, 5, 1, 0⟩, ⟨2, 6, 1, 0⟩] none ∧
    (default.auditDump .one e).verdict.passed = false ∧
    (([1, 2, 3, 4].filter fun p => d.frameTags p ≠ d.pageTags p + Stage.one.tableFrames).map
      (d.countWarning .one)) = [⟨1, 5, 1, 0⟩, ⟨2, 6, 1, 0⟩] ∧
    (default.auditDump .one e).verdict.warnings = [⟨1, 5, 1, 0⟩, ⟨2, 6, 1, 0⟩] := by
  intro frames d e
  have verdict : (default.auditDump .one d).verdict =
      .graded [⟨1, 5, 1, 0⟩, ⟨2, 6, 1, 0⟩] none := by decide +kernel
  have failed : (default.auditDump .one e).verdict.passed = false := by decide +kernel
  have sized : d.WellSized := (passed_auditDump_iff.mp (by rw [verdict]; rfl)).1
  have sized' : e.WellSized := by
    refine ⟨sized.1, ?_⟩
    intro raw hraw
    rcases List.mem_cons.mp hraw with rfl | hraw
    · decide +kernel
    · exact sized.2 raw (List.mem_cons_of_mem _ hraw)
  -- the two dumps differ at page 0 of process 1, which does not belong to user memory
  have counts : ∀ p ∈ processIds, e.frameTags p = d.frameTags p ∧ e.pageTags p = d.pageTags p := by
    refine forall_mem_processIds.mpr ⟨⟨rfl, ?_⟩, ⟨rfl, rfl⟩, ⟨rfl, rfl⟩, ⟨rfl, rfl⟩⟩
    refine List.countP_congr ?_
    intro i hi
    have above : 2 ≤ 2 * i := by
      have := List.mem_range'_1.mp hi
      omega
    have tag : (e.virtualOf 1)[2 * i]? = (d.virtualOf 1)[2 * i]? := by
      show ('K' :: 'u' :: (stackOnly '1').drop 2)[2 * i]? = (stackOnly '1')[2 * i]?
      rw [← Nat.sub_add_cancel above, List.getElem?_cons_succ, List.getElem?_cons_succ,
        List.getElem?_drop, Nat.add_comm]
    rw [tag]
  obtain ⟨exact, -, alike⟩ := warnings_exact default .one sized
  have same := alike default e sized' counts
  rw [verdict] at exact same
  exact ⟨sized, sized', verdict, failed, exact.symm, same⟩

end Auditor

end PageAudit
