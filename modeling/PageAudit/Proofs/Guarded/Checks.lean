import PageAudit.Guarded.Checks
import PageAudit.Proofs.Audit.FirstOverlap
import PageAudit.Proofs.Guarded.Dumps
import PageAudit.Proofs.Memory.Census
import PageAudit.Proofs.Memory.FrameRanges

/-!
# Checks without a lapse

Counters stay small, for there are 512 frames and 768 pages to count. The frames that are searched lie
below the end of the memory, and a frame that is found free is looked up again for its owner. Behind
every address space there is a place from which on the others are compared with it, if only the one
after the last. An address space has all its pages, so it has the last one.

* `warnings_eq_ok`, `schedule_eq_ok`: none of this lapses, on any memory with not too many address
  spaces.
-/
namespace PageAudit.Guarded

open Steps

/-! ## Counts -/

/-- No counter passes the number of frames counted. -/
theorem tally_eq_ok {o : Owner} {c : Census} (h : c.total + 1 < 2 ^ 64) :
    tally o c = .ok (Census.tally o c) := by
  induction c with
  | nil => rfl
  | cons y c ih =>
    obtain ⟨p, n⟩ := y
    simp only [Census.total, List.map_cons, List.sum_cons] at h
    have rest := ih (by rw [Census.total]; omega)
    unfold tally Census.tally
    split
    · rw [size_eq_ok (by omega), ok_bind]
      rfl
    split
    · rfl
    · rw [rest, ok_bind]
      rfl

theorem tallyAll_eq_ok {c : Census} {os : List Owner} (h : c.total + os.length < 2 ^ 64) :
    tallyAll c os = .ok (os.foldl (fun c o => Census.tally o c) c) := by
  induction os generalizing c with
  | nil => rfl
  | cons o os ih =>
    rw [List.length_cons] at h
    have step := tally_eq_ok (o := o) (c := c) (by omega)
    rw [tallyAll, List.foldlM_cons, step, ok_bind, List.foldl_cons]
    exact ih (by rw [Census.total_tally]; omega)

theorem countWarning?_eq_ok (census : Census) (stage : Stage) (s : AddressSpace) :
    countWarning? census stage s =
      .ok (PageAudit.countWarning? census (s.mappedCount s.pid) s.pid stage.tableFrames) := by
  have mapped : s.mappedCount s.pid ≤ (s.entries.drop kernelBoundary).length :=
    List.countP_le_length
  rw [List.length_drop, s.length_entries, show pageCount - kernelBoundary = 512 from rfl] at mapped
  have tables : stage.tableFrames ≤ 5 := by cases stage <;> decide
  rw [countWarning?, size_eq_ok (by omega), ok_bind]
  rfl

theorem warnings_eq_ok (image : Image) (stage : Stage) :
    warnings image stage = .ok (image.warnings stage) := by
  have census : tallyAll [] image.frames.owners = .ok image.frames.census := by
    refine tallyAll_eq_ok ?_
    rw [image.frames.length_owners]
    decide
  rw [warnings, census, ok_bind, mapM_eq_ok fun s _ => countWarning?_eq_ok _ stage s, ok_bind,
    List.filterMap_map]
  rfl

/-! ## Frames -/

theorem isFreeAt_eq_ok {m : FrameMap} {i : Nat} (h : i < frameCount) :
    isFreeAt m i = .ok (m.owner? i = some .free) := by
  have inside : i < m.owners.length := m.length_owners ▸ h
  have owner : m.owner? i = some m.owners[i] := List.getElem?_eq_getElem inside
  rw [isFreeAt, item_eq_ok owner, ok_bind, owner]
  simp [Owner.isFree, pure, Except.pure]

/-- No frame is looked at that does not exist, whatever the bounds are. -/
theorem firstFree_eq_ok (m : FrameMap) (start stop : Nat) :
    firstFree m start stop = .ok (m.firstFree start stop) := by
  have looks : ∀ i ∈ List.range' start (min stop frameCount - start),
      isFreeAt m i = .ok (m.owner? i = some .free) := by
    intro i hi
    have range := List.mem_range'_1.mp hi
    exact isFreeAt_eq_ok (by omega)
  rw [firstFree, m.length_owners, findM?_eq_ok looks, FrameMap.firstFree_eq_find?]

theorem freeFrame_eq_ok (m : FrameMap) (check : Check) (stop : Nat) (rule : Nat → Rule) :
    freeFrame m check stop rule = .ok (m.freeFrame check stop rule) := by
  rw [freeFrame, firstFree_eq_ok, ok_bind, FrameMap.freeFrame]
  cases found : m.firstFree 0 stop with
  | none => rfl
  | some i =>
    have owner : m.owner? i = some .free := (FrameMap.firstFree_eq_some_iff.mp found).1.2.2
    simp only [item_eq_ok owner, ok_bind]
    rfl

/-! ## Address spaces -/

theorem firstOverlap_eq_ok {ss : List AddressSpace} (h : ss.length < 2 ^ 64) :
    firstOverlap ss = .ok (AddressSpace.firstOverlap ss) := by
  -- the walk is at the place behind `before`, with `r` still to come
  suffices walk : ∀ r before, before ++ r = ss →
      (r.zipIdx before.length).findSomeM? (overlapBehind ss) = .ok (AddressSpace.firstOverlap r) from
    walk ss [] rfl
  intro r
  induction r with
  | nil => exact fun _ _ => rfl
  | cons a r ih =>
    intro before split
    have rest := ih (before ++ [a]) (by simpa using split)
    have length : before.length + 1 ≤ ss.length := by simp [← split]
    have behind : ss.drop (before.length + 1) = r := by simp [← split]
    rw [List.length_append, List.length_singleton] at rest
    rw [List.zipIdx_cons, List.findSomeM?, overlapBehind, size_eq_ok (by omega), ok_bind,
      itemsFrom_eq_ok length, ok_bind, behind, AddressSpace.firstOverlap_cons]
    cases found : a.overlapWith r with
    | some o => rfl
    | none => exact rest

theorem stackPlacement_eq_ok (s : AddressSpace) (pid : UInt8) :
    stackPlacement s pid = .ok (s.stackPlacement pid) := by
  rw [stackPlacement, item_eq_ok s.entry?_stackPage]
  rfl

/-! ## Schedules -/

theorem stackInspection_eq_ok (s : AddressSpace) :
    stackInspection s = .ok (.stackPlacement s s.pid) := by
  rw [stackInspection, stackPlacement_eq_ok]
  rfl

theorem ownChecks_eq_ok {image : Image} (h : image.spaces.length < 2 ^ 64) (stage : Stage) :
    ownChecks image stage = .ok (stage.ownChecks image) := by
  cases stage with
  | one => rfl
  | two => rfl
  | three =>
    rw [ownChecks, freeFrame_eq_ok]
    rfl
  | four =>
    rw [ownChecks, freeFrame_eq_ok, ok_bind, firstOverlap_eq_ok h, ok_bind,
      mapM_eq_ok fun s _ => stackInspection_eq_ok s]
    rfl

theorem schedule_eq_ok {image : Image} (h : image.spaces.length < 2 ^ 64) (stage : Stage) :
    schedule stage image = .ok (stage.schedule image) := by
  rw [schedule, mapM_eq_ok fun s _ => ownChecks_eq_ok h s, ok_bind, Stage.schedule, List.flatMap_def]
  rfl

end PageAudit.Guarded
