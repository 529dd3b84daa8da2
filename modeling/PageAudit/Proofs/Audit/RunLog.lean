import PageAudit.Proofs.Audit.Endings
import PageAudit.Proofs.Audit.FirstOverlap

/-!
# The log of a run

The log of an audit tells which checks were carried out and how it ended. `Traced` says what it
consists of: the checks of a stage are given by name (`Stage.course`), without the memory that
they look at, and a run goes through them up to the one that its violation names. The overlap that is
remarked on is the first one (`Dump.FirstClash`), since pairs of processes are searched in their
order and pages from the first one on.

* `firstOverlap_least`: the overlap that is found is the first of all;
* `Inspection.trace_of_violation`: inspections log the course that they follow, up to a violation;
* `Dump.schedule_follows`: the inspections of a dump follow the course of the stage;
* `Auditor.auditLog_traced`: the log of the audit of any log.
-/
namespace PageAudit

open Text

/-! ## The first overlap -/

/-- The order in which overlaps are looked for: by the first of a pair, by the second, by page. -/
def OverlapSite.NotAfter (o o' : OverlapSite) : Prop :=
  o.first < o'.first ∨ o.first = o'.first ∧
    (o.second < o'.second ∨ o.second = o'.second ∧ o.page ≤ o'.page)

/-- Whether an overlap is one of the given address spaces, the first of which comes before the second
by number. -/
def OverlapSite.Among (ss : List AddressSpace) (o : OverlapSite) : Prop :=
  ∃ a ∈ ss, ∃ b ∈ ss, (a.pid = o.first ∧ b.pid = o.second ∧ o.first < o.second) ∧
    ConflictAt a.entry? b.entry? o.page

/-- Where the numbers ascend they give the places. -/
theorem pid_lt_iff_of_ascending {ss : List AddressSpace}
    (ascending : ss.Pairwise fun a b => a.pid < b.pid) {i j : Nat} {a b : AddressSpace}
    (ha : ss[i]? = some a) (hb : ss[j]? = some b) : a.pid < b.pid ↔ i < j := by
  obtain ⟨hi, rfl⟩ := List.getElem?_eq_some_iff.mp ha
  obtain ⟨hj, rfl⟩ := List.getElem?_eq_some_iff.mp hb
  have order := List.pairwise_iff_getElem.mp ascending
  refine ⟨fun lt => ?_, order i j hi hj⟩
  rcases Nat.lt_trichotomy i j with earlier | rfl | later
  · exact earlier
  · exact absurd lt (UInt8.lt_irrefl _)
  · exact absurd lt (UInt8.lt_asymm (order j i hj hi later))

/-- In address spaces by ascending numbers the overlap that is found is the first of all. -/
theorem firstOverlap_least {ss : List AddressSpace} {o : OverlapSite}
    (ascending : ss.Pairwise fun a b => a.pid < b.pid) (h : AddressSpace.firstOverlap ss = some o) :
    o.Among ss ∧ ∀ o' : OverlapSite, o'.Among ss → o.NotAfter o' := by
  obtain ⟨i, j, a, b, lt, ha, hb, first, second, page, least⟩ := AddressSpace.firstOverlap_first h
  have pids := (pid_lt_iff_of_ascending ascending ha hb).mpr lt
  refine ⟨⟨a, List.mem_of_getElem? ha, b, List.mem_of_getElem? hb, ⟨first.symm, second.symm, ?_⟩,
    page.1⟩, ?_⟩
  · rwa [first, second]
  rintro ⟨p, q, n⟩ ⟨a', ha', b', hb', ⟨rfl, rfl, pids'⟩, clash⟩
  obtain ⟨i', hi'⟩ := List.mem_iff_getElem?.mp ha'
  obtain ⟨j', hj'⟩ := List.mem_iff_getElem?.mp hb'
  have lt' : i' < j' := (pid_lt_iff_of_ascending ascending hi' hj').mp pids'
  unfold OverlapSite.NotAfter
  rw [first, second]
  rcases least i' j' ⟨lt', a', b', hi', hj', n, clash⟩ with earlier | ⟨rfl, notLater⟩
  · exact .inl ((pid_lt_iff_of_ascending ascending ha hi').mpr earlier)
  obtain rfl : a = a' := Option.some.inj (ha.symm.trans hi')
  rcases Nat.lt_or_eq_of_le notLater with earlier | rfl
  · exact .inr ⟨rfl, .inl ((pid_lt_iff_of_ascending ascending hb hj').mpr earlier)⟩
  · obtain rfl : b = b' := Option.some.inj (hb.symm.trans hj')
    exact .inr ⟨rfl, .inr ⟨rfl, page.2 clash⟩⟩

/-! ## The course of a stage -/

/-- What the log says of a check when it begins, and of which process it is if it is that of one. -/
def Check.announcement (c : Check) (pid : Option UInt8) : Text :=
  let process := pid.elim [] fun p => decimal p.toNat
  match c with
  | countConsistency => []
  | kernelIsolation => "checking kernel isolation for process ".toList ++ process
  | processIsolation => "checking process isolation for process ".toList ++ process
  | allocationProgress => "checking that frames 0..391 are allocated".toList
  | exhaustion => "checking that physical memory is exhausted".toList
  | overlap => "checking for overlapping address spaces".toList
  | stackPlacement => "checking stack placement for process ".toList ++ process

/-- The checks that a stage adds, in order, each with the process that it is of. -/
def Stage.ownCourse : Stage → List (Check × Option UInt8)
  | .one => [1, 2, 3, 4].map fun p => (.kernelIsolation, some p)
  | .two => [1, 2, 3, 4].map fun p => (.processIsolation, some p)
  | .three => [(.allocationProgress, none)]
  | .four =>
    [(.exhaustion, none), (.overlap, none)] ++ [1, 2, 3, 4].map fun p => (.stackPlacement, some p)

/-- The checks of a stage in order: those of the stages up to it. -/
def Stage.course (g : Stage) : List (Check × Option UInt8) :=
  ([.one, .two, .three, .four].filter fun t : Stage => t.number ≤ g.number).flatMap Stage.ownCourse

/-- What a check adds to the log: that it begins, and what is remarked if it is that of overlap. -/
def checkRecords (remark : Option Text) (x : Check × Option UInt8) : List Record :=
  ⟨.debug, x.1.announcement x.2⟩ ::
    if x.1 = .overlap then remark.toList.map (Record.mk .debug) else []

/-- Whether an inspection is the check `x`: it is announced as that check, only that of overlap has
a remark, and a violation that it finds names the check and its process. -/
structure Inspection.Follows (remark : Option Text) (x : Check × Option UInt8) (i : Inspection) :
    Prop where
  records : i.records = checkRecords remark x
  names : ∀ v, i.violation = some v → (v.check, v.pid) = x

section
variable {remark : Option Text} {xs : List (Check × Option UInt8)} {is : List Inspection}

/-- What inspections log that find nothing. -/
theorem Inspection.trace_of_clean (follows : List.Forall₂ (Follows remark) xs is)
    (clean : firstViolation is = none) : trace is = xs.flatMap (checkRecords remark) := by
  induction follows with
  | nil => rfl
  | @cons x i xs is hxi _ ih =>
    obtain ⟨here, rest⟩ : i.violation = none ∧ firstViolation is = none := by
      simpa [firstViolation] using clean
    rw [trace, here, hxi.records, List.flatMap_cons, ← ih rest]
    rfl

/-- What inspections log that find a violation: all up to the check that it names. -/
theorem Inspection.trace_of_violation (follows : List.Forall₂ (Follows remark) xs is) {v : Violation}
    (found : firstViolation is = some v) :
    ∃ before behind, xs = before ++ (v.check, v.pid) :: behind ∧
      trace is = (before ++ [(v.check, v.pid)]).flatMap (checkRecords remark) := by
  induction follows with
  | nil => cases found
  | @cons x i xs is hxi _ ih =>
    rw [firstViolation, List.findSome?_cons] at found
    cases here : i.violation with
    | some w =>
      rw [here] at found
      obtain rfl := Option.some.inj found
      refine ⟨[], xs, by rw [hxi.names _ here]; rfl, ?_⟩
      rw [trace, here, hxi.names _ here, hxi.records]
      simp
    | none =>
      rw [here] at found
      obtain ⟨before, behind, rfl, traced⟩ := ih found
      refine ⟨x :: before, behind, rfl, ?_⟩
      rw [trace, here, hxi.records, List.cons_append, List.flatMap_cons, ← traced]
      rfl

end

/-! ## The inspections -/

namespace Inspection

variable (remark : Option Text)

theorem kernelIsolation_follows (s : AddressSpace) :
    (kernelIsolation s).Follows remark (.kernelIsolation, some s.pid) := by
  refine ⟨rfl, ?_⟩
  intro v found
  obtain ⟨⟨i, e, r, -, -, rfl⟩, -⟩ := s.kernelIsolation_finds.first v found
  rfl

theorem processIsolation_follows (s : AddressSpace) :
    (processIsolation s s.pid).Follows remark (.processIsolation, some s.pid) := by
  refine ⟨rfl, ?_⟩
  intro v found
  obtain ⟨⟨i, e, r, -, -, -, rfl⟩, -⟩ := (s.processIsolation_finds s.pid).first v found
  rfl

theorem allocationProgress_follows (m : FrameMap) :
    (allocationProgress m).Follows remark (.allocationProgress, none) := by
  refine ⟨rfl, ?_⟩
  intro v found
  obtain ⟨⟨i, -, -, rfl⟩, -⟩ := (m.freeFrame_finds _ _ _).first v found
  rfl

theorem exhaustion_follows (m : FrameMap) :
    (exhaustion m).Follows remark (.exhaustion, none) := by
  refine ⟨rfl, ?_⟩
  intro v found
  obtain ⟨⟨i, -, -, rfl⟩, -⟩ := (m.freeFrame_finds _ _ _).first v found
  rfl

theorem overlap_follows (ss : List AddressSpace) :
    (overlap ss).Follows (overlap ss).remark (.overlap, none) := by
  refine ⟨rfl, ?_⟩
  intro v found
  obtain ⟨⟨-, rfl⟩, -⟩ := (AddressSpace.overlap_finds ss).first v found
  rfl

theorem stackPlacement_follows (s : AddressSpace) :
    (stackPlacement s s.pid).Follows remark (.stackPlacement, some s.pid) := by
  refine ⟨rfl, ?_⟩
  intro v found
  obtain ⟨⟨e, -, -, rfl⟩, -⟩ := (s.stackPlacement_finds s.pid).first v found
  rfl

end Inspection

/-! ## The checks of a dump -/

namespace Dump

/-- Whether two processes, the first with the lower number, map page `i` to different owners. -/
def Clash (d : Dump) (p q : UInt8) (i : Nat) : Prop :=
  (p ∈ processIds ∧ q ∈ processIds ∧ p < q) ∧
    ConflictAt (Entry.at? (d.virtualOf p)) (Entry.at? (d.virtualOf q)) i

/-- Whether no two processes clash before these two, and these two at no page before this one. -/
def FirstClash (d : Dump) (p q : UInt8) (i : Nat) : Prop :=
  d.Clash p q i ∧ ∀ p' q' i', d.Clash p' q' i' →
    p < p' ∨ p = p' ∧ (q < q' ∨ q = q' ∧ i ≤ i')

/-- What is remarked of the address spaces of a dump. -/
inductive OverlapRemark (d : Dump) : Option Text → Prop
  | disjoint (apart : ∀ p q i, ¬ d.Clash p q i) : OverlapRemark d none
  | clash {p q : UInt8} {i : Nat} (first : d.FirstClash p q i) :
      OverlapRemark d (some ("processes ".toList ++ decimal p.toNat ++ " and ".toList ++
        decimal q.toNat ++ " overlap at virtual page ".toList ++ decimal i))

variable {d : Dump} {image : Image} (h : d.decode = .ok image)
include h

theorem among_iff_clash {o : OverlapSite} :
    o.Among image.spaces ↔ d.Clash o.first o.second o.page := by
  constructor
  · intro among
    obtain ⟨a, ha, b, hb, ⟨hfirst, hsecond, order⟩, conflict⟩ := among
    obtain ⟨hp, hentry⟩ := entry?_of_decode h ha
    obtain ⟨hq, hentry'⟩ := entry?_of_decode h hb
    rw [hentry, hentry', hfirst, hsecond] at conflict
    exact ⟨⟨hfirst ▸ hp, hsecond ▸ hq, order⟩, conflict⟩
  · intro clash
    obtain ⟨⟨hp, hq, order⟩, conflict⟩ := clash
    obtain ⟨a, ha, hfirst, hentry⟩ := exists_space_of_pid h hp
    obtain ⟨b, hb, hsecond, hentry'⟩ := exists_space_of_pid h hq
    rw [← hentry, ← hentry'] at conflict
    exact ⟨a, ha, b, hb, ⟨hfirst, hsecond, order⟩, conflict⟩

/-- The remark of the check of overlap names the first clash of all. -/
theorem overlapRemark_of_decode : d.OverlapRemark (Inspection.overlap image.spaces).remark := by
  have ascending : image.spaces.Pairwise fun a b => a.pid < b.pid :=
    (ascending_of_decode h).imp UInt8.lt_iff_toNat_lt.mpr
  unfold Inspection.overlap
  cases found : AddressSpace.firstOverlap image.spaces with
  | none =>
    refine .disjoint ?_
    intro p q i clash
    obtain ⟨a, ha, b, hb, ⟨hfirst, hsecond, order⟩, conflict⟩ :=
      (among_iff_clash h (o := ⟨p, q, i⟩)).mpr clash
    obtain ⟨⟨unmet, -⟩, -⟩ :=
      (AddressSpace.overlap_finds image.spaces).first _ (congrArg AddressSpace.missingOverlap found)
    exact unmet ⟨a, ha, b, hb, i, conflict⟩
  | some o =>
    obtain ⟨among, least⟩ := firstOverlap_least ascending found
    refine .clash ⟨(among_iff_clash h).mp among, ?_⟩
    intro p q i clash
    exact least ⟨p, q, i⟩ ((among_iff_clash h).mpr clash)

/-- A check that is carried out for the address space of each process. -/
theorem follows_spaces {remark : Option Text} {check : Check} {inspect : AddressSpace → Inspection}
    (each : ∀ s : AddressSpace, (inspect s).Follows remark (check, some s.pid)) :
    List.Forall₂ (Inspection.Follows remark) ([1, 2, 3, 4].map fun p => (check, some p))
      (image.spaces.map inspect) := by
  have ids : image.spaces.map (·.pid) = [1, 2, 3, 4] := pids_of_decode h
  rw [← ids, List.map_map, List.forall₂_map_left_iff, List.forall₂_map_right_iff]
  exact List.forall₂_same.mpr fun s _ => each s

/-- The checks of a stage are those of its course. -/
theorem schedule_follows (g : Stage) :
    List.Forall₂ (Inspection.Follows (Inspection.overlap image.spaces).remark) g.course
      (g.schedule image) := by
  refine List.rel_flatMap (List.forall₂_same.mpr fun _ _ => rfl) ?_
  rintro t _ rfl
  cases t with
  | one => exact follows_spaces h (Inspection.kernelIsolation_follows _)
  | two => exact follows_spaces h (Inspection.processIsolation_follows _)
  | three => exact .cons (Inspection.allocationProgress_follows _ image.frames) .nil
  | four =>
    exact .cons (Inspection.exhaustion_follows _ image.frames) <|
      .cons (Inspection.overlap_follows image.spaces) <|
        follows_spaces h (Inspection.stackPlacement_follows _)

end Dump

/-! ## The log of a run -/

/-- What the log of a run begins with that went through the checks `xs`. -/
def opening (g : Stage) (warnings : List CountWarning) (remark : Option Text)
    (xs : List (Check × Option UInt8)) : List Record :=
  ⟨.info, "grading ".toList ++ g.describe⟩ :: warnings.map (fun w => ⟨.warn, w.describe⟩) ++
    xs.flatMap (checkRecords remark)

/-- The log of a run that came to the verdict `v` on a log with these lines. -/
inductive Traced (g : Stage) (ls : List Text) (v : Verdict) : List Record → Prop
  /-- The dumps cannot be told apart. -/
  | unread {f : Fault} (unreadable : ¬ Dump.WellFormed ls) (fault : v.fault? = some f) :
      Traced g ls v [⟨.error, f.message⟩]
  /-- The dumps can be told apart, but one of them cannot be read: no check is carried out. -/
  | undecoded {d : Dump} {f : Fault} (read : Dump.ofLines ls = .ok d) (unsized : ¬ d.WellSized)
      (fault : v.fault? = some f) :
      Traced g ls v [⟨.info, "grading ".toList ++ g.describe⟩, ⟨.error, f.message⟩]
  /-- All checks are carried out. -/
  | passed {d : Dump} {remark : Option Text} (read : Dump.ofLines ls = .ok d) (sized : d.WellSized)
      (remarked : d.OverlapRemark remark) (success : v.passed = true) :
      Traced g ls v
        (opening g v.warnings remark g.course ++ [⟨.info, g.describe ++ " passed".toList⟩])
  /-- The checks are carried out up to the one that the violation names. -/
  | violated {d : Dump} {remark : Option Text} {x : Violation} {before behind}
      (read : Dump.ofLines ls = .ok d) (sized : d.WellSized) (remarked : d.OverlapRemark remark)
      (violation : v.violation? = some x) (course : g.course = before ++ (x.check, x.pid) :: behind) :
      Traced g ls v
        (opening g v.warnings remark (before ++ [(x.check, x.pid)]) ++ [⟨.error, x.describe⟩])

theorem level_ne_error_of_mem_opening {g : Stage} {ws : List CountWarning} {remark : Option Text}
    {xs : List (Check × Option UInt8)} {rec : Record} (h : rec ∈ opening g ws remark xs) :
    rec.level ≠ .error := by
  rcases List.mem_append.mp h with h | h
  · rcases List.mem_cons.mp h with rfl | h
    · exact Level.noConfusion
    · obtain ⟨w, -, rfl⟩ := List.mem_map.mp h
      exact Level.noConfusion
  · obtain ⟨x, -, h⟩ := List.mem_flatMap.mp h
    rcases List.mem_cons.mp h with rfl | h
    · exact Level.noConfusion
    · split at h
      · obtain ⟨t, -, rfl⟩ := List.mem_map.mp h
        exact Level.noConfusion
      · cases h

/-- A run is not a success exactly if its log ends with an error, and there is no error before. -/
theorem Traced.levels {g : Stage} {ls : List Text} {v : Verdict} {t : List Record}
    (h : Traced g ls v t) : ∃ before last, t = before ++ [last] ∧
      (∀ rec ∈ before, rec.level ≠ .error) ∧ (last.level = .error ↔ v.passed = false) := by
  have failed : v.passed = false ↔ v.fault? ≠ none ∨ v.violation? ≠ none := by
    rw [← Bool.not_eq_true, Verdict.passed_eq_true_iff]
    tauto
  cases h with
  | unread _ fault =>
    refine ⟨[], _, rfl, by simp, ?_⟩
    simp [failed, fault]
  | undecoded _ _ fault =>
    refine ⟨[_], _, rfl, by simp, ?_⟩
    simp [failed, fault]
  | passed _ _ _ success =>
    refine ⟨_, _, rfl, fun _ => level_ne_error_of_mem_opening, ?_⟩
    simp [success]
  | violated _ _ _ violation _ =>
    refine ⟨_, _, rfl, fun _ => level_ne_error_of_mem_opening, ?_⟩
    simp [failed, violation]

namespace Auditor

variable {a : Auditor} {g : Stage} {ls : List Text} {d : Dump}

theorem traced_auditDump (read : Dump.ofLines ls = .ok d) :
    Traced g ls (a.auditDump g d).verdict (a.auditDump g d).trace := by
  cases hd : d.decode with
  | error f =>
    have unsized : ¬ d.WellSized := by
      intro sized
      obtain ⟨image, decoded⟩ := Dump.exists_decode_iff.mpr sized
      cases hd.symm.trans decoded
    simp only [auditDump, hd]
    exact .undecoded read unsized rfl
  | ok image =>
    have sized : d.WellSized := Dump.exists_decode_iff.mp ⟨image, hd⟩
    have remarked := Dump.overlapRemark_of_decode hd
    have follows := Dump.schedule_follows hd g
    simp only [auditDump, hd, traceImage]
    cases found : Inspection.firstViolation (g.schedule image) with
    | none =>
      rw [Inspection.trace_of_clean follows found]
      exact .passed read sized remarked rfl
    | some x =>
      obtain ⟨before, behind, course, traced⟩ := Inspection.trace_of_violation follows found
      rw [traced]
      exact .violated read sized remarked rfl course

/-- The log of the audit of a log tells what was carried out, and no check is carried out twice. An
audit is not a success exactly if its log has an error, and then the error is its last record. -/
theorem auditLog_traced (a : Auditor) (g : Stage) {log : Text} {ls : List Text}
    (h : BreaksInto log ls) :
    Traced g ls (a.auditLog g log).verdict (a.auditLog g log).trace ∧ g.course.Nodup ∧
    ((∃ rec ∈ (a.auditLog g log).trace, rec.level = .error) ↔
      (a.auditLog g log).verdict.passed = false) ∧
    ∃ before last, (a.auditLog g log).trace = before ++ [last] ∧
      ∀ rec ∈ before, rec.level ≠ .error := by
  have traced : Traced g ls (a.auditLog g log).verdict (a.auditLog g log).trace := by
    cases hd : Dump.ofLines ls with
    | error f =>
      have parsed : Dump.parse log = .error f := (Dump.parse_of_breaksInto h).trans hd
      have unreadable : ¬ Dump.WellFormed ls := by
        intro wellFormed
        cases hd.symm.trans (Dump.ofLines_eq_ok_iff.mpr ⟨wellFormed, rfl⟩)
      simp only [auditLog, parsed]
      exact .unread unreadable rfl
    | ok d =>
      rw [auditLog_of_parse ((Dump.parse_of_breaksInto h).trans hd)]
      exact traced_auditDump hd
  obtain ⟨before, last, split, quiet, failed⟩ := traced.levels
  refine ⟨traced, ?_, ?_, before, last, split, quiet⟩
  · cases g <;> decide
  · rw [← failed, split]
    constructor
    · intro logged
      obtain ⟨rec, among, level⟩ := logged
      rcases List.mem_append.mp among with among | among
      · exact absurd level (quiet rec among)
      · rwa [← List.mem_singleton.mp among]
    · intro level
      exact ⟨last, List.mem_append_right before List.mem_cons_self, level⟩

/-- If all pages have the tag and the flag `x`, the check of the first process fails, and the audit of
the printed dump logs no other. -/
theorem auditLog_traced_on_uniform_pages :
    let d : Dump := ⟨List.replicate 512 'K', Vector.replicate 4 (List.replicate 1536 'x')⟩
    let x : Violation := .atPage .kernelIsolation 1 184 ⟨.other 'x', false⟩ .console
    BreaksInto (unlines d.lines) d.lines ∧ (default.auditLog .one (unlines d.lines)).trace =
      [⟨.info, "grading stage 1".toList⟩,
        ⟨.debug, "checking kernel isolation for process 1".toList⟩, ⟨.error, x.describe⟩] := by
  intro d x
  have broken : BreaksInto (unlines d.lines) d.lines :=
    breaksInto_iff.mpr (lines_unlines (by decide +kernel))
  have verdict : (default.auditLog .one (unlines d.lines)).verdict = .graded [] (some x) := by
    decide +kernel
  obtain ⟨traced, nodup, -, -⟩ := auditLog_traced default .one broken
  refine ⟨broken, ?_⟩
  rw [verdict] at traced
  generalize (default.auditLog .one (unlines d.lines)).trace = t at traced
  cases traced with
  | unread _ fault => cases fault
  | undecoded _ _ fault => cases fault
  | passed _ _ _ success => cases success
  | @violated _ remark _ before behind _ _ _ violation course =>
    obtain rfl := Option.some.inj violation
    -- the check that the violation names is the first of the course, and stands there once
    cases before with
    | nil => rfl
    | cons y before =>
      rw [course] at nodup
      obtain rfl : y = (x.check, x.pid) := (List.cons.inj course).1.symm
      simp at nodup

end Auditor

end PageAudit
