import PageAudit.Audit.Session

/-!
# What a session keeps

Of all that is asked of a session two things are kept: the last width above zero and the last dump
that could be read. `Session.Keeps` says so of a session and the requests that led to it. One request
keeps it true whatever is asked (`Keeps.step`), so it is true at every point of a run, and what is
answered about the dump that is kept does not depend on anything that was asked besides.

* `step_width`, `step_dump`: what one request changes;
* `Keeps.run`: every request of a run meets a session that keeps what the requests before it gave;
* `answer_audited`: the answer about the dump that is kept;
* `run_keeps_last`: all of this for a run from the start.
-/
namespace PageAudit

/-! ## What requests give -/

/-- The width that a request asks for. Zero asks for none. -/
def Request.width? : Request → Option Nat
  | .width n => if 0 < n then some n else none
  | _ => none

/-- The dump that a request gives to keep. A log that cannot be read gives none. -/
def Request.dump? : Request → Option Dump
  | .load log => (Dump.parse log).toOption
  | .loadDump d => some d
  | _ => none

/-- The last width that was asked for, or the width that a session starts with. -/
def lastWidth (told : List Request) : Nat := (told.filterMap Request.width?).getLast?.getD 64

/-- The last dump that was given to keep. -/
def lastDump? (told : List Request) : Option Dump := (told.filterMap Request.dump?).getLast?

section
variable {told : List Request} {r : Request}

theorem lastWidth_concat : lastWidth (told ++ [r]) = r.width?.getD (lastWidth told) := by
  rw [lastWidth, List.filterMap_append]
  cases h : r.width? with
  | none => simp [h, lastWidth]
  | some n => simp [h]

theorem lastDump?_concat : lastDump? (told ++ [r]) = r.dump?.or (lastDump? told) := by
  rw [lastDump?, List.filterMap_append]
  cases h : r.dump? with
  | none => simp [h, lastDump?]
  | some d => simp [h]

end

/-- An auditor is nothing but its width. -/
theorem Auditor.withWidth_width (a b : Auditor) : a.withWidth b.width = b := by
  obtain ⟨w, pos⟩ := b
  simp [withWidth, Width.orKeep, pos]

theorem Stage.number_of_ofNumber {n : UInt8} {g : Stage} (h : ofNumber n = .ok g) :
    g.number = n := by
  unfold ofNumber at h
  split at h <;> cases h <;> rfl

theorem Stage.eq_unknownStage_of_ofNumber {n : UInt8} {f : Fault} (h : ofNumber n = .error f) :
    f = .unknownStage n := by
  unfold ofNumber at h
  split at h <;> cases h
  rfl

namespace Session

/-! ## One request -/

variable {s : Session} {told : List Request}

/-- A log that cannot be read changes nothing. -/
theorem step_load_of_error {log : Text} {f : Fault} (h : Dump.parse log = .error f) :
    s.step (.load log) = (s, .refused f) := by
  simp only [step, h]

theorem step_load_of_ok {log : Text} {d : Dump} (h : Dump.parse log = .ok d) :
    s.step (.load log) = ({ s with dump := some d }, .done) := by
  simp only [step, h]

theorem step_width (s : Session) (r : Request) :
    (s.step r).1.auditor.width.val = r.width?.getD s.auditor.width := by
  cases r with
  | width n =>
    by_cases h : 0 < n
    · simp [step, Request.width?, Auditor.withWidth, Width.orKeep, h]
    · simp [step, Request.width?, Auditor.withWidth, Width.orKeep, h]
  | load log =>
    cases h : Dump.parse log with
    | error f =>
      rw [step_load_of_error h]
      rfl
    | ok d =>
      rw [step_load_of_ok h]
      rfl
  | _ => rfl

theorem step_dump (s : Session) (r : Request) : (s.step r).1.dump = r.dump?.or s.dump := by
  cases r with
  | load log =>
    cases h : Dump.parse log with
    | error f => simp [step_load_of_error h, Request.dump?, h, Except.toOption]
    | ok d => simp [step_load_of_ok h, Request.dump?, h, Except.toOption]
  | _ => rfl

/-- A session that keeps the last width and the last dump of what it was told. -/
structure Keeps (told : List Request) (s : Session) : Prop where
  width : s.auditor.width.val = lastWidth told
  dump : s.dump = lastDump? told

theorem keeps_start : Keeps [] start := ⟨rfl, rfl⟩

theorem Keeps.step (h : Keeps told s) (r : Request) : Keeps (told ++ [r]) (s.step r).1 := by
  refine ⟨?_, ?_⟩
  · rw [step_width, lastWidth_concat, h.width]
  · rw [step_dump, lastDump?_concat, h.dump]

/-! ## The answer about the dump that is kept -/

/-- What is answered when the dump that is kept is to be audited at the stage with the number `n`: the
report of an auditor that has just been given the width `w`. -/
inductive Audited (w : Nat) (kept : Option Dump) (n : UInt8) : Answer → Prop
  | unknownStage (unknown : ∀ g : Stage, g.number ≠ n) : Audited w kept n (.refused (.unknownStage n))
  | noDump {g : Stage} (known : g.number = n) (none : kept = none) : Audited w kept n .noDump
  | report {g : Stage} {d : Dump} (known : g.number = n) (some : kept = some d) :
      Audited w kept n
        (.report ((Auditor.default.withWidth w).auditDump g ⟨d.physical, d.virtuals⟩))

theorem answer_audited (h : Keeps told s) (n : UInt8) :
    Audited (lastWidth told) (lastDump? told) n (s.step (.audit n)).2 := by
  rw [← h.width, ← h.dump]
  simp only [step, withStage, withDump]
  cases hn : Stage.ofNumber n with
  | error f =>
    obtain rfl := Stage.eq_unknownStage_of_ofNumber hn
    refine .unknownStage ?_
    rintro g rfl
    rw [Stage.ofNumber_number] at hn
    cases hn
  | ok g =>
    cases hd : s.dump with
    | none => exact .noDump (Stage.number_of_ofNumber hn) rfl
    | some d =>
      have report := Audited.report (w := s.auditor.width) (Stage.number_of_ofNumber hn)
        (Eq.refl (some d))
      rwa [Auditor.withWidth_width] at report

/-! ## A run -/

/-- The session that a run begins with and those that its requests leave behind. -/
def states (s : Session) (rs : List Request) : List Session := s :: (s.run rs).map Prod.fst

/-- Each request of a run is put to the session that the requests before it left behind. -/
theorem Keeps.run (h : Keeps told s) {rs : List Request} {i : Nat} {r : Request}
    (hr : rs[i]? = some r) :
    ∃ before, (s.states rs)[i]? = some before ∧ (s.run rs)[i]? = some (before.step r) ∧
      Keeps (told ++ rs.take i) before := by
  induction rs generalizing s told i with
  | nil => cases hr
  | cons q rs ih =>
    cases i with
    | zero =>
      obtain rfl := Option.some.inj hr
      exact ⟨s, rfl, rfl, by simpa using h⟩
    | succ i =>
      obtain ⟨before, at_i, answered, keeps⟩ := ih (h.step q) hr
      refine ⟨before, at_i, answered, ?_⟩
      rwa [List.take_succ_cons, List.append_cons]

/-- After each request of a run from the start the width is the last one above zero that was asked
for, 64 before there is one, and the dump is the last one that was given and could be read. A log that
cannot be read is refused with its fault and leaves the session as it was; so does every request
that is not about the width or a dump to keep. When the dump that is kept is to be audited, the answer
is that of an auditor which has just been given this width, on the texts of this dump. -/
theorem run_keeps_last (rs : List Request) {i : Nat} {r : Request} (hr : rs[i]? = some r) :
    ∃ before after answer, (start.states rs)[i]? = some before ∧
      (start.run rs)[i]? = some (after, answer) ∧
      (after.auditor.width.val = lastWidth (rs.take (i + 1)) ∧ 1 ≤ after.auditor.width.val) ∧
      after.dump = lastDump? (rs.take (i + 1)) ∧
      (∀ log f, r = .load log → Dump.parse log = .error f →
        after = before ∧ answer = .refused f) ∧
      ((∀ n, r ≠ .width n) → (∀ log, r ≠ .load log) → (∀ d, r ≠ .loadDump d) → after = before) ∧
      ∀ n, r = .audit n → Audited (lastWidth (rs.take i)) (lastDump? (rs.take i)) n answer := by
  obtain ⟨before, at_i, answered, keeps⟩ := keeps_start.run hr
  rw [List.nil_append] at keeps
  have told : rs.take (i + 1) = rs.take i ++ [r] := by
    rw [List.take_add_one, hr]
    rfl
  have next := keeps.step r
  rw [← told] at next
  refine ⟨before, (before.step r).1, (before.step r).2, at_i, answered,
    ⟨next.width, (before.step r).1.auditor.width.2⟩, next.dump, ?_, ?_, ?_⟩
  · rintro log f rfl fault
    rw [step_load_of_error fault]
    exact ⟨rfl, rfl⟩
  · intro notWidth notLoad notDump
    cases r with
    | width n => exact absurd rfl (notWidth n)
    | load log => exact absurd rfl (notLoad log)
    | loadDump d => exact absurd rfl (notDump d)
    | _ => rfl
  · rintro n rfl
    exact answer_audited keeps n

/-- A width of zero and a log that cannot be read come between a dump and its audit, which is still in
rows of seven pages. -/
theorem run_keeps_last_between_refusals :
    let d : Dump := ⟨"KK".toList, #v[[], [], [], []]⟩
    let rs : List Request :=
      [.width 7, .loadDump d, .width 0, .load "panic".toList, .viewRows, .audit 2]
    (∃ before, (start.run rs)[3]? = some (before,
        .refused (.badHeader 0 "Starting WeensyOS".toList "panic".toList)) ∧
      before.auditor.width.val = 7 ∧ before.dump = some d) ∧
    ∃ after, (start.run rs)[5]? = some (after,
      .report (Auditor.auditDump ⟨⟨7, by decide⟩⟩ .two d)) ∧ after.dump = some d := by
  intro d rs
  have fault : Dump.parse "panic".toList =
      .error (.badHeader 0 "Starting WeensyOS".toList "panic".toList) := by rfl
  refine ⟨?_, ?_⟩
  · obtain ⟨before, after, answer, -, answered, ⟨width, -⟩, dump, refused, -⟩ :=
      run_keeps_last rs (i := 3) rfl
    obtain ⟨-, rfl⟩ := refused _ _ rfl fault
    exact ⟨after, answered, width, dump⟩
  · obtain ⟨before, after, answer, -, answered, -, dump, -, -, audited⟩ :=
      run_keeps_last rs (i := 5) rfl
    refine ⟨after, ?_, dump⟩
    cases audited 2 rfl with
    | unknownStage unknown => exact absurd rfl (unknown .two)
    | noDump _ none => cases none
    | @report g e known some =>
      obtain rfl : d = e := Option.some.inj some
      cases g with
      | two => exact answered
      | _ => cases known

end Session

end PageAudit
