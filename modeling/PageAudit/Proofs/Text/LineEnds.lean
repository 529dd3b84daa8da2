import PageAudit.Proofs.Text.LineBreaks

/-!
# Texts written line by line

A text that was put together from lines breaks into those lines again, as long as each of them
fits on a line, that is holds no line feed and does not end in a carriage return. How the lines
are ended, by a line feed alone or after a carriage return, leaves no mark on them.

* `breaksInto_unlinesWith`: the lines come back whatever ends them;
* `take_lines_unlines_iff`: lines come back from `unlines` only if they fit.
-/
namespace PageAudit.Text

/-- Whether a text can stand on a line of its own and come back as it was. -/
def FitsLine (l : Text) : Prop := '\n' ∉ l ∧ l.getLast? ≠ some '\r'

instance : DecidablePred FitsLine := fun _ => inferInstanceAs (Decidable (_ ∧ _))

/-! ## Two ends of a line -/

/-- What can end a line. -/
inductive LineEnd
  | feed
  | returnFeed
  deriving DecidableEq, Repr

/-- The characters of a line end. -/
def LineEnd.text : LineEnd → Text
  | feed => ['\n']
  | returnFeed => ['\r', '\n']

/-- The text made of the lines, the line of each number ended as `ends` says. -/
def unlinesWith (ends : Nat → LineEnd) (ls : List Text) : Text :=
  (ls.mapIdx fun n l => l ++ (ends n).text).flatten

theorem unlinesWith_cons (ends : Nat → LineEnd) (l : Text) (ls : List Text) :
    unlinesWith ends (l :: ls) = l ++ (ends 0).text ++ unlinesWith (fun n => ends (n + 1)) ls := by
  simp [unlinesWith, List.mapIdx_cons]

theorem breaksInto_unlinesWith {ls : List Text} (h : ∀ l ∈ ls, FitsLine l)
    (ends : Nat → LineEnd) : BreaksInto (unlinesWith ends ls) ls := by
  induction ls generalizing ends with
  | nil => exact .nothing
  | cons l ls ih =>
    obtain ⟨hfeed, hreturn⟩ := h l List.mem_cons_self
    have rest := ih (fun m hm => h m (List.mem_cons_of_mem l hm)) fun n => ends (n + 1)
    rw [unlinesWith_cons, List.append_assoc]
    cases ends 0 with
    | feed => exact .feed hfeed hreturn rest
    | returnFeed => exact .returnFeed hfeed rest

/-! ## Lines that do not fit -/

theorem BreaksInto.no_feed {t : Text} {ls : List Text} (h : BreaksInto t ls) :
    ∀ l ∈ ls, '\n' ∉ l := by
  induction h with
  | nothing => simp
  | unended _ hl => simpa using hl
  | feed hl _ _ ih => exact List.forall_mem_cons.mpr ⟨hl, ih⟩
  | returnFeed hl _ ih => exact List.forall_mem_cons.mpr ⟨hl, ih⟩

theorem dropReturn_eq_self_iff {l : Text} : dropReturn l = l ↔ l.getLast? ≠ some '\r' := by
  refine ⟨?_, dropReturn_of_getLast?⟩
  intro h hreturn
  obtain ⟨m, rfl⟩ := List.getLast?_eq_some_iff.mp hreturn
  rw [dropReturn_append_return] at h
  simpa using congrArg List.length h

/-- The lines that were written are the first lines of the text, whatever follows them, exactly
if each of them fits on a line. -/
theorem take_lines_unlines_iff {ls : List Text} {t : Text} :
    (lines (unlines ls ++ t)).take ls.length = ls ↔ ∀ l ∈ ls, FitsLine l := by
  constructor
  · intro h
    induction ls with
    | nil => simp
    | cons l ls ih =>
      -- a line that comes back as the first one holds no line feed, since no line does
      have hfeed : '\n' ∉ l := by
        have hl : l ∈ (lines (unlines (l :: ls) ++ t)).take (l :: ls).length := by
          rw [h]
          exact List.mem_cons_self
        exact (breaksInto_lines _).no_feed l (List.mem_of_mem_take hl)
      rw [unlines_cons, List.append_assoc, List.cons_append, lines_line_append hfeed,
        List.length_cons, List.take_succ_cons, List.cons.injEq, dropReturn_eq_self_iff] at h
      exact List.forall_mem_cons.mpr ⟨⟨hfeed, h.1⟩, ih h.2⟩
  · intro h
    rw [lines_unlines_append h, List.take_left]

end PageAudit.Text
