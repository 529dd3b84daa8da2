import PageAudit.Text.Lines

/-!
# How a text breaks into lines

`BreaksInto` says what the lines of a text are without taking the text apart: a line feed ends
a line, a carriage return right before it belongs to the ending, and what follows the last line
feed is one more line unless it is empty.

* `BreaksInto.length_le`: no line is longer than the text;
* `breaksInto_iff`: `lines` gives exactly these lines, so every text breaks into lines in one
  way.
-/
namespace PageAudit.Text

/-- How a text breaks into lines. -/
inductive BreaksInto : Text → List Text → Prop
  /-- There is nothing after the last line feed. -/
  | nothing : BreaksInto [] []
  /-- The last line lacks the line feed; a carriage return at its end stays. -/
  | unended {l : Text} : l ≠ [] → '\n' ∉ l → BreaksInto l [l]
  /-- A line that ends in a line feed alone. -/
  | feed {l t : Text} {ls : List Text} :
      '\n' ∉ l → l.getLast? ≠ some '\r' → BreaksInto t ls → BreaksInto (l ++ '\n' :: t) (l :: ls)
  /-- A line that ends in a carriage return and a line feed. -/
  | returnFeed {l t : Text} {ls : List Text} :
      '\n' ∉ l → BreaksInto t ls → BreaksInto (l ++ '\r' :: '\n' :: t) (l :: ls)

theorem BreaksInto.lines_eq {t : Text} {ls : List Text} (h : BreaksInto t ls) : lines t = ls := by
  induction h with
  | nothing => rfl
  | unended hne hl => rw [lines_of_no_feed hl, if_neg hne]
  | feed hl hr _ ih => rw [lines_line_append hl, dropReturn_of_getLast? hr, ih]
  | @returnFeed l t ls hl _ ih =>
    have hl' : '\n' ∉ l ++ ['\r'] := by simpa using hl
    rw [show l ++ '\r' :: '\n' :: t = (l ++ ['\r']) ++ '\n' :: t by simp, lines_line_append hl',
      dropReturn_append_return, ih]

/-- The first line of a text that holds a line feed, with its ending, before the other lines. -/
theorem BreaksInto.cons {l t : Text} {ls : List Text} (hl : '\n' ∉ l) (h : BreaksInto t ls) :
    BreaksInto (l ++ '\n' :: t) (dropReturn l :: ls) := by
  by_cases hr : l.getLast? = some '\r'
  · obtain ⟨m, rfl⟩ := List.getLast?_eq_some_iff.mp hr
    have hm : '\n' ∉ m := fun h => hl (List.mem_append_left _ h)
    rw [dropReturn_append_return]
    simpa using BreaksInto.returnFeed hm h
  · rw [dropReturn_of_getLast? hr]
    exact .feed hl hr h

theorem breaksInto_lines (t : Text) : BreaksInto t (lines t) := by
  induction hn : t.length using Nat.strongRecOn generalizing t with
  | ind n ih =>
    by_cases ht : '\n' ∈ t
    · obtain ⟨l, r, rfl, hl⟩ := List.eq_append_cons_of_mem ht
      rw [lines_line_append hl]
      exact .cons hl (ih r.length (by simp at hn; omega) r rfl)
    · rw [lines_of_no_feed ht]
      split
      · next h => subst h; exact .nothing
      · next h => exact .unended h ht

/-- No line of a text is longer than the text. -/
theorem BreaksInto.length_le {t : Text} {ls : List Text} (h : BreaksInto t ls) :
    ∀ l ∈ ls, l.length ≤ t.length := by
  induction h with
  | nothing => exact nofun
  | unended =>
    intro m hm
    exact Nat.le_of_eq (congrArg List.length (List.mem_singleton.mp hm))
  | feed _ _ _ ih | returnFeed _ _ ih =>
    intro m hm
    simp only [List.length_append, List.length_cons]
    rcases List.mem_cons.mp hm with rfl | later
    · omega
    · have := ih m later
      omega

theorem breaksInto_iff {t : Text} {ls : List Text} : BreaksInto t ls ↔ lines t = ls :=
  ⟨BreaksInto.lines_eq, fun h => h ▸ breaksInto_lines t⟩

end PageAudit.Text
