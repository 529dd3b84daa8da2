import PageAudit.Text.Basic

/-!
# Lines of a text

`lines` takes a text apart at its line feeds, `unlines` puts lines together.

* `lines_line_append`: the first line feed ends the first line, and one carriage return
  before it belongs to the line ending;
* `lines_of_no_feed`: text after the last line feed is a line only if there is any;
* `lines_unlines`: lines that hold no line feed and do not end in a carriage return come
  back from `unlines` as they were.
-/
namespace PageAudit.Text

/-- A line without one carriage return at its end. -/
def dropReturn (l : Text) : Text :=
  if l.getLast? = some '\r' then l.dropLast else l

/-- The lines of a text. A line ends with a line feed, alone or after a carriage return; the
last line may lack it, and then keeps its carriage return. -/
def lines (t : Text) : List Text :=
  let pieces := t.splitOn '\n'
  pieces.dropLast.map dropReturn ++ pieces.getLast?.toList.filter (!·.isEmpty)

/-- The text made of the lines, each ended by a line feed. -/
def unlines (ls : List Text) : Text :=
  ls.flatMap (· ++ ['\n'])

theorem lines_line_append {l : Text} (h : '\n' ∉ l) (t : Text) :
    lines (l ++ '\n' :: t) = dropReturn l :: lines t := by
  simp only [lines, List.splitOn_append_cons_self_of_not_mem h]
  rw [List.dropLast_cons_of_ne_nil (List.splitOn_ne_nil _ _),
    List.getLast?_cons_of_ne_nil (List.splitOn_ne_nil _ _)]
  rfl

theorem lines_of_no_feed {l : Text} (h : '\n' ∉ l) : lines l = if l = [] then [] else [l] := by
  simp only [lines, List.splitOn_eq_singleton h]
  cases l <;> simp

@[simp] theorem lines_nil : lines [] = [] := rfl

theorem dropReturn_of_getLast? {l : Text} (h : l.getLast? ≠ some '\r') : dropReturn l = l := by
  simp [dropReturn, h]

theorem dropReturn_append_return (l : Text) : dropReturn (l ++ ['\r']) = l := by
  simp [dropReturn]

@[simp] theorem unlines_cons (l : Text) (ls : List Text) :
    unlines (l :: ls) = l ++ '\n' :: unlines ls := by
  simp [unlines]

theorem lines_unlines_append {ls : List Text}
    (h : ∀ l ∈ ls, '\n' ∉ l ∧ l.getLast? ≠ some '\r') (t : Text) :
    lines (unlines ls ++ t) = ls ++ lines t := by
  induction ls with
  | nil => simp [unlines]
  | cons l ls ih =>
    have hl := h l (by simp)
    rw [unlines_cons, List.append_assoc, List.cons_append, lines_line_append hl.1,
      dropReturn_of_getLast? hl.2, ih fun m hm => h m (by simp [hm])]
    rfl

theorem lines_unlines {ls : List Text} (h : ∀ l ∈ ls, '\n' ∉ l ∧ l.getLast? ≠ some '\r') :
    lines (unlines ls) = ls := by
  simpa using lines_unlines_append h []

end PageAudit.Text
