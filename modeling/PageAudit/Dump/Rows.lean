import PageAudit.Dump.Basic

/-!
# A log in rows

A log that failed the audit is shown again, cut into rows. A row of a dump holds as many pages
as the width says and starts with the index of its first page; a row of any other line holds
twice as many characters. Which lines are dumps is a matter of their place alone, since the
log may be damaged.

* `flatten_chunks`: cutting loses and reorders nothing.
-/
namespace PageAudit

/-! ## Width -/

/-- The number of pages in a row.
mirrors src/grader.rs:109-111 -/
abbrev Width := { n : Nat // 0 < n }

/-- The width that is used unless another is asked for.
mirrors src/constants.rs:27 -/
def Width.default : Width := ⟨64, by decide⟩

/-- The width asked for; zero asks for none and leaves the width as it is.
mirrors src/grader.rs:124-130 -/
def Width.orKeep (w : Width) (n : Nat) : Width := if h : 0 < n then ⟨n, h⟩ else w

/-- The width asked for, one at least.
mirrors src/report.rs:48 -/
def Width.atLeastOne (n : Nat) : Width := ⟨max n 1, by omega⟩

/-! ## Cutting -/

/-- The list in pieces of `n`, the last one possibly shorter. -/
def chunks {α : Type} (n : Nat) (pos : 0 < n) (l : List α) : List (List α) :=
  if l = [] then [] else l.take n :: chunks n pos (l.drop n)
termination_by l.length
decreasing_by
  have := List.length_pos_iff.2 ‹¬l = []›
  simp only [List.length_drop]
  omega

theorem flatten_chunks {α : Type} (n : Nat) (pos : 0 < n) (l : List α) :
    (chunks n pos l).flatten = l := by
  fun_induction chunks n pos l with
  | case1 => rfl
  | case2 l h ih => rw [List.flatten_cons, ih, List.take_append_drop]

/-! ## Rows -/

/-- The index of a page in front of its row.
mirrors src/report.rs:32 -/
def pageLabel (page : Nat) : Text := "0x".toList ++ Text.hex3 page ++ " ".toList

/-- The rows of a dump line with `perPage` characters for a page. An empty line is one empty
row.
mirrors src/report.rs:21-35 -/
def dumpRows (w : Width) (perPage : Nat) (pos : 0 < perPage) (l : Text) : List Text :=
  if l = [] then [[]]
  else (chunks (w * perPage) (Nat.mul_pos w.2 pos) l).mapIdx fun k r => pageLabel (k * w) ++ r

/-- The rows of any other line.
mirrors src/report.rs:37-43,61 -/
def textRows (w : Width) (l : Text) : List Text :=
  if l.length ≤ 2 * w then [l] else chunks (2 * w) (Nat.mul_pos (by decide) w.2) l

/-- What a line of a log shows, by its place.
mirrors src/report.rs:7-11 -/
inductive LineKind | physical | virtual | text
  deriving DecidableEq, Repr

/-- What the line of this number shows.
mirrors src/report.rs:13-19 -/
def LineKind.ofNumber (n : Nat) : LineKind :=
  if n = 2 then physical
  else if 4 ≤ n ∧ n < logLength ∧ n % 2 = 0 then virtual
  else text

/-- The rows of a line.
mirrors src/report.rs:52-62 -/
def lineRows (w : Width) (kind : LineKind) (l : Text) : List Text :=
  match kind with
  | .physical => dumpRows w 1 (by decide) l
  | .virtual => dumpRows w 2 (by decide) l
  | .text => textRows w l

/-- The rows of the lines of a log, line by line.
mirrors src/report.rs:45-65 -/
def rows (w : Width) (ls : List Text) : List Text :=
  (ls.mapIdx fun n l => lineRows w (.ofNumber n) l).flatten

/-- The rows of a dump.
mirrors src/report.rs:67-69 -/
def Dump.rows (d : Dump) (w : Width) : List Text := PageAudit.rows w d.lines

end PageAudit
