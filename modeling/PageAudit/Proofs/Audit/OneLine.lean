import PageAudit.Proofs.Text.Numerals
import PageAudit.Proofs.Audit.Endings
import PageAudit.Proofs.Audit.Faults
import PageAudit.Proofs.Dump.Blocks

/-!
# Diagnostics of one line

A report is printed line by line, so it can be taken apart again only if no diagnostic holds a line
feed. What comes from a log stands in a message between quotes, where line feeds are escaped, or in
rows, which are parts of lines.

* `oneLine_quoted`: quoted text is one line, whatever it holds;
* `oneLine_of_mem_rows`: so are the rows of lines;
* `Auditor.oneLine_of_mem_diagnostics`: so are the diagnostics of the audit of any log.
-/
namespace PageAudit

open Text

/-- Whether a text holds no line feed. -/
def OneLine (t : Text) : Prop := '\n' ∉ t

instance : DecidablePred OneLine := fun t => inferInstanceAs (Decidable ('\n' ∉ t))

section
variable {s t : Text}

@[simp] theorem oneLine_append_iff : OneLine (s ++ t) ↔ OneLine s ∧ OneLine t := by
  simp only [OneLine, List.mem_append, not_or]

/-- A text that is written out is looked at character by character. -/
theorem oneLine_literal {cs : List Char} (h : '\n' ∉ cs) : OneLine (String.ofList cs).toList := by
  rwa [OneLine, String.toList_ofList]

theorem oneLine_of_alphanum (h : ∀ c ∈ t, c.isAlphanum = true) : OneLine t := by
  intro feed
  cases h '\n' feed

@[simp] theorem oneLine_decimal (n : Nat) : OneLine (decimal n) :=
  oneLine_of_alphanum fun _ => isAlphanum_of_mem_decimal

@[simp] theorem oneLine_hex (n : Nat) : OneLine (hex n) :=
  oneLine_of_alphanum fun _ => isAlphanum_of_mem_hex

@[simp] theorem oneLine_hex3 (n : Nat) : OneLine (hex3 n) :=
  oneLine_of_alphanum fun _ => isAlphanum_of_mem_hex3

theorem oneLine_escape {delimiter : Char} (h : delimiter ≠ '\n') (c : Char) :
    OneLine (escape delimiter c) := by
  unfold escape
  split
  all_goals try decide
  next feed _ =>
  split
  · next same =>
    rw [same]
    simpa [OneLine] using h.symm
  split
  · simpa [OneLine, eq_comm] using feed
  · rw [oneLine_append_iff, oneLine_append_iff]
    exact ⟨⟨by decide, oneLine_hex _⟩, by decide⟩

theorem oneLine_quoted {delimiter : Char} (h : delimiter ≠ '\n') (t : Text) :
    OneLine (quoted delimiter t) := by
  intro feed
  rw [quoted, List.mem_append, List.mem_cons, List.mem_singleton, List.mem_flatMap] at feed
  rcases feed with (edge | ⟨c, -, inside⟩) | edge
  · exact h edge.symm
  · exact oneLine_escape h c inside
  · exact h edge.symm

end

/-! ## Messages -/

theorem Stage.oneLine_describe (g : Stage) : OneLine g.describe := by
  unfold describe
  simp only [oneLine_append_iff, oneLine_decimal, and_true]
  exact oneLine_literal (by decide)

theorem Owner.oneLine_describe (o : Owner) : OneLine o.describe := by
  cases o with
  | process pid =>
    unfold describe
    simp only [oneLine_append_iff, oneLine_decimal, and_true]
    exact oneLine_literal (by decide)
  | other c => exact oneLine_quoted (by decide) _
  | _ => exact oneLine_literal (by decide)

theorem CountWarning.oneLine_describe (w : CountWarning) : OneLine w.describe := by
  unfold describe
  simp only [oneLine_append_iff, oneLine_decimal, and_true]
  and_intros
  all_goals exact oneLine_literal (by decide)

theorem Rule.oneLine_message (r : Rule) : OneLine r.message := by
  cases r with
  | progress frame =>
    unfold message
    simp only [oneLine_append_iff, oneLine_decimal, oneLine_hex, and_true]
    and_intros
    all_goals exact oneLine_literal (by decide)
  | exhaustion frame =>
    unfold message
    simp only [oneLine_append_iff, oneLine_decimal, and_true]
    and_intros
    all_goals exact oneLine_literal (by decide)
  | overlap =>
    unfold message
    rw [String.toList_append, oneLine_append_iff]
    exact ⟨oneLine_literal (by decide), oneLine_literal (by decide)⟩
  | _ => exact oneLine_literal (by decide)

/-- The description of a violation is one line if the rule that it names is. -/
theorem Violation.oneLine_describe {v : Violation} (h : OneLine v.message) : OneLine v.describe := by
  obtain ⟨check, pid, index, owner, user, message⟩ := v
  have title : OneLine check.title := by cases check <;> decide
  unfold describe
  simp only [oneLine_append_iff]
  refine ⟨⟨⟨⟨⟨⟨⟨title, by decide⟩, ?_⟩, ?_⟩, ?_⟩, ?_⟩, by decide⟩, h⟩
  · cases pid with
    | none => decide
    | some p =>
      simp only [Option.elim_some, oneLine_append_iff, oneLine_decimal, and_true]
      decide
  · cases index with
    | none => decide
    | some i =>
      simp only [Option.elim_some, oneLine_append_iff, oneLine_decimal, oneLine_hex3, and_true]
      decide
  · cases owner with
    | none => decide
    | some o =>
      simp only [Option.elim_some, oneLine_append_iff, o.oneLine_describe, and_true]
      decide
  · cases user with
    | none => decide
    | some u => cases u <;> decide

theorem Failing.oneLine_describe {g : Stage} {d : Dump} {v : Violation} (h : Failing g d v) :
    OneLine v.describe := by
  obtain ⟨t, -, breach⟩ := h
  obtain ⟨r, about⟩ := breach.about
  have rule : v.message = r.message := by cases about <;> assumption
  apply Violation.oneLine_describe
  rw [rule]
  exact r.oneLine_message

/-! ## Faults -/

/-- Only the path of a file stands in a message as it is. -/
theorem Fault.oneLine_message {f : Fault} (h : ∀ path cause, f ≠ .unreadable path cause) :
    OneLine f.message := by
  have quoted := @oneLine_quoted '"' (by decide)
  cases f with
  | unreadable path cause => exact absurd rfl (h path cause)
  | _ =>
    unfold message
    simp only [oneLine_append_iff, oneLine_decimal, quoted, and_true]
    and_intros
    all_goals exact oneLine_literal (by decide)

namespace Dump

theorem oneLine_of_ofLines {ls : List Text} {f : Fault} (h : ofLines ls = .error f) :
    OneLine f.message := by
  apply Fault.oneLine_message
  rintro path cause rfl
  obtain ⟨k, -, check⟩ := ofLines_eq_error_iff.mp h
  unfold checkLine at check
  split at check
  · cases check
  · split at check <;> cases check
  · cases check

theorem oneLine_of_decode {d : Dump} {f : Fault} (h : d.decode = .error f) :
    OneLine f.message := by
  apply Fault.oneLine_message
  rintro path cause rfl
  cases decode_eq_error_iff.mp h

end Dump

/-! ## Rows -/

theorem oneLine_of_mem_flatten {l r : Text} {ps : List Text} (whole : ps.flatten = l)
    (hl : OneLine l) (hr : r ∈ ps) : OneLine r := by
  intro feed
  rw [← whole] at hl
  exact hl (List.mem_flatten.mpr ⟨r, hr, feed⟩)

theorem oneLine_of_mem_dumpRows {w : Width} {c : Nat} {pos : 0 < c} {l r : Text} (hl : OneLine l)
    (hr : r ∈ dumpRows w c pos l) : OneLine r := by
  unfold dumpRows at hr
  split at hr
  · rw [List.mem_singleton.mp hr]
    decide
  · obtain ⟨k, hk, rfl⟩ := List.mem_mapIdx.mp hr
    have piece := oneLine_of_mem_flatten (flatten_chunks _ _ l) hl (List.getElem_mem hk)
    simp only [pageLabel, oneLine_append_iff, oneLine_hex3, piece, and_true]
    decide

theorem oneLine_of_mem_rows {w : Width} {ls : List Text} {r : Text} (hls : ∀ l ∈ ls, OneLine l)
    (hr : r ∈ rows w ls) : OneLine r := by
  obtain ⟨block, hblock, hr⟩ := List.mem_flatten.mp hr
  obtain ⟨n, hn, rfl⟩ := List.mem_mapIdx.mp hblock
  have hl : OneLine ls[n] := hls _ (List.getElem_mem hn)
  unfold lineRows at hr
  split at hr
  · exact oneLine_of_mem_dumpRows hl hr
  · exact oneLine_of_mem_dumpRows hl hr
  · exact oneLine_of_mem_flatten (textBlock_textRows w _).whole hl hr

/-! ## Reports -/

namespace Auditor

/-- No diagnostic of an audit holds a line feed, whatever stands in the log. -/
theorem oneLine_of_mem_diagnostics {a : Auditor} {g : Stage} {log l : Text}
    (h : l ∈ (a.auditLog g log).diagnostics) : OneLine l := by
  have broken := breaksInto_lines log
  have shown : ∀ r ∈ rows a.width (shownLines (lines log)), OneLine r := by
    intro r hr
    refine oneLine_of_mem_rows ?_ hr
    intro l hl
    unfold shownLines at hl
    split at hl
    · exact broken.no_feed l (List.mem_of_mem_take hl)
    · exact broken.no_feed l hl
  have laid := (a.auditLog g log).laid
  have ending := ending_of_auditLog (a := a) (g := g) broken
  rw [stage_auditLog, rows_auditLog broken] at laid
  have warnings : ∀ l ∈ (a.auditLog g log).verdict.warnings.map
      (fun w => "warning: ".toList ++ w.describe), OneLine l := by
    intro l hl
    obtain ⟨w, -, rfl⟩ := List.mem_map.mp hl
    exact oneLine_append_iff.mpr ⟨by decide, w.oneLine_describe⟩
  generalize (a.auditLog g log).verdict.ending = e at laid ending
  cases laid with
  | passed _ _ _ diagnostics =>
    rw [diagnostics, List.mem_append, List.mem_singleton] at h
    rcases h with warning | rfl
    · exact warnings l warning
    · rw [oneLine_append_iff, oneLine_append_iff]
      exact ⟨⟨by decide, g.oneLine_describe⟩, by decide⟩
  | @violated v _ _ _ diagnostics =>
    have failure : OneLine v.describe := by
      cases ending with
      | violated _ _ failing => exact failing.oneLine_describe
    rw [diagnostics, List.mem_append, List.mem_append, List.mem_pair] at h
    rcases h with (warning | rfl | rfl) | row
    · exact warnings l warning
    · exact oneLine_append_iff.mpr ⟨by decide, failure⟩
    · decide
    · exact shown l row
  | @faulty f _ _ _ _ diagnostics =>
    have fault : OneLine f.message := by
      cases ending with
      | undecoded _ fault => exact Dump.oneLine_of_decode fault
      | unread fault => exact Dump.oneLine_of_ofLines fault
    rw [diagnostics, List.mem_append, List.mem_pair] at h
    rcases h with (rfl | rfl) | row
    · exact oneLine_append_iff.mpr ⟨by decide, fault⟩
    · decide
    · exact shown l row

end Auditor

end PageAudit
