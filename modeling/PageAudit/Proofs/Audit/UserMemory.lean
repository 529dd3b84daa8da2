import PageAudit.Proofs.Audit.PageCounts
import PageAudit.Proofs.Audit.Redundancy

/-!
# User memory of a process

Three parts of an audit look at user memory, each in its own way: isolation of a process goes through
its pages with their indices, the count of its pages drops the kernel's, and the placement of the
stack takes the last page by its index. Any process can be asked for, whichever the address space
was listed for. They agree: where isolation passes, the pages that are counted are those that are
mapped, and the stack can be nobody else's.

* `exists_processBreach_iff`: the pages that isolation objects to;
* `userPages_congr`: the kernel's pages have no part in it;
* `processIsolation_least`: the page that is reported;
* `mappedCount_of_passes`, `mappedCount_eq_zero_of_passes`: what is counted where isolation passes;
* `user_memory_of_decode`: all of this for an address space that was read from a dump.
-/
namespace PageAudit

/-- Whether a page of user memory may be as it is in the address space of the process `q`. -/
def Entry.AllowedFor (q : UInt8) (e : Entry) : Prop := e.owner = .unmapped ∨ e = ⟨.process q, true⟩

theorem exists_processBreach_iff {q : UInt8} {e : Entry} :
    (∃ r, ProcessBreach q e r) ↔ ¬ e.AllowedFor q := by
  obtain ⟨owner, user⟩ := e
  constructor
  · rintro ⟨r, breach⟩ allowed
    rcases allowed with unmapped | own
    · cases breach with
      | foreignPage mapped _ => exact mapped unmapped
      | ownPage own _ => cases own.symm.trans unmapped
    · cases own
      cases breach with
      | foreignPage _ foreign => exact foreign rfl
      | ownPage _ closed => cases closed
  · intro refused
    have mapped : owner ≠ .unmapped := fun unmapped => refused (.inl unmapped)
    by_cases own : owner = .process q
    · cases user with
      | false => exact ⟨.ownPage, .ownPage own rfl⟩
      | true => exact absurd (.inr (by rw [own])) refused
    · exact ⟨.foreignPage, .foreignPage mapped own⟩

namespace AddressSpace

variable {s t : AddressSpace} {q r : UInt8}

/-! ## The kernel's pages -/

theorem userPages_congr (same : ∀ i, 256 ≤ i → s.entry? i = t.entry? i) :
    s.userPages = t.userPages := by
  apply List.ext_getElem?
  intro k
  have page := same (kernelBoundary + k) (Nat.le_add_right 256 k)
  unfold entry? at page
  simp only [userPages, pages, List.getElem?_drop, List.getElem?_zipIdx, page]

/-- The pages that are counted are those that isolation goes through. -/
theorem mappedCount_eq_userPages (s : AddressSpace) (q : UInt8) :
    s.mappedCount q = s.userPages.countP fun x => x.1.owner = .process q := by
  have entries : s.entries.drop kernelBoundary = s.userPages.map Prod.fst := by
    rw [userPages, List.map_drop, pages, List.zipIdx_map_fst]
  rw [mappedCount, entries, List.countP_map]
  rfl

/-! ## Isolation -/

theorem processIsolation_passes_iff : (Inspection.processIsolation s q).Passes ↔
    ∀ i e, 256 ≤ i → s.entry? i = some e → e.AllowedFor q := by
  have found := (s.processIsolation_finds q).eq_none_iff
  constructor
  · intro passes i e hi he
    by_contra refused
    obtain ⟨r, breach⟩ := exists_processBreach_iff.mpr refused
    exact found.mp passes _ ⟨i, e, r, hi, he, processRule_eq_some_iff.mpr breach, rfl⟩
  · intro allowed
    refine found.mpr ?_
    rintro v ⟨i, e, r, hi, he, hr, -⟩
    exact exists_processBreach_iff.mp ⟨r, processRule_eq_some_iff.mp hr⟩ (allowed i e hi he)

/-- The page that is reported is the first that may not be as it is. -/
theorem processIsolation_least (h : ¬ (Inspection.processIsolation s q).Passes) :
    ∃ i e r, IsLeast {i | 256 ≤ i ∧ ∃ e, s.entry? i = some e ∧ ¬ e.AllowedFor q} i ∧
      s.entry? i = some e ∧ ProcessBreach q e r ∧
      (Inspection.processIsolation s q).violation = some (.atPage .processIsolation q i e r) := by
  obtain ⟨v, reported⟩ := Option.ne_none_iff_exists'.mp h
  obtain ⟨⟨i, e, r, hi, he, hr, rfl⟩, first⟩ := (s.processIsolation_finds q).first v reported
  have breach := processRule_eq_some_iff.mp hr
  refine ⟨i, e, r, ⟨⟨hi, e, he, exists_processBreach_iff.mp ⟨r, breach⟩⟩, ?_⟩, he, breach, reported⟩
  rintro j ⟨hj, e', he', refused⟩
  obtain ⟨r', breach'⟩ := exists_processBreach_iff.mpr refused
  rcases first _ ⟨j, e', r', hj, he', processRule_eq_some_iff.mpr breach', rfl⟩ with same | before
  · obtain ⟨-, -, index, -⟩ := Violation.eq_atPage_iff.mp same
    exact Nat.le_of_eq (Option.some.inj index)
  · -- the two violations are of one check and one process, so the page decides
    simp only [Violation.Before, Violation.processNumber, Violation.pageNumber, Violation.atPage,
      Option.elim_some, Option.getD_some] at before
    omega

section
variable (passes : (Inspection.processIsolation s q).Passes)
include passes

theorem owner_of_passes {i : Nat} {e : Entry} (hi : 256 ≤ i) (he : s.entry? i = some e)
    (mapped : e.owner ≠ .unmapped) : e.owner = .process q := by
  rcases processIsolation_passes_iff.mp passes i e hi he with unmapped | own
  · exact absurd unmapped mapped
  · rw [own]

/-- Where isolation passes, the process holds every page of user memory that is mapped. -/
theorem mappedCount_of_passes : s.mappedCount q =
    (List.range' 256 512).countP fun i => (s.entry? i).any (·.owner ≠ .unmapped) := by
  rw [mappedCount, countP_drop]
  refine List.countP_congr ?_
  intro i hi
  have user : 256 ≤ i := (List.mem_range'_1.mp hi).1
  cases he : s.entry? i with
  | none => rfl
  | some e =>
    simp only [Option.any_some, decide_eq_true_eq]
    exact ⟨Owner.ne_unmapped_of_eq_process, owner_of_passes passes user he⟩

/-- Where isolation passes, nobody else holds a page of user memory. -/
theorem mappedCount_eq_zero_of_passes (other : r ≠ q) : s.mappedCount r = 0 := by
  rw [mappedCount, List.countP_eq_zero]
  intro e member
  obtain ⟨k, he⟩ := List.mem_iff_getElem?.mp member
  rw [List.getElem?_drop] at he
  rw [decide_eq_true_eq]
  intro own
  have mapped := Owner.ne_unmapped_of_eq_process own
  have own' := owner_of_passes passes (Nat.le_add_right 256 k) he mapped
  exact other (Owner.process.inj (own.symm.trans own'))

theorem eq_of_stackPlacement (placed : (Inspection.stackPlacement s r).Passes) : r = q := by
  rw [Inspection.stackPlacement_passes_iff] at placed
  have mapped := Owner.ne_unmapped_of_eq_process placed
  have own := owner_of_passes passes (by decide) s.entry?_stackPage mapped
  exact Owner.process.inj (placed.symm.trans own)

end

/-- For any process, isolation passes exactly if every page of user memory is not mapped or is its
own and accessible, and otherwise it reports the first page that is neither. Where it passes, all pages
of user memory that are mapped are counted for the process and none for another. It passes for one
process at most, a test process, unless nothing is mapped, and for nobody but the one that has its
stack on the last page. The kernel's pages count for nothing in this. -/
theorem user_memory_of_decode {p : UInt8} {raw : Text} (h : decode p raw = .ok s) :
    (∀ q, (Inspection.processIsolation s q).Passes ↔
      ∀ i e, 256 ≤ i → s.entry? i = some e → e.owner = .unmapped ∨ e = ⟨.process q, true⟩) ∧
    (∀ q, ¬ (Inspection.processIsolation s q).Passes →
      ∃ i e r, IsLeast {i | 256 ≤ i ∧ ∃ e, s.entry? i = some e ∧
          ¬ (e.owner = .unmapped ∨ e = ⟨.process q, true⟩)} i ∧
        s.entry? i = some e ∧ ProcessBreach q e r ∧
        (Inspection.processIsolation s q).violation = some (.atPage .processIsolation q i e r)) ∧
    (∀ q, (Inspection.processIsolation s q).Passes →
      s.mappedCount q =
        (List.range' 256 512).countP (fun i => (s.entry? i).any (·.owner ≠ .unmapped)) ∧
      ∀ r, r ≠ q → s.mappedCount r = 0) ∧
    ((∃ i e, 256 ≤ i ∧ s.entry? i = some e ∧ e.owner ≠ .unmapped) →
      ∀ q, (Inspection.processIsolation s q).Passes → 1 ≤ q ∧ q ≤ 4 ∧
        ∀ r, (Inspection.processIsolation s r).Passes → r = q) ∧
    (∀ q r, (Inspection.stackPlacement s q).Passes → (Inspection.processIsolation s r).Passes →
      q = r) ∧
    ∀ t : AddressSpace, (∀ i, 256 ≤ i → t.entry? i = s.entry? i) → ∀ q,
      (Inspection.processIsolation t q) = (Inspection.processIsolation s q) ∧
      t.mappedCount q = s.mappedCount q := by
  refine ⟨fun q => processIsolation_passes_iff, fun q => processIsolation_least, ?_, ?_, ?_, ?_⟩
  · intro q passes
    exact ⟨mappedCount_of_passes passes, fun r => mappedCount_eq_zero_of_passes passes⟩
  · rintro ⟨i, e, hi, he, mapped⟩ q passes
    have own := owner_of_passes passes hi he mapped
    have legible := legible_of_decode h e (List.mem_of_getElem? he)
    obtain ⟨low, high⟩ := legible.process q own
    refine ⟨low, high, ?_⟩
    intro r passes'
    exact Owner.process.inj ((owner_of_passes passes' hi he mapped).symm.trans own)
  · intro q r placed passes
    exact eq_of_stackPlacement passes placed
  · intro t same q
    have pages := userPages_congr same
    refine ⟨?_, ?_⟩
    · unfold Inspection.processIsolation processIsolation
      rw [pages]
    · rw [mappedCount_eq_userPages, mappedCount_eq_userPages, pages]

/-- An address space that was listed for process 200 is that of process 3, which has its stack there
and nothing else. -/
theorem user_memory_of_decode_of_stack :
    ∃ s, decode 200 (Auditor.stackOnly '3') = .ok s ∧
      (Inspection.processIsolation s 3).Passes ∧ (Inspection.stackPlacement s 3).Passes ∧
      s.mappedCount 200 = 0 ∧ (∀ r, (Inspection.processIsolation s r).Passes → r = 3) ∧
      ¬ (Inspection.processIsolation s 200).Passes := by
  obtain ⟨s, h⟩ := (exists_decode_iff 200 (Auditor.stackOnly '3')).mpr (by decide +kernel)
  obtain ⟨-, -, counts, only, -, -⟩ := user_memory_of_decode h
  have found : (decode 200 (Auditor.stackOnly '3')).toOption.map
      (fun s => (s.processIsolation 3, s.stackPlacement 3)) = some (none, none) := by
    decide +kernel
  rw [h] at found
  obtain ⟨passes, placed⟩ := Prod.mk.inj (Option.some.inj found)
  have own : s.lastEntry.owner = .process 3 := Inspection.stackPlacement_passes_iff.mp placed
  have mapped := Owner.ne_unmapped_of_eq_process own
  have unique := (only ⟨stackPage, _, by decide, s.entry?_stackPage, mapped⟩ 3 passes).2.2
  refine ⟨s, h, passes, placed, (counts 3 passes).2 200 (by decide), unique, ?_⟩
  intro passes'
  exact absurd (unique 200 passes') (by decide)

end AddressSpace

end PageAudit
