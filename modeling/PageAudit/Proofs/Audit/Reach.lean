import PageAudit.Proofs.Audit.Acceptance
import PageAudit.Proofs.Audit.Stages
import PageAudit.Proofs.Memory.Census
import PageAudit.Proofs.Memory.Encoding

/-!
# What a process can reach

No check says by itself which pages user code can access. Kernel isolation allows access above the
kernel boundary to whatever is mapped, process isolation does not look below the boundary nor at
pages that are not mapped. Only both together leave a page one of four states (`Entry.Permitted`),
in which user code can access the console page and the pages of its own process and nothing else.

* `permitted_iff`: the states that the two checks leave;
* `passed_two_iff`: the dumps that pass the second stage are those with isolated address spaces;
* `Isolated.countP_user`: how many pages user code can access;
* `reach_of_passed`: what a pass from the second stage on says of every process.
-/
namespace PageAudit

/-! ## One page -/

/-- The states that page `i` may have in the address space of the process `p`. -/
inductive Entry.Permitted (p : UInt8) (i : Nat) (e : Entry) : Prop
  | console : i = 184 → e = ⟨.console, true⟩ → Permitted p i e
  | closed : i ≠ 184 → i < 256 → e.user = false → Permitted p i e
  | unmapped : 256 ≤ i → e = ⟨.unmapped, false⟩ → Permitted p i e
  | own : 256 ≤ i → e = ⟨.process p, true⟩ → Permitted p i e

namespace Entry

variable {p : UInt8} {i : Nat} {e : Entry}

theorem Permitted.not_kernelBreach (h : e.Permitted p i) (r : Rule) : ¬ KernelBreach i e r := by
  intro hr
  cases hr with
  | console hi hrule =>
    cases h with
    | console _ he => exact hrule (by simp [he])
    | closed hne _ _ => exact hne hi
    | unmapped hi' _ => omega
    | own hi' _ => omega
  | kernelMemory hne hlt hu =>
    cases h with
    | console hi _ => exact hne hi
    | closed _ _ hu' => simp [hu'] at hu
    | unmapped hi _ => omega
    | own hi _ => omega
  | unmappedAccess hi hu ho =>
    cases h with
    | console hi' _ => omega
    | closed _ hlt _ => omega
    | unmapped _ he => simp [he] at hu
    | own _ he => simp [he] at ho

/-- A page of user memory is not mapped or is the process's own. -/
theorem Permitted.of_userMemory (h : e.Permitted p i) (hi : 256 ≤ i) :
    e = ⟨.unmapped, false⟩ ∨ e = ⟨.process p, true⟩ := by
  cases h with
  | console hi' _ => omega
  | closed _ hlt _ => omega
  | unmapped _ he => exact .inl he
  | own _ he => exact .inr he

theorem Permitted.not_processBreach (h : e.Permitted p i) (hi : 256 ≤ i) (r : Rule) :
    ¬ ProcessBreach p e r := by
  intro hr
  have state := h.of_userMemory hi
  cases hr with
  | foreignPage hm ho => rcases state with rfl | rfl <;> simp at hm ho
  | ownPage ho hu => rcases state with rfl | rfl <;> simp at ho hu

/-- The two checks leave a page exactly the states that it may have. -/
theorem permitted_iff : e.Permitted p i ↔
    (∀ r, ¬ KernelBreach i e r) ∧ (256 ≤ i → ∀ r, ¬ ProcessBreach p e r) := by
  refine ⟨fun h => ⟨h.not_kernelBreach, h.not_processBreach⟩, ?_⟩
  intro h
  obtain ⟨hkernel, hprocess⟩ := h
  obtain ⟨owner, user⟩ := e
  by_cases hi : i = 184
  · have rule : owner = .console ∧ user = true := by
      by_contra hno
      exact hkernel .console (.console hi hno)
    exact .console hi (by rw [rule.1, rule.2])
  by_cases hlt : i < 256
  · have closed : user = false := by
      by_contra hu
      exact hkernel .kernelMemory (.kernelMemory hi hlt (by simpa using hu))
    exact .closed hi hlt closed
  have hi' : 256 ≤ i := by omega
  by_cases hm : owner = .unmapped
  · have closed : user = false := by
      by_contra hu
      exact hkernel .unmappedAccess (.unmappedAccess hi' (by simpa using hu) hm)
    exact .unmapped hi' (by rw [hm, closed])
  · have own : owner = .process p := by
      by_contra ho
      exact hprocess hi' .foreignPage (.foreignPage hm ho)
    have accessible : user = true := by
      by_contra hu
      exact hprocess hi' .ownPage (.ownPage own (by simpa using hu))
    exact .own hi' (by rw [own, accessible])

/-- User code can access the console page and the pages of its process. -/
theorem Permitted.user_iff (h : e.Permitted p i) :
    e.user = true ↔ i = 184 ∧ e.owner = .console ∨ 256 ≤ i ∧ e.owner = .process p := by
  cases h with
  | console hi he => simp [hi, he]
  | closed hne hlt hu => simp [hne, hu, show ¬ 256 ≤ i by omega]
  | unmapped hi he => simp [he]
  | own hi he => simp [hi, he]

end Entry

/-! ## One address space -/

/-- One item of a list counts if only the item at one place does. -/
theorem countP_eq_one {α : Type} {l : List α} {q : α → Bool} {k : Nat} (hk : k < l.length)
    (h : ∀ i a, l[i]? = some a → (q a = true ↔ i = k)) : l.countP q = 1 := by
  have before : (l.take k).countP q = 0 := by
    rw [List.countP_eq_zero]
    intro a ha hq
    obtain ⟨i, hi⟩ := List.mem_iff_getElem?.mp ha
    rw [List.getElem?_take] at hi
    split at hi
    · next hlt => exact absurd ((h i a hi).mp hq) (Nat.ne_of_lt hlt)
    · cases hi
  have after : (l.drop (k + 1)).countP q = 0 := by
    rw [List.countP_eq_zero]
    intro a ha hq
    obtain ⟨i, hi⟩ := List.mem_iff_getElem?.mp ha
    rw [List.getElem?_drop] at hi
    have := (h _ a hi).mp hq
    omega
  have here : q l[k] = true := (h k _ (List.getElem?_eq_getElem hk)).mpr rfl
  rw [← List.take_append_drop k l, List.countP_append, before, List.drop_eq_getElem_cons hk,
    List.countP_cons, after, here]
  rfl

namespace AddressSpace

/-- Whether every page of an address space is in a state that it may have. -/
def Isolated (s : AddressSpace) : Prop := ∀ i e, s.entry? i = some e → e.Permitted s.pid i

variable {s : AddressSpace}

/-- Of the kernel's pages, user code can access the console page. -/
theorem Isolated.countP_kernelMemory (h : s.Isolated) :
    (s.entries.take kernelBoundary).countP (·.user) = 1 := by
  have boundary : kernelBoundary = 256 := rfl
  have pages : s.entries.length = 768 := s.length_entries
  have console : consolePage < (s.entries.take kernelBoundary).length := by
    rw [List.length_take, pages]
    decide
  refine countP_eq_one console ?_
  intro i e he
  rw [List.getElem?_take] at he
  split at he
  · next hlt =>
    have permitted := h i e he
    constructor
    · intro hu
      rcases permitted.user_iff.mp hu with hi | hi
      · exact hi.1
      · omega
    · intro hi
      cases permitted with
      | console _ hc => rw [hc]
      | closed hne _ _ => exact absurd hi hne
      | unmapped hge _ => omega
      | own hge _ => omega
  · cases he

/-- Of user memory, user code can access what the process holds. -/
theorem Isolated.countP_userMemory (h : s.Isolated) :
    (s.entries.drop kernelBoundary).countP (·.user) = s.mappedCount s.pid := by
  refine List.countP_congr ?_
  intro e he
  obtain ⟨i, hi⟩ := List.mem_iff_getElem?.mp he
  rw [List.getElem?_drop] at hi
  have boundary : 256 ≤ kernelBoundary + i := Nat.le_add_right 256 i
  rcases (h _ e hi).of_userMemory boundary with rfl | rfl <;> simp

/-- User code can access one page more than the process holds in user memory. -/
theorem Isolated.countP_user (h : s.Isolated) :
    s.entries.countP (·.user) = s.mappedCount s.pid + 1 := by
  rw [← List.take_append_drop kernelBoundary s.entries, List.countP_append, h.countP_kernelMemory,
    h.countP_userMemory, Nat.add_comm]

theorem isolated_iff : s.Isolated ↔
    (∀ i e, s.entry? i = some e → ∀ r, ¬ KernelBreach i e r) ∧
    ∀ i e, 256 ≤ i → s.entry? i = some e → ∀ r, ¬ ProcessBreach s.pid e r := by
  simp only [Isolated, Entry.permitted_iff]
  constructor
  · intro h
    exact ⟨fun i e he => (h i e he).1, fun i e hi he => (h i e he).2 hi⟩
  · intro h i e he
    exact ⟨h.1 i e he, fun hi => h.2 i e hi he⟩

end AddressSpace

/-! ## The address spaces of a dump -/

theorem tag_process_of_mem {p : UInt8} (hp : p ∈ processIds) :
    (Owner.process p).tag = p.toNat.digitChar := by
  obtain ⟨h1, h4⟩ := mem_processIds_iff.mp hp
  have tag := tag_process_eq_digitChar (UInt8.le_iff_toNat_le.mp h1) (UInt8.le_iff_toNat_le.mp h4)
  rwa [UInt8.ofNat_toNat] at tag

section
variable {d : Dump} {image : Image} (hd : d.decode = .ok image)
include hd

theorem Dump.forall_space_iff {P : UInt8 → (Nat → Option Entry) → Prop} :
    (∀ s ∈ image.spaces, P s.pid s.entry?) ↔ ∀ x ∈ d.virtualTexts, P x.1 (Entry.at? x.2) := by
  have some := Dump.exists_space_iff hd (P := fun p f => ¬ P p f)
  simpa only [not_exists, not_and, not_not] using not_congr some

/-- The dumps that pass the second stage are those with isolated address spaces. -/
theorem Auditor.passed_two_iff (a : Auditor) :
    (a.auditDump .two d).verdict.passed = true ↔ ∀ s ∈ image.spaces, s.Isolated := by
  have sized : d.WellSized := Dump.exists_decode_iff.mp ⟨image, hd⟩
  have spaces : (∀ s ∈ image.spaces, s.Isolated) ↔ ∀ x ∈ d.virtualTexts,
      (∀ i e, Entry.at? x.2 i = some e → ∀ r, ¬ KernelBreach i e r) ∧
      ∀ i e, 256 ≤ i → Entry.at? x.2 i = some e → ∀ r, ¬ ProcessBreach x.1 e r := by
    simp only [AddressSpace.isolated_iff]
    exact Dump.forall_space_iff hd (P := fun p f =>
      (∀ i e, f i = some e → ∀ r, ¬ KernelBreach i e r) ∧
      ∀ i e, 256 ≤ i → f i = some e → ∀ r, ¬ ProcessBreach p e r)
  rw [passed_auditDump_iff, noneFailing_iff, spaces]
  constructor
  · intro h x hx
    obtain ⟨-, hkernel, hprocess, -⟩ := h
    exact ⟨hkernel x hx, hprocess (by decide) x hx⟩
  · intro h
    refine ⟨sized, fun x hx => (h x hx).1, fun _ x hx => (h x hx).2, ?_, ?_⟩
    · intro hthree
      exact absurd hthree (by decide)
    · intro hfour
      exact absurd hfour (by decide)

/-- A process that is not warned of has its frames: those of its pages and of its page tables. -/
theorem Auditor.count_frames_of_not_warned (a : Auditor) (g : Stage) {s : AddressSpace}
    (hs : s ∈ image.spaces) (h : s.pid ∉ (a.auditDump g d).verdict.warned) :
    d.physical.count s.pid.toNat.digitChar = s.mappedCount s.pid + g.tableFrames := by
  have hp : s.pid ∈ processIds := Dump.pids_of_decode hd ▸ List.mem_map_of_mem hs
  rw [verdict_of_decode hd] at h
  have frames : image.frames.census.count (.process s.pid) =
      s.mappedCount s.pid + g.tableFrames := by
    by_contra hne
    exact h (Image.mem_warned_iff.mpr ⟨s, hs, rfl, hne⟩)
  rw [← frames, count_census_of_decode (Dump.decode_eq_ok_iff.mp hd).1 hp,
    tag_process_of_mem hp]

end

/-! ## A pass -/

namespace Auditor

/-- In a dump that passes at the second stage or later, user code of a process can access the
console page and the pages of user memory that are its own, and no other page. Every page of user
memory is its own and accessible or neither mapped nor accessible. The accessible pages are one
more than the pages that it holds, and unless there is a warning about it, its frames are as many
as its accessible pages but one, and those for its page tables. -/
theorem reach_of_passed (a : Auditor) {g : Stage} (hg : 2 ≤ g.number) {d : Dump}
    (h : (a.auditDump g d).verdict.passed = true) :
    ∃ image, d.decode = .ok image ∧ image.spaces.map (·.pid) = [1, 2, 3, 4] ∧
      ∀ s ∈ image.spaces,
        (∀ i e, s.entry? i = some e →
          (e.user = true ↔ i = 184 ∧ e.owner = .console ∨ 256 ≤ i ∧ e.owner = .process s.pid) ∧
          (256 ≤ i → e = ⟨.unmapped, false⟩ ∨ e = ⟨.process s.pid, true⟩)) ∧
        s.entries.countP (·.user) = s.mappedCount s.pid + 1 ∧
        (s.pid ∉ (a.auditDump g d).verdict.warned →
          d.physical.count s.pid.toNat.digitChar =
            s.entries.countP (·.user) - 1 + g.tableFrames) := by
  obtain ⟨image, hd⟩ := Dump.exists_decode_iff.mpr (passed_auditDump_iff.mp h).1
  -- a later stage does not check isolation in another way, it keeps what the second one says
  have order : Stage.two.number ≤ g.number := hg
  have two : (a.auditDump .two d).verdict.passed = true := (a.keptBy_auditDump order d).passed h
  have isolated := (passed_two_iff hd a).mp two
  refine ⟨image, hd, Dump.pids_of_decode hd, ?_⟩
  intro s hs
  have reach := (isolated s hs).countP_user
  refine ⟨?_, reach, ?_⟩
  · intro i e he
    have permitted := isolated s hs i e he
    exact ⟨permitted.user_iff, permitted.of_userMemory⟩
  · intro hw
    rw [count_frames_of_not_warned hd a g hs hw, reach, Nat.add_sub_cancel]

/-- A virtual dump in which a process has its stack and nothing else of user memory. -/
def stackOnly (tag : Char) : Text :=
  (List.replicate 184 ['K', ' ']).flatten ++ ['C', 'u'] ++
    (List.replicate 71 ['K', ' ']).flatten ++ (List.replicate 511 ['.', ' ']).flatten ++ [tag, 'u']

/-- Where every process has its stack and page tables, the last stage passes without a warning.
The six frames of process 3 are those of its page tables and of its stack, which with the console
makes two pages that it can access. -/
theorem reach_of_passed_on_stacks :
    let d : Dump := ⟨List.replicate 488 'R' ++ ['1', '2', '3', '4'].flatMap (List.replicate 6),
      #v[stackOnly '1', stackOnly '2', stackOnly '3', stackOnly '4']⟩
    2 ≤ Stage.four.number ∧ (default.auditDump .four d).verdict.passed = true ∧
    3 ∉ (default.auditDump .four d).verdict.warned ∧
    ∃ image, d.decode = .ok image ∧ ∃ s ∈ image.spaces, s.pid = 3 ∧
      s.entries.countP (·.user) = 2 := by
  intro d
  have order : 2 ≤ Stage.four.number := by decide
  have verdict : (default.auditDump .four d).verdict = .graded [] none := by decide +kernel
  have passed : (default.auditDump .four d).verdict.passed = true := by rw [verdict]; rfl
  have silent : 3 ∉ (default.auditDump .four d).verdict.warned := by
    rw [verdict]
    exact List.not_mem_nil
  have frames : d.physical.count '3' = 6 := by decide +kernel
  obtain ⟨image, hd, hpids, hspaces⟩ := reach_of_passed default order passed
  have hthree : 3 ∈ image.spaces.map (·.pid) := by rw [hpids]; decide
  obtain ⟨s, hs, hpid⟩ := List.mem_map.mp hthree
  obtain ⟨-, -, counted⟩ := hspaces s hs
  have count := counted (by rw [hpid]; exact silent)
  rw [hpid, show UInt8.toNat 3 = 3 from rfl, show Nat.digitChar 3 = '3' from rfl, frames] at count
  have tables : Stage.four.tableFrames = 5 := rfl
  exact ⟨order, passed, silent, image, hd, s, hs, hpid, by omega⟩

end Auditor

end PageAudit
