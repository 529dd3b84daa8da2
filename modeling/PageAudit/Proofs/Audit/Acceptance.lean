import PageAudit.Proofs.Dump.Parsing
import PageAudit.Proofs.Audit.FirstBreach

/-!
# Which logs pass

The logs that pass an audit, stated on the characters of their lines: no pages, owners or checks,
only which characters stand where. The page with index `i` of a virtual dump is the characters
`2 i` and `2 i + 1` of its line.

* `noKernelBreach_iff`, `noProcessBreach_iff`, `overlap_iff`: rules about pages as rules about
  characters;
* `accepted_iff`: the lines whose dump has the right lengths and nothing that fails;
* `passed_auditLog_iff_accepted`: a log passes exactly if its lines are accepted.
-/
namespace PageAudit

open Text

/-! ## Accepted lines -/

/-- The line of a virtual dump that is accepted for the process with the given digit. -/
structure PagesAccepted (g : Stage) (digit : Char) (raw : Text) : Prop where
  length : raw.length = 1536
  consoleTag : raw[368]? = some 'C'
  consoleFlag : raw[369]? = some 'u'
  kernelClosed : ∀ i, i < 256 → i ≠ 184 → raw[2 * i + 1]? ≠ some 'u'
  accessMapped : ∀ i, 256 ≤ i → raw[2 * i + 1]? = some 'u' → raw[2 * i]? ≠ some '.'
  isolated : 2 ≤ g.number → ∀ i c, 256 ≤ i → raw[2 * i]? = some c → c ≠ '.' →
    c = digit ∧ raw[2 * i + 1]? = some 'u'
  stack : 4 ≤ g.number → raw[1534]? = some digit

/-- The line of the physical dump that is accepted. -/
structure FramesAccepted (g : Stage) (raw : Text) : Prop where
  length : raw.length = 512
  progress : 3 ≤ g.number → ∀ j, j < 391 → raw[j]? ≠ some '.'
  exhaustion : 4 ≤ g.number → ∀ j, j < 512 → raw[j]? ≠ some '.'

/-- Two lines of virtual dumps that have different tags for a page, and neither is a dot. -/
def TagsOverlap (raw other : Text) : Prop :=
  ∃ i c e, raw[2 * i]? = some c ∧ other[2 * i]? = some e ∧ c ≠ '.' ∧ e ≠ '.' ∧ c ≠ e

/-- The line of a log with the virtual dump of process `p`. -/
def virtualLine (ls : List Text) (p : Nat) : Text := ls.getD (2 * p + 2) []

/-- The lines of a log that passes the checks of a stage. -/
structure Accepted (g : Stage) (ls : List Text) : Prop where
  wellFormed : Dump.WellFormed ls
  frames : FramesAccepted g (ls.getD 2 [])
  pages : ∀ p, 1 ≤ p → p ≤ 4 → PagesAccepted g p.digitChar (virtualLine ls p)
  overlap : 4 ≤ g.number → ∃ p q, 1 ≤ p ∧ p < q ∧ q ≤ 4 ∧
    TagsOverlap (virtualLine ls p) (virtualLine ls q)

/-! ## From pages to characters -/

section
variable {raw other : Text}

/-- Every tag of a virtual dump has a flag. -/
theorem exists_flag (hlen : raw.length = 1536) {i : Nat} {tag : Char} (ht : raw[2 * i]? = some tag) :
    ∃ flag, raw[2 * i + 1]? = some flag := by
  have hi := (List.getElem?_eq_some_iff.mp ht).1
  exact ⟨_, List.getElem?_eq_getElem (by omega)⟩

/-- Every flag of a dump has a tag. -/
theorem exists_tag {i : Nat} {flag : Char} (hf : raw[2 * i + 1]? = some flag) :
    ∃ tag, raw[2 * i]? = some tag := by
  have hi := (List.getElem?_eq_some_iff.mp hf).1
  exact ⟨_, List.getElem?_eq_getElem (by omega)⟩

theorem noKernelBreach_iff (hlen : raw.length = 1536) :
    (∀ i e, Entry.at? raw i = some e → ∀ r, ¬ KernelBreach i e r) ↔
      (raw[368]? = some 'C' ∧ raw[369]? = some 'u') ∧
      (∀ i, i < 256 → i ≠ 184 → raw[2 * i + 1]? ≠ some 'u') ∧
      (∀ i, 256 ≤ i → raw[2 * i + 1]? = some 'u' → raw[2 * i]? ≠ some '.') := by
  constructor
  · intro h
    have breach : ∀ i tag flag r, raw[2 * i]? = some tag → raw[2 * i + 1]? = some flag →
        ¬ KernelBreach i (.ofPair (tag, flag)) r := by
      intro i tag flag r ht hf
      exact h i _ (Entry.at?_eq_some_iff.mpr ⟨tag, flag, ht, hf, rfl⟩) r
    refine ⟨?_, ?_, ?_⟩
    · obtain ⟨tag, ht⟩ : ∃ tag, raw[2 * 184]? = some tag :=
        ⟨_, List.getElem?_eq_getElem (by omega)⟩
      obtain ⟨flag, hf⟩ := exists_flag hlen ht
      have hrule : (Entry.ofPair (tag, flag)).owner = .console ∧
          (Entry.ofPair (tag, flag)).user = true := by
        by_contra hno
        exact breach 184 tag flag .console ht hf (.console rfl hno)
      obtain rfl := ofTag_eq_console_iff.mp hrule.1
      obtain rfl := Entry.ofPair_user_eq_true_iff.mp hrule.2
      exact ⟨ht, hf⟩
    · intro i hi hne hf
      obtain ⟨tag, ht⟩ := exists_tag hf
      exact breach i tag 'u' .kernelMemory ht hf (.kernelMemory hne hi rfl)
    · intro i hi hf ht
      exact breach i '.' 'u' .unmappedAccess ht hf (.unmappedAccess hi rfl rfl)
  · intro h i e he r hr
    obtain ⟨⟨hc, hu⟩, hkernel, huser⟩ := h
    obtain ⟨tag, flag, ht, hf, rfl⟩ := Entry.at?_eq_some_iff.mp he
    cases hr with
    | console hi hrule =>
      subst hi
      rw [hc] at ht
      rw [hu] at hf
      cases ht
      cases hf
      exact hrule ⟨rfl, rfl⟩
    | kernelMemory hne hi hflag =>
      rw [Entry.ofPair_user_eq_true_iff] at hflag
      exact hkernel i hi hne (hflag ▸ hf)
    | unmappedAccess hi hflag ho =>
      rw [Entry.ofPair_user_eq_true_iff] at hflag
      exact huser i hi (hflag ▸ hf) (ofTag_eq_unmapped_iff.mp ho ▸ ht)

theorem noProcessBreach_iff {p : UInt8} (hp : p ∈ processIds) (hlen : raw.length = 1536) :
    (∀ i e, 256 ≤ i → Entry.at? raw i = some e → ∀ r, ¬ ProcessBreach p e r) ↔
      ∀ i c, 256 ≤ i → raw[2 * i]? = some c → c ≠ '.' →
        c = (Owner.process p).tag ∧ raw[2 * i + 1]? = some 'u' := by
  constructor
  · intro h i c hi ht hc
    obtain ⟨flag, hf⟩ := exists_flag hlen ht
    have breach := h i _ hi (Entry.at?_eq_some_iff.mpr ⟨c, flag, ht, hf, rfl⟩)
    have mapped : (Entry.ofPair (c, flag)).owner ≠ .unmapped := mt ofTag_eq_unmapped_iff.mp hc
    have own : (Entry.ofPair (c, flag)).owner = .process p := by
      by_contra hno
      exact breach .foreignPage (.foreignPage mapped hno)
    have open' : (Entry.ofPair (c, flag)).user = true := by
      by_contra hno
      exact breach .ownPage (.ownPage own (Bool.eq_false_iff.mpr hno))
    obtain rfl := Entry.ofPair_user_eq_true_iff.mp open'
    exact ⟨(ofTag_eq_process_iff hp).mp own, hf⟩
  · intro h i e hi he r hr
    obtain ⟨tag, flag, ht, hf, rfl⟩ := Entry.at?_eq_some_iff.mp he
    cases hr with
    | foreignPage hm ho =>
      have hdot : tag ≠ '.' := mt ofTag_eq_unmapped_iff.mpr hm
      exact ho ((ofTag_eq_process_iff hp).mpr (h i tag hi ht hdot).1)
    | ownPage ho hu =>
      have hdot : tag ≠ '.' := by
        intro hdot
        subst hdot
        cases ho
      obtain ⟨-, hflag⟩ := h i tag hi ht hdot
      rw [hf] at hflag
      have huser : (Entry.ofPair (tag, flag)).user = true :=
        Entry.ofPair_user_eq_true_iff.mpr (Option.some.inj hflag)
      rw [hu] at huser
      cases huser

theorem stackOwned_iff {p : UInt8} (hp : p ∈ processIds) (hlen : raw.length = 1536) :
    (∀ e, Entry.at? raw 767 = some e → e.owner = .process p) ↔
      raw[1534]? = some (Owner.process p).tag := by
  obtain ⟨tag, ht⟩ : ∃ tag, raw[2 * 767]? = some tag := ⟨_, List.getElem?_eq_getElem (by omega)⟩
  obtain ⟨flag, hf⟩ := exists_flag hlen ht
  have he : Entry.at? raw 767 = some (.ofPair (tag, flag)) :=
    Entry.at?_eq_some_iff.mpr ⟨tag, flag, ht, hf, rfl⟩
  have owner : (Entry.ofPair (tag, flag)).owner = .process p ↔ tag = (Owner.process p).tag :=
    ofTag_eq_process_iff hp
  rw [he, ht]
  simp only [Option.some.injEq, forall_eq', owner]

theorem pagesAccepted_iff {g : Stage} {p : UInt8} (hp : p ∈ processIds) :
    PagesAccepted g (Owner.process p).tag raw ↔ raw.length = 1536 ∧
      (∀ i e, Entry.at? raw i = some e → ∀ r, ¬ KernelBreach i e r) ∧
      (2 ≤ g.number → ∀ i e, 256 ≤ i → Entry.at? raw i = some e → ∀ r, ¬ ProcessBreach p e r) ∧
      (4 ≤ g.number → ∀ e, Entry.at? raw 767 = some e → e.owner = .process p) := by
  constructor
  · intro h
    refine ⟨h.length, ?_, ?_, ?_⟩
    · exact (noKernelBreach_iff h.length).mpr
        ⟨⟨h.consoleTag, h.consoleFlag⟩, h.kernelClosed, h.accessMapped⟩
    · exact fun hg => (noProcessBreach_iff hp h.length).mpr (h.isolated hg)
    · exact fun hg => (stackOwned_iff hp h.length).mpr (h.stack hg)
  · intro h
    obtain ⟨hlen, hkernel, hprocess, hstack⟩ := h
    obtain ⟨⟨htag, hflag⟩, hclosed, hmapped⟩ := (noKernelBreach_iff hlen).mp hkernel
    exact {
      length := hlen
      consoleTag := htag
      consoleFlag := hflag
      kernelClosed := hclosed
      accessMapped := hmapped
      isolated := fun hg => (noProcessBreach_iff hp hlen).mp (hprocess hg)
      stack := fun hg => (stackOwned_iff hp hlen).mp (hstack hg) }

/-- Different owners are different tags. -/
theorem overlap_iff (hlen : raw.length = 1536) (hlen' : other.length = 1536) :
    Overlap (Entry.at? raw) (Entry.at? other) ↔ TagsOverlap raw other := by
  constructor
  · intro h
    obtain ⟨i, x, y, hx, hy, hxm, hym, hne⟩ := h
    obtain ⟨c, _, hc, _, rfl⟩ := Entry.at?_eq_some_iff.mp hx
    obtain ⟨e, _, he, _, rfl⟩ := Entry.at?_eq_some_iff.mp hy
    refine ⟨i, c, e, hc, he, ?_, ?_, ?_⟩
    · exact mt ofTag_eq_unmapped_iff.mpr hxm
    · exact mt ofTag_eq_unmapped_iff.mpr hym
    · exact fun hce => hne (congrArg (Owner.ofTag .virtual) hce)
  · intro h
    obtain ⟨i, c, e, hc, he, hcm, hem, hne⟩ := h
    obtain ⟨_, hcf⟩ := exists_flag hlen hc
    obtain ⟨_, hef⟩ := exists_flag hlen' he
    refine ⟨i, _, _, Entry.at?_eq_some_iff.mpr ⟨_, _, hc, hcf, rfl⟩,
      Entry.at?_eq_some_iff.mpr ⟨_, _, he, hef, rfl⟩, ?_, ?_, ?_⟩
    · exact mt ofTag_eq_unmapped_iff.mp hcm
    · exact mt ofTag_eq_unmapped_iff.mp hem
    · exact fun hce => hne (ofTag_injective .virtual hce)

end

/-! ## From dumps to lines -/

/-- What fails at a stage, split by the checks. -/
theorem noneFailing_iff {g : Stage} {d : Dump} :
    (∀ v, ¬ Failing g d v) ↔
      (∀ x ∈ d.virtualTexts, ∀ i e, Entry.at? x.2 i = some e → ∀ r, ¬ KernelBreach i e r) ∧
      (2 ≤ g.number → ∀ x ∈ d.virtualTexts, ∀ i e, 256 ≤ i → Entry.at? x.2 i = some e →
        ∀ r, ¬ ProcessBreach x.1 e r) ∧
      (3 ≤ g.number → ∀ j, j < 391 → d.physical[j]? ≠ some '.') ∧
      (4 ≤ g.number → (∀ j, j < 512 → d.physical[j]? ≠ some '.') ∧ d.Overlaps ∧
        ∀ x ∈ d.virtualTexts, ∀ e, Entry.at? x.2 767 = some e → e.owner = .process x.1) := by
  constructor
  · intro h
    have stage : ∀ t : Stage, t.number ≤ g.number → ∀ v, ¬ Breach d t v :=
      fun t ht v hv => h v ⟨t, ht, hv⟩
    have first : Stage.one.number ≤ g.number := by cases g <;> decide
    refine ⟨?_, ?_, ?_, ?_⟩
    · intro x hx i e he r hr
      exact stage .one first _ (.kernel hx he hr)
    · intro hg x hx i e hi he r hr
      exact stage .two hg _ (.process hx hi he hr)
    · intro hg j hj hfree
      exact stage .three hg _ (.progress hj hfree)
    · intro hg
      refine ⟨?_, ?_, ?_⟩
      · intro j hj hfree
        exact stage .four hg _ (.exhaustion hj hfree)
      · by_contra hno
        exact stage .four hg _ (.overlap hno)
      · intro x hx e he
        by_contra ho
        exact stage .four hg _ (.stack hx he ho)
  · intro h v hv
    obtain ⟨hone, htwo, hthree, hfour⟩ := h
    obtain ⟨t, ht, hb⟩ := hv
    cases hb with
    | kernel hx he hr => exact hone _ hx _ _ he _ hr
    | process hx hi he hr => exact htwo ht _ hx _ _ hi he _ hr
    | progress hj hfree => exact hthree ht _ hj hfree
    | exhaustion hj hfree => exact (hfour ht).1 _ hj hfree
    | overlap hno => exact hno (hfour ht).2.1
    | stack hx he ho => exact ho ((hfour ht).2.2 _ hx _ he)

/-- The virtual dumps stand on every other line from the fifth on. -/
theorem mem_virtualTexts_ofPlaces {ls : List Text} {x : UInt8 × Text} :
    x ∈ (Dump.ofPlaces ls).virtualTexts ↔
      ∃ p, 1 ≤ p ∧ p ≤ 4 ∧ x = (UInt8.ofNat p, virtualLine ls p) := by
  have texts : (Dump.ofPlaces ls).virtualTexts = [(1, virtualLine ls 1), (2, virtualLine ls 2),
      (3, virtualLine ls 3), (4, virtualLine ls 4)] := rfl
  rw [texts]
  constructor
  · intro hx
    simp only [List.mem_cons, List.not_mem_nil, or_false] at hx
    rcases hx with rfl | rfl | rfl | rfl
    · exact ⟨1, by decide, by decide, rfl⟩
    · exact ⟨2, by decide, by decide, rfl⟩
    · exact ⟨3, by decide, by decide, rfl⟩
    · exact ⟨4, by decide, by decide, rfl⟩
  · intro hx
    obtain ⟨p, h1, h4, rfl⟩ := hx
    have hp : p = 1 ∨ p = 2 ∨ p = 3 ∨ p = 4 := by omega
    rcases hp with rfl | rfl | rfl | rfl <;> simp

theorem tag_process_eq_digitChar {p : Nat} (h1 : 1 ≤ p) (h4 : p ≤ 4) :
    (Owner.process (UInt8.ofNat p)).tag = p.digitChar := by
  have hp : p = 1 ∨ p = 2 ∨ p = 3 ∨ p = 4 := by omega
  rcases hp with rfl | rfl | rfl | rfl <;> decide

theorem Dump.mem_processIds_of_mem {d : Dump} {x : UInt8 × Text} (hx : x ∈ d.virtualTexts) :
    x.1 ∈ processIds :=
  (List.of_mem_zip hx).1

/-- A dump passes if its texts are accepted and, in the end, two of them overlap. -/
theorem passes_iff {g : Stage} {d : Dump} :
    (d.WellSized ∧ ∀ v, ¬ Failing g d v) ↔ FramesAccepted g d.physical ∧
      (∀ x ∈ d.virtualTexts, PagesAccepted g (Owner.process x.1).tag x.2) ∧
      (4 ≤ g.number → d.Overlaps) := by
  rw [noneFailing_iff]
  constructor
  · intro h
    obtain ⟨⟨hframes, hpages⟩, hone, htwo, hthree, hfour⟩ := h
    refine ⟨⟨hframes, hthree, fun hg => (hfour hg).1⟩, ?_, fun hg => (hfour hg).2.1⟩
    intro x hx
    refine (pagesAccepted_iff (Dump.mem_processIds_of_mem hx)).mpr ⟨?_, hone x hx, ?_, ?_⟩
    · exact hpages x.2 (Dump.mem_virtuals_iff.mpr ⟨x.1, hx⟩)
    · exact fun hg => htwo hg x hx
    · exact fun hg => (hfour hg).2.2 x hx
  · intro h
    obtain ⟨hframes, hpages, hoverlap⟩ := h
    have pages := fun x hx => (pagesAccepted_iff (Dump.mem_processIds_of_mem hx)).mp (hpages x hx)
    refine ⟨⟨hframes.length, ?_⟩, ?_, ?_, hframes.progress, ?_⟩
    · intro raw hraw
      obtain ⟨p, hx⟩ := Dump.mem_virtuals_iff.mp hraw
      exact (pages _ hx).1
    · exact fun x hx => (pages x hx).2.1
    · exact fun hg x hx => (pages x hx).2.2.1 hg
    · exact fun hg => ⟨hframes.exhaustion hg, hoverlap hg, fun x hx => (pages x hx).2.2.2 hg⟩

theorem overlaps_ofPlaces_iff {ls : List Text}
    (hlen : ∀ p, 1 ≤ p → p ≤ 4 → (virtualLine ls p).length = 1536) :
    (Dump.ofPlaces ls).Overlaps ↔ ∃ p q, 1 ≤ p ∧ p < q ∧ q ≤ 4 ∧
      TagsOverlap (virtualLine ls p) (virtualLine ls q) := by
  constructor
  · intro h
    obtain ⟨x, hx, y, hy, hov⟩ := h
    obtain ⟨p, hp1, hp4, rfl⟩ := mem_virtualTexts_ofPlaces.mp hx
    obtain ⟨q, hq1, hq4, rfl⟩ := mem_virtualTexts_ofPlaces.mp hy
    have hp := hlen p hp1 hp4
    have hq := hlen q hq1 hq4
    rcases Nat.lt_trichotomy p q with hlt | rfl | hlt
    · exact ⟨p, q, hp1, hlt, hq4, (overlap_iff hp hq).mp hov⟩
    · exact absurd hov (Overlap.irrefl _)
    · exact ⟨q, p, hq1, hlt, hp4, (overlap_iff hq hp).mp hov.symm⟩
  · intro h
    obtain ⟨p, q, hp1, hlt, hq4, hov⟩ := h
    have hp4 : p ≤ 4 := by omega
    have hq1 : 1 ≤ q := by omega
    exact ⟨_, mem_virtualTexts_ofPlaces.mpr ⟨p, hp1, hp4, rfl⟩,
      _, mem_virtualTexts_ofPlaces.mpr ⟨q, hq1, hq4, rfl⟩,
      (overlap_iff (hlen p hp1 hp4) (hlen q hq1 hq4)).mpr hov⟩

theorem accepted_iff {g : Stage} {ls : List Text} :
    Accepted g ls ↔ Dump.WellFormed ls ∧ (Dump.ofPlaces ls).WellSized ∧
      ∀ v, ¬ Failing g (Dump.ofPlaces ls) v := by
  rw [passes_iff]
  constructor
  · intro h
    have hlen : ∀ p, 1 ≤ p → p ≤ 4 → (virtualLine ls p).length = 1536 :=
      fun p h1 h4 => (h.pages p h1 h4).length
    refine ⟨h.wellFormed, h.frames, ?_, fun hg => (overlaps_ofPlaces_iff hlen).mpr (h.overlap hg)⟩
    intro x hx
    obtain ⟨p, h1, h4, rfl⟩ := mem_virtualTexts_ofPlaces.mp hx
    rw [tag_process_eq_digitChar h1 h4]
    exact h.pages p h1 h4
  · intro h
    obtain ⟨hwell, hframes, hpages, hoverlap⟩ := h
    have pages : ∀ p, 1 ≤ p → p ≤ 4 → PagesAccepted g p.digitChar (virtualLine ls p) := by
      intro p h1 h4
      rw [← tag_process_eq_digitChar h1 h4]
      exact hpages _ (mem_virtualTexts_ofPlaces.mpr ⟨p, h1, h4, rfl⟩)
    have hlen := fun p h1 h4 => (pages p h1 h4).length
    exact ⟨hwell, hframes, pages, fun hg => (overlaps_ofPlaces_iff hlen).mp (hoverlap hg)⟩

/-! ## The verdict on a log -/

namespace Auditor

theorem passed_auditLog_iff {a : Auditor} {g : Stage} {log : Text} :
    (a.auditLog g log).verdict.passed = true ↔
      ∃ d, Dump.parse log = .ok d ∧ (a.auditDump g d).verdict.passed = true := by
  unfold auditLog
  cases Dump.parse log with
  | error f => simp [Verdict.passed]
  | ok d => simp

/-- A log passes the checks of a stage exactly if its lines are accepted, whatever the width of
the auditor and whatever the page counts of the processes. -/
theorem passed_auditLog_iff_accepted (a : Auditor) (g : Stage) (log : Text) :
    (a.auditLog g log).verdict.passed = true ↔ ∃ ls, BreaksInto log ls ∧ Accepted g ls := by
  rw [passed_auditLog_iff]
  constructor
  · intro h
    obtain ⟨d, hparse, hpassed⟩ := h
    have hls := breaksInto_lines log
    rw [Dump.parse_of_breaksInto hls, Dump.ofLines_eq_ok_iff] at hparse
    obtain ⟨hwell, rfl⟩ := hparse
    exact ⟨_, hls, accepted_iff.mpr ⟨hwell, passed_auditDump_iff.mp hpassed⟩⟩
  · intro h
    obtain ⟨ls, hls, haccepted⟩ := h
    obtain ⟨hwell, hpasses⟩ := accepted_iff.mp haccepted
    refine ⟨Dump.ofPlaces ls, ?_, passed_auditDump_iff.mpr hpasses⟩
    rw [Dump.parse_of_breaksInto hls]
    exact Dump.ofLines_eq_ok_iff.mpr ⟨hwell, rfl⟩

end Auditor

end PageAudit
