import PageAudit.Memory.Image
import PageAudit.Proofs.Steps
import Mathlib.Logic.Function.Basic

/-!
# What decoding makes of a dump

A tag stands for one owner and an owner for one tag, the page with index `i` of a virtual dump
is what characters `2 i` and `2 i + 1` say (`Entry.at?`), and a dump is decoded exactly if its
texts have the lengths of the machine (`Dump.WellSized`).

* `ofTag_injective`: no two tags of a dump stand for one owner;
* `AddressSpace.decode_eq_ok_iff`, `FrameMap.decode_eq_ok_iff`: what one text is decoded to;
* `Dump.exists_decode_iff`, `Dump.exists_space_iff`: what a whole dump is decoded to.
-/
namespace PageAudit

open Steps

/-! ## Tags -/

theorem ofTag_injective (s : Space) : Function.Injective (Owner.ofTag s) :=
  Function.LeftInverse.injective (Owner.tag_ofTag s)

theorem ofTag_eq_free_iff {c : Char} : Owner.ofTag .physical c = .free ↔ c = '.' :=
  (ofTag_injective .physical).eq_iff (b := '.')

theorem ofTag_eq_unmapped_iff {c : Char} : Owner.ofTag .virtual c = .unmapped ↔ c = '.' :=
  (ofTag_injective .virtual).eq_iff (b := '.')

theorem ofTag_eq_console_iff {c : Char} : Owner.ofTag .virtual c = .console ↔ c = 'C' :=
  (ofTag_injective .virtual).eq_iff (b := 'C')

theorem ofTag_tag_process {s : Space} {p : UInt8} (hp : p ∈ processIds) :
    Owner.ofTag s (Owner.process p).tag = .process p := by
  simp only [processIds, List.mem_cons, List.not_mem_nil, or_false] at hp
  rcases hp with rfl | rfl | rfl | rfl <;> rfl

theorem ofTag_eq_process_iff {s : Space} {p : UInt8} (hp : p ∈ processIds) {c : Char} :
    Owner.ofTag s c = .process p ↔ c = (Owner.process p).tag := by
  have h := (ofTag_injective s).eq_iff (a := c) (b := (Owner.process p).tag)
  rwa [ofTag_tag_process hp] at h

/-! ## One text -/

theorem Entry.ofPair_user_eq_true_iff {tag flag : Char} :
    (Entry.ofPair (tag, flag)).user = true ↔ flag = 'u' :=
  beq_iff_eq

/-- The page of an index in a virtual dump. -/
def Entry.at? (raw : Text) (i : Nat) : Option Entry :=
  match raw[2 * i]?, raw[2 * i + 1]? with
  | some tag, some flag => some (.ofPair (tag, flag))
  | _, _ => none

theorem Entry.at?_eq_some_iff {raw : Text} {i : Nat} {e : Entry} :
    Entry.at? raw i = some e ↔
      ∃ tag flag, raw[2 * i]? = some tag ∧ raw[2 * i + 1]? = some flag ∧ e = .ofPair (tag, flag) := by
  unfold Entry.at?
  split
  · next tag flag ht hf => simp [ht, hf, eq_comm]
  · next h =>
    constructor
    · intro he; cases he
    · intro hpair
      obtain ⟨tag, flag, ht, hf, -⟩ := hpair
      exact absurd hf (h tag flag ht)

theorem map_ofPair_pairs_getElem? (raw : Text) (i : Nat) :
    ((pairs raw).map Entry.ofPair)[i]? = Entry.at? raw i := by
  induction raw using pairs.induct generalizing i with
  | case1 a b r ih =>
    cases i with
    | zero => rfl
    | succ i =>
      rw [pairs, List.map_cons, List.getElem?_cons_succ, ih i]
      rfl
  | case2 l h =>
    rcases l with _ | ⟨a, _ | ⟨b, r⟩⟩
    · simp [pairs, Entry.at?]
    · simp [pairs, Entry.at?]
    · exact absurd rfl (h a b r)

theorem AddressSpace.exists_decode_iff (p : UInt8) (raw : Text) :
    (∃ s, AddressSpace.decode p raw = .ok s) ↔ raw.length = 2 * pageCount := by
  unfold AddressSpace.decode
  split <;> simp [*]

theorem AddressSpace.decode_eq_ok_iff {p : UInt8} {raw : Text} {s : AddressSpace} :
    AddressSpace.decode p raw = .ok s ↔
      raw.length = 2 * pageCount ∧ s.pid = p ∧ s.entry? = Entry.at? raw := by
  unfold AddressSpace.decode
  split
  · next h =>
    simp only [h, Except.ok.injEq, true_and]
    constructor
    · intro hs
      subst hs
      exact ⟨rfl, funext (map_ofPair_pairs_getElem? raw)⟩
    · intro hs
      obtain ⟨rfl, he⟩ := hs
      obtain ⟨pid, entries, len⟩ := s
      congr 1
      apply List.ext_getElem?
      intro i
      rw [map_ofPair_pairs_getElem?]
      exact (congrFun he i).symm
  · next h => simp [h]

theorem FrameMap.exists_decode_iff (raw : Text) :
    (∃ m, FrameMap.decode raw = .ok m) ↔ raw.length = frameCount := by
  unfold FrameMap.decode
  split <;> simp [*]

theorem FrameMap.decode_eq_ok_iff {raw : Text} {m : FrameMap} :
    FrameMap.decode raw = .ok m ↔
      raw.length = frameCount ∧ m.owners = raw.map (Owner.ofTag .physical) := by
  unfold FrameMap.decode
  split
  · next h =>
    simp only [h, Except.ok.injEq, true_and]
    constructor
    · intro hm
      subst hm
      rfl
    · intro hm
      obtain ⟨owners, len⟩ := m
      simp only at hm
      subst hm; rfl
  · next h => simp [h]

theorem FrameMap.owner?_of_decode {raw : Text} {m : FrameMap} (h : FrameMap.decode raw = .ok m)
    (i : Nat) : m.owner? i = raw[i]?.map (Owner.ofTag .physical) := by
  rw [FrameMap.owner?, (FrameMap.decode_eq_ok_iff.mp h).2, List.getElem?_map]

/-! ## A dump -/

theorem forall_mem_processIds {P : UInt8 → Prop} :
    (∀ p ∈ processIds, P p) ↔ P 1 ∧ P 2 ∧ P 3 ∧ P 4 := by
  simp [processIds]

/-- The virtual dumps with the processes that they are of. -/
def Dump.virtualTexts (d : Dump) : List (UInt8 × Text) := processIds.zip d.virtuals.toList

/-- Whether the texts of a dump have the lengths of the machine. -/
def Dump.WellSized (d : Dump) : Prop :=
  d.physical.length = frameCount ∧ ∀ raw ∈ d.virtuals.toList, raw.length = 2 * pageCount

theorem Dump.mem_virtuals_iff {d : Dump} {raw : Text} :
    raw ∈ d.virtuals.toList ↔ ∃ p, (p, raw) ∈ d.virtualTexts := by
  obtain ⟨_, a, b, c, e, rfl⟩ := Dump.exists_mk d
  simp [virtualTexts, processIds, exists_or]

/-- The virtual dump of a process. -/
def Dump.virtualOf (d : Dump) (p : UInt8) : Text := d.virtuals.toList.getD (p.toNat - 1) []

/-- Every process has one virtual dump. -/
theorem Dump.mem_virtualTexts_iff {d : Dump} {x : UInt8 × Text} :
    x ∈ d.virtualTexts ↔ x.1 ∈ processIds ∧ x.2 = d.virtualOf x.1 := by
  obtain ⟨p, raw⟩ := x
  obtain ⟨_, a, b, c, e, rfl⟩ := Dump.exists_mk d
  simp only [virtualTexts, processIds, Vector.toList_mk, List.zip_cons_cons, List.zip_nil_right,
    List.mem_cons, Prod.mk.injEq, List.not_mem_nil, or_false]
  constructor
  · intro h
    rcases h with ⟨rfl, rfl⟩ | ⟨rfl, rfl⟩ | ⟨rfl, rfl⟩ | ⟨rfl, rfl⟩ <;> exact ⟨by decide, rfl⟩
  · intro h
    obtain ⟨hp, rfl⟩ := h
    rcases hp with rfl | rfl | rfl | rfl
    · exact .inl ⟨rfl, rfl⟩
    · exact .inr (.inl ⟨rfl, rfl⟩)
    · exact .inr (.inr (.inl ⟨rfl, rfl⟩))
    · exact .inr (.inr (.inr ⟨rfl, rfl⟩))

theorem Dump.length_virtualOf {d : Dump} (h : d.WellSized) {p : UInt8} (hp : p ∈ processIds) :
    (d.virtualOf p).length = 2 * pageCount :=
  h.2 _ (Dump.mem_virtuals_iff.mpr ⟨p, Dump.mem_virtualTexts_iff.mpr ⟨hp, rfl⟩⟩)

theorem Dump.wellSized_iff {d : Dump} : d.WellSized ↔
    d.physical.length = 512 ∧ ∀ p ∈ processIds, (d.virtualOf p).length = 1536 := by
  constructor
  · intro sized
    exact ⟨sized.1, fun p hp => Dump.length_virtualOf sized hp⟩
  · intro sized
    refine ⟨sized.1, ?_⟩
    intro raw hraw
    obtain ⟨p, hx⟩ := Dump.mem_virtuals_iff.mp hraw
    obtain ⟨hp, rfl⟩ : p ∈ processIds ∧ raw = d.virtualOf p := Dump.mem_virtualTexts_iff.mp hx
    exact sized.2 p hp

theorem Dump.wellSized_replicate (tag other : Char) :
    Dump.WellSized ⟨List.replicate 512 tag, Vector.replicate 4 (List.replicate 1536 other)⟩ := by
  refine ⟨List.length_replicate, ?_⟩
  intro raw hraw
  rw [Vector.toList_replicate] at hraw
  obtain rfl := List.eq_of_mem_replicate hraw
  exact List.length_replicate

theorem Dump.decode_eq_ok_iff {d : Dump} {image : Image} :
    d.decode = .ok image ↔ FrameMap.decode d.physical = .ok image.frames ∧
      d.virtualTexts.mapM (fun x => AddressSpace.decode x.1 x.2) = .ok image.spaces := by
  unfold Dump.decode
  rw [bind_eq_ok_iff]
  constructor
  · intro hdec
    obtain ⟨frames, hf, h⟩ := hdec
    obtain ⟨spaces, hs, h⟩ := bind_eq_ok_iff.mp h
    cases h
    exact ⟨hf, hs⟩
  · intro hparts
    obtain ⟨hf, hs⟩ := hparts
    exact ⟨_, hf, bind_eq_ok_iff.mpr ⟨_, hs, rfl⟩⟩

/-- Exactly the dumps whose texts have the right lengths are decoded. -/
theorem Dump.exists_decode_iff {d : Dump} : (∃ image, d.decode = .ok image) ↔ d.WellSized := by
  have frames := FrameMap.exists_decode_iff d.physical
  have spaces := exists_mapM_eq_ok_iff (f := fun x => AddressSpace.decode x.1 x.2)
    (l := d.virtualTexts)
  simp only [AddressSpace.exists_decode_iff] at spaces
  constructor
  · intro hdec
    obtain ⟨image, h⟩ := hdec
    obtain ⟨hf, hs⟩ := Dump.decode_eq_ok_iff.mp h
    refine ⟨frames.mp ⟨_, hf⟩, ?_⟩
    intro raw hraw
    obtain ⟨p, hp⟩ := Dump.mem_virtuals_iff.mp hraw
    exact spaces.mp ⟨_, hs⟩ _ hp
  · intro sized
    obtain ⟨hf, hv⟩ := sized
    obtain ⟨m, hm⟩ := frames.mpr hf
    obtain ⟨ss, hss⟩ := spaces.mpr fun x hx => hv x.2 (Dump.mem_virtuals_iff.mpr ⟨x.1, hx⟩)
    exact ⟨⟨m, ss⟩, Dump.decode_eq_ok_iff.mpr ⟨hm, hss⟩⟩

section
variable {d : Dump} {image : Image} (h : d.decode = .ok image)
include h

theorem Dump.pids_of_decode : image.spaces.map (·.pid) = processIds := by
  have keys := map_eq_of_mapM_eq_ok (Dump.decode_eq_ok_iff.mp h).2 Prod.fst (·.pid)
    fun x s hs => (AddressSpace.decode_eq_ok_iff.mp hs).2.1.symm
  obtain ⟨_, a, b, c, e, rfl⟩ := Dump.exists_mk d
  exact keys.symm

/-- The address space of a process is the one that its virtual dump shows. -/
theorem Dump.entry?_of_decode {s : AddressSpace} (hs : s ∈ image.spaces) :
    s.pid ∈ processIds ∧ s.entry? = Entry.at? (d.virtualOf s.pid) := by
  obtain ⟨x, hx, hdec⟩ := (mem_iff_of_mapM_eq_ok (Dump.decode_eq_ok_iff.mp h).2).mp hs
  obtain ⟨-, hpid, hentry⟩ := AddressSpace.decode_eq_ok_iff.mp hdec
  obtain ⟨hp, hraw⟩ := Dump.mem_virtualTexts_iff.mp hx
  rw [hentry, hraw, hpid]
  exact ⟨hp, rfl⟩

/-- What is said of the address spaces of a dump is said of its texts. -/
theorem Dump.exists_space_iff {P : UInt8 → (Nat → Option Entry) → Prop} :
    (∃ s ∈ image.spaces, P s.pid s.entry?) ↔ ∃ x ∈ d.virtualTexts, P x.1 (Entry.at? x.2) := by
  have hs := (Dump.decode_eq_ok_iff.mp h).2
  constructor
  · intro hspace
    obtain ⟨s, hmem, hP⟩ := hspace
    obtain ⟨x, hx, hdec⟩ := (mem_iff_of_mapM_eq_ok hs).mp hmem
    obtain ⟨-, hpid, hentry⟩ := AddressSpace.decode_eq_ok_iff.mp hdec
    exact ⟨x, hx, hpid ▸ hentry ▸ hP⟩
  · intro htext
    obtain ⟨x, hx, hP⟩ := htext
    obtain ⟨s, hdec⟩ := exists_mapM_eq_ok_iff.mp ⟨_, hs⟩ x hx
    obtain ⟨-, hpid, hentry⟩ := AddressSpace.decode_eq_ok_iff.mp hdec
    exact ⟨s, (mem_iff_of_mapM_eq_ok hs).mpr ⟨x, hx, hdec⟩, hpid ▸ hentry ▸ hP⟩

/-- Every process has an address space, the one that its virtual dump shows. -/
theorem Dump.exists_space_of_pid {p : UInt8} (hp : p ∈ processIds) :
    ∃ s ∈ image.spaces, s.pid = p ∧ s.entry? = Entry.at? (d.virtualOf p) :=
  (Dump.exists_space_iff h (P := fun q f => q = p ∧ f = Entry.at? (d.virtualOf p))).mpr
    ⟨(p, d.virtualOf p), Dump.mem_virtualTexts_iff.mpr ⟨hp, rfl⟩, rfl, rfl⟩

end

end PageAudit
