import PageAudit.Proofs.Memory.Encoding
import Mathlib.Logic.Equiv.Basic

/-!
# Renaming the tags of a dump

A renaming exchanges tags for others, each tag for one, but leaves the dot and the tag of the
console as they are and makes digits of processes into digits of processes. Applied to a dump it
renames the frame tags and the page tags and keeps the flags, and since the processes change their
digits, it also gives the virtual dump of each process to the process of its new digit.

* `digitChar_process`, `symm_process`: what a renaming makes of the processes;
* `virtualOf_dump`: a process that is renamed keeps its virtual dump;
* `symm_dump`: a renaming can be undone;
* `at?_tags`, `owner_eq_iff`: what it makes of pages and owners.
-/
namespace PageAudit

/-- A way to exchange the tags of dumps for others. -/
structure Renaming where
  /-- The new tag for each tag. -/
  tag : Equiv.Perm Char
  vacant : tag '.' = '.'
  console : tag 'C' = 'C'
  /-- Tags of processes become tags of processes, and no others do. -/
  digits : ∀ c, tag c ∈ ['1', '2', '3', '4'] ↔ c ∈ ['1', '2', '3', '4']

namespace Renaming

variable (r : Renaming)

/-- The renaming that undoes another. -/
def symm : Renaming where
  tag := r.tag.symm
  vacant := by rw [Equiv.symm_apply_eq, r.vacant]
  console := by rw [Equiv.symm_apply_eq, r.console]
  digits c := by rw [← r.digits, Equiv.apply_symm_apply]

/-! ## Processes -/

/-- The process that a process becomes. -/
def process (p : UInt8) : UInt8 := UInt8.ofNat ((r.tag p.toNat.digitChar).toNat - '0'.toNat)

theorem eq_of_digitChar_eq : ∀ p ∈ processIds, ∀ q ∈ processIds,
    p.toNat.digitChar = q.toNat.digitChar → p = q := by
  simp only [forall_mem_processIds]
  decide

theorem digitChar_process {p : UInt8} (hp : p ∈ processIds) :
    r.process p ∈ processIds ∧ (r.process p).toNat.digitChar = r.tag p.toNat.digitChar := by
  have ids : ∀ q ∈ processIds, q.toNat.digitChar ∈ ['1', '2', '3', '4'] :=
    forall_mem_processIds.mpr (by decide)
  have back : ∀ c ∈ ['1', '2', '3', '4'], UInt8.ofNat (c.toNat - '0'.toNat) ∈ processIds ∧
      (UInt8.ofNat (c.toNat - '0'.toNat)).toNat.digitChar = c := by
    simp only [List.forall_mem_cons, List.not_mem_nil, false_implies, implies_true, and_true]
    decide
  exact back _ ((r.digits _).mpr (ids p hp))

theorem symm_process {p : UInt8} (hp : p ∈ processIds) : r.symm.process (r.process p) = p := by
  obtain ⟨hq, digit⟩ := r.digitChar_process hp
  obtain ⟨hback, digit'⟩ := r.symm.digitChar_process hq
  refine eq_of_digitChar_eq _ hback p hp ?_
  rw [digit', digit]
  exact r.tag.symm_apply_apply _

theorem process_symm {p : UInt8} (hp : p ∈ processIds) : r.process (r.symm.process p) = p :=
  r.symm.symm_process hp

/-! ## Dumps -/

/-- A virtual dump with its tags renamed and its flags as they were. -/
def tags (raw : Text) : Text := raw.mapIdx fun i c => if i % 2 = 0 then r.tag c else c

/-- A dump with all its tags renamed, and the virtual dump of each process at its new place. -/
def dump (d : Dump) : Dump :=
  ⟨d.physical.map r.tag, #v[1, 2, 3, 4].map fun q => r.tags (d.virtualOf (r.symm.process q))⟩

theorem length_tags (raw : Text) : (r.tags raw).length = raw.length := List.length_mapIdx

theorem symm_tags (raw : Text) : r.symm.tags (r.tags raw) = raw := by
  apply List.ext_getElem?
  intro i
  simp only [tags, List.getElem?_mapIdx, Option.map_map]
  by_cases h : i % 2 = 0
  · simp [h, symm, Function.comp_def]
  · simp [h, Function.comp_def]

theorem virtualOf_dump (d : Dump) {p : UInt8} (hp : p ∈ processIds) :
    (r.dump d).virtualOf (r.process p) = r.tags (d.virtualOf p) := by
  have slot : ∀ q ∈ processIds,
      (r.dump d).virtualOf q = r.tags (d.virtualOf (r.symm.process q)) := by
    simp only [Dump.virtualOf, dump, Vector.toList_map]
    exact forall_mem_processIds.mpr ⟨rfl, rfl, rfl, rfl⟩
  rw [slot _ (r.digitChar_process hp).1, r.symm_process hp]

theorem wellSized_dump {d : Dump} (h : d.WellSized) : (r.dump d).WellSized := by
  refine ⟨(List.length_map _).trans h.1, ?_⟩
  intro raw hraw
  obtain ⟨q, hq⟩ := Dump.mem_virtuals_iff.mp hraw
  obtain ⟨hid, hraw⟩ : q ∈ processIds ∧ raw = (r.dump d).virtualOf q :=
    Dump.mem_virtualTexts_iff.mp hq
  have back := r.symm.digitChar_process hid
  have slot := r.virtualOf_dump d back.1
  rw [r.process_symm hid] at slot
  rw [hraw, slot, length_tags, Dump.length_virtualOf h back.1]

/-- A dump is its physical dump and the virtual dumps of the processes. -/
theorem dump_ext {d e : Dump} (physical : d.physical = e.physical)
    (virtuals : ∀ p ∈ processIds, d.virtualOf p = e.virtualOf p) : d = e := by
  obtain ⟨_, a, b, c, f, rfl⟩ := Dump.exists_mk d
  obtain ⟨_, a', b', c', f', rfl⟩ := Dump.exists_mk e
  obtain rfl := physical
  obtain rfl : a = a' := virtuals 1 (by decide)
  obtain rfl : b = b' := virtuals 2 (by decide)
  obtain rfl : c = c' := virtuals 3 (by decide)
  obtain rfl : f = f' := virtuals 4 (by decide)
  rfl

theorem symm_dump (d : Dump) : r.symm.dump (r.dump d) = d := by
  apply dump_ext
  · simp [dump, symm]
  · intro p hp
    have hq := (r.digitChar_process hp).1
    have slot := r.symm.virtualOf_dump (r.dump d) hq
    rw [r.symm_process hp, r.virtualOf_dump d hp, r.symm_tags] at slot
    exact slot

/-! ## Owners and pages -/

/-- The owner of a page that is renamed. -/
def owner (o : Owner) : Owner := Owner.ofTag .virtual (r.tag o.tag)

/-- A page that is renamed. -/
def entry (e : Entry) : Entry := ⟨r.owner e.owner, e.user⟩

/-- A renamed owner is the owner of the renamed tag. -/
theorem owner_eq_iff {o : Owner} (ho : o.Legible .virtual) {t u : Char} (ht : r.tag t = u) :
    r.owner o = Owner.ofTag .virtual u ↔ o = Owner.ofTag .virtual t := by
  have renamed : r.owner o = Owner.ofTag .virtual u ↔ o.tag = t := by
    rw [owner, (ofTag_injective .virtual).eq_iff, ← ht, r.tag.injective.eq_iff]
  have same := (ofTag_injective .virtual).eq_iff (a := o.tag) (b := t)
  rw [ofTag_tag_iff.mpr ho] at same
  rw [renamed, same]

theorem owner_eq_unmapped_iff {o : Owner} (ho : o.Legible .virtual) :
    r.owner o = .unmapped ↔ o = .unmapped :=
  r.owner_eq_iff ho r.vacant

theorem owner_eq_console_iff {o : Owner} (ho : o.Legible .virtual) :
    r.owner o = .console ↔ o = .console :=
  r.owner_eq_iff ho r.console

theorem owner_eq_process_iff {o : Owner} (ho : o.Legible .virtual) {p : UInt8}
    (hp : p ∈ processIds) : r.owner o = .process (r.process p) ↔ o = .process p := by
  have ids : ∀ q ∈ processIds, Owner.ofTag .virtual q.toNat.digitChar = .process q :=
    forall_mem_processIds.mpr (by decide)
  obtain ⟨hq, digit⟩ := r.digitChar_process hp
  rw [← ids p hp, ← ids _ hq]
  exact r.owner_eq_iff ho digit.symm

theorem owner_inj {o o' : Owner} (ho : o.Legible .virtual) (ho' : o'.Legible .virtual) :
    r.owner o = r.owner o' ↔ o = o' := by
  have same := r.owner_eq_iff ho (t := o'.tag) rfl
  rwa [ofTag_tag_iff.mpr ho'] at same

theorem legible_of_at? {raw : Text} {i : Nat} {e : Entry} (h : Entry.at? raw i = some e) :
    e.owner.Legible .virtual := by
  obtain ⟨tag, flag, -, -, rfl⟩ := Entry.at?_eq_some_iff.mp h
  exact legible_ofTag .virtual tag

/-- The pages of a renamed dump are the renamed pages of the dump. -/
theorem at?_tags {raw : Text} {i : Nat} {e : Entry} (h : Entry.at? raw i = some e) :
    Entry.at? (r.tags raw) i = some (r.entry e) := by
  obtain ⟨tag, flag, ht, hf, rfl⟩ := Entry.at?_eq_some_iff.mp h
  refine Entry.at?_eq_some_iff.mpr ⟨r.tag tag, flag, ?_, ?_, ?_⟩
  · simp [tags, ht]
  · simp [tags, hf]
  · simp [entry, owner, Entry.ofPair]

end Renaming

end PageAudit
