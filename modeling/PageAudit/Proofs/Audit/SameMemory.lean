import PageAudit.Audit.Auditor
import PageAudit.Proofs.Memory.Encoding

/-!
# Dumps that show the same memory

An audit looks at a dump through the memory that it shows; only the rows of the report are taken
from the dump itself. So a dump whose virtual dumps are written again from the address spaces
that they show (`Dump.recode`) gets the same verdict and the same log of the run.

* `auditDump_of_decode_eq`: reports on dumps that show the same memory;
* `encodings_lossless`: what is lost by decoding and encoding, and that no audit depends on it.
-/
namespace PageAudit

/-- The dump with every virtual dump written again from the address space that it shows. -/
def Dump.recode (d : Dump) : Dump :=
  { d with virtuals := d.virtuals.mapIdx fun i raw => AddressSpace.recode (UInt8.ofNat (i + 1)) raw }

theorem Dump.decode_recode (d : Dump) : d.recode.decode = d.decode := by
  obtain ⟨p, a, b, c, e, rfl⟩ := Dump.exists_mk d
  have texts : (Dump.recode ⟨p, #v[a, b, c, e]⟩) = ⟨p, #v[AddressSpace.recode 1 a,
      AddressSpace.recode 2 b, AddressSpace.recode 3 c, AddressSpace.recode 4 e]⟩ := rfl
  rw [texts]
  simp only [Dump.decode, processIds, Vector.toList_mk, List.zip_cons_cons, List.zip_nil_right,
    List.mapM_cons, AddressSpace.decode_recode]

theorem Auditor.auditDump_of_decode_eq {a : Auditor} {g : Stage} {d d' : Dump}
    (h : d'.decode = d.decode) :
    a.auditDump g d' = { a.auditDump g d with rows := d'.rows a.width } := by
  unfold Auditor.auditDump
  rw [h]
  cases d.decode <;> rfl

/-- Exactly the dumps of the right lengths are decoded. Of a virtual dump the encoding gives back
all but the flags that are not the user flag, and decoding the encoding gives the same address
space; of the physical dump nothing is lost. The owners that are decoded are those that tags can
stand for. So a dump whose virtual dumps are encoded again gets the same report but for the rows,
at every stage. -/
theorem encodings_lossless :
    (∀ (p : UInt8) (raw : Text),
      ((∃ s, AddressSpace.decode p raw = .ok s) ↔ raw.length = 1536) ∧
      (∀ s, AddressSpace.decode p raw = .ok s →
        s.encode = closeFlags raw ∧ AddressSpace.decode p s.encode = .ok s ∧
        ∀ e ∈ s.entries, e.owner.Legible .virtual) ∧
      AddressSpace.recode p (AddressSpace.recode p raw) = AddressSpace.recode p raw) ∧
    (∀ raw : Text, ((∃ m, FrameMap.decode raw = .ok m) ↔ raw.length = 512) ∧
      ∀ m, FrameMap.decode raw = .ok m → m.tags = raw ∧ ∀ o ∈ m.owners, o.Legible .physical) ∧
    ∀ (a : Auditor) (g : Stage) (d : Dump),
      a.auditDump g d.recode = { a.auditDump g d with rows := d.recode.rows a.width } := by
  refine ⟨?_, ?_, ?_⟩
  · intro p raw
    refine ⟨AddressSpace.exists_decode_iff p raw, ?_, AddressSpace.recode_recode p raw⟩
    intro s h
    exact ⟨AddressSpace.encode_of_decode h, AddressSpace.decode_encode_of_decode h,
      AddressSpace.legible_of_decode h⟩
  · intro raw
    refine ⟨FrameMap.exists_decode_iff raw, ?_⟩
    intro m h
    exact ⟨FrameMap.tags_of_decode h, FrameMap.legible_of_decode h⟩
  · intro a g d
    exact Auditor.auditDump_of_decode_eq d.decode_recode

/-- Where no character means anything, tags come back as they were and flags as blanks. -/
theorem encodings_lossless_on_crosses :
    let raw := List.replicate 1536 'x'
    let frames := List.replicate 512 'x'
    (∃ s, AddressSpace.decode 9 raw = .ok s ∧ s.encode = closeFlags raw ∧ s.encode[1]? = some ' ' ∧
      AddressSpace.decode 9 s.encode = .ok s ∧ ∀ e ∈ s.entries, e.owner ≠ .free) ∧
    ∃ m, FrameMap.decode frames = .ok m ∧ m.tags = frames ∧ ∀ o ∈ m.owners, o ≠ .unmapped := by
  intro raw frames
  obtain ⟨virtual, physical, -⟩ := encodings_lossless
  refine ⟨?_, ?_⟩
  · obtain ⟨s, hs⟩ := (virtual 9 raw).1.mpr List.length_replicate
    obtain ⟨hencode, hback, hlegible⟩ := (virtual 9 raw).2.1 s hs
    refine ⟨s, hs, hencode, ?_, hback, ?_⟩
    · rw [hencode, closeFlags, List.getElem?_mapIdx, List.getElem?_replicate_of_lt (by decide)]
      rfl
    · intro e he hfree
      cases (hlegible e he).free hfree
  · obtain ⟨m, hm⟩ := (physical frames).1.mpr List.length_replicate
    obtain ⟨htags, hlegible⟩ := (physical frames).2 m hm
    refine ⟨m, hm, htags, ?_⟩
    intro o ho hunmapped
    cases (hlegible o ho).unmapped hunmapped

end PageAudit
