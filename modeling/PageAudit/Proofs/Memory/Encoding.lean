import PageAudit.Proofs.Memory.Decoding

/-!
# Encoding what was decoded

A tag can be read back from its owner, but not every owner has a tag that stands for it:
`Owner.Legible` are the owners that can be read. All pages of a decoded address space have such
owners, so the address space can be encoded and decoded again, and its encoding is the dump that
it was read from, but for the flags that are not the user flag (`closeFlags`).

* `ofTag_tag_iff`: the owners that their tags stand for;
* `encode_of_decode`, `decode_encode_of_decode`: encoding undoes decoding and the reverse;
* `decode_recode`: a dump and the encoding of what it shows are decoded alike.
-/
namespace PageAudit

/-! ## Owners that can be read -/

theorem mem_processIds_iff {p : UInt8} : p ∈ processIds ↔ 1 ≤ p ∧ p ≤ 4 := by
  simp only [processIds, List.mem_cons, List.not_mem_nil, or_false, UInt8.le_iff_toNat_le,
    ← UInt8.toNat_inj, UInt8.reduceToNat]
  omega

/-- Whether a tag can stand for the owner in the given space. -/
structure Owner.Legible (s : Space) (o : Owner) : Prop where
  free : o = .free → s = .physical
  unmapped : o = .unmapped → s = .virtual
  process : ∀ n, o = .process n → 1 ≤ n ∧ n ≤ 4
  other : ∀ c, o = .other c → c ∉ ['.', 'R', 'K', 'C', '1', '2', '3', '4']

theorem ofTag_of_not_mem {s : Space} {c : Char}
    (h : c ∉ ['.', 'R', 'K', 'C', '1', '2', '3', '4']) : Owner.ofTag s c = .other c := by
  unfold Owner.ofTag
  split
  case h_9 => rfl
  all_goals exact absurd (by decide) h

theorem legible_ofTag (s : Space) (c : Char) : (Owner.ofTag s c).Legible s := by
  by_cases hc : c ∈ ['.', 'R', 'K', 'C', '1', '2', '3', '4']
  · simp only [List.mem_cons, List.not_mem_nil, or_false] at hc
    rcases hc with rfl | rfl | rfl | rfl | rfl | rfl | rfl | rfl
    · cases s with
      | physical => exact ⟨fun _ => rfl, nofun, nofun, nofun⟩
      | virtual => exact ⟨nofun, fun _ => rfl, nofun, nofun⟩
    iterate 3 exact ⟨nofun, nofun, nofun, nofun⟩
    all_goals
      refine ⟨nofun, nofun, ?_, nofun⟩
      intro n hn
      cases hn
      decide
  · rw [ofTag_of_not_mem hc]
    refine ⟨nofun, nofun, nofun, ?_⟩
    intro d hd
    cases hd
    exact hc

/-- The owners that are read back from their tags are those that can be read at all. -/
theorem ofTag_tag_iff {s : Space} {o : Owner} : Owner.ofTag s o.tag = o ↔ o.Legible s := by
  constructor
  · intro h
    rw [← h]
    exact legible_ofTag s o.tag
  · intro h
    cases o with
    | free => rw [h.free rfl]; rfl
    | unmapped => rw [h.unmapped rfl]; rfl
    | reserved => rfl
    | kernel => rfl
    | console => rfl
    | process n => exact ofTag_tag_process (mem_processIds_iff.mpr (h.process n rfl))
    | other c => exact ofTag_of_not_mem (h.other c rfl)

theorem FrameMap.legible_of_decode {raw : Text} {m : FrameMap} (h : FrameMap.decode raw = .ok m) :
    ∀ o ∈ m.owners, o.Legible .physical := by
  rw [(FrameMap.decode_eq_ok_iff.mp h).2]
  intro o ho
  obtain ⟨c, -, rfl⟩ := List.mem_map.mp ho
  exact legible_ofTag .physical c

/-! ## Pages and their codes -/

/-- A virtual dump with a blank for every flag that is not the user flag. -/
def closeFlags (raw : Text) : Text :=
  raw.mapIdx fun i c => if i % 2 = 1 ∧ c ≠ 'u' then ' ' else c

theorem closeFlags_cons_cons (tag flag : Char) (raw : Text) :
    closeFlags (tag :: flag :: raw) = (Entry.ofPair (tag, flag)).code ++ closeFlags raw := by
  have parity : ∀ i, (i + 1 + 1) % 2 = i % 2 := by omega
  have owner : (Owner.ofTag .virtual tag).tag = tag := Owner.tag_ofTag .virtual tag
  simp only [closeFlags, List.mapIdx_cons, parity, Entry.code, Entry.ofPair, owner]
  by_cases h : flag = 'u'
  · simp [h, userFlag]
  · simp [h, userFlag, closedFlag]

/-- Decoding pairs and encoding the pages writes the flags and nothing else in another way. -/
theorem flatMap_code_ofPair {raw : Text} (h : raw.length % 2 = 0) :
    ((pairs raw).map Entry.ofPair).flatMap Entry.code = closeFlags raw := by
  induction raw using pairs.induct with
  | case1 tag flag r ih =>
    have even : r.length % 2 = 0 := by
      simp only [List.length_cons] at h
      omega
    rw [closeFlags_cons_cons, pairs, List.map_cons, List.flatMap_cons, ih even]
  | case2 l hl =>
    rcases l with _ | ⟨a, _ | ⟨b, r⟩⟩
    · rfl
    · simp at h
    · exact absurd rfl (hl a b r)

example : ((pairs "Kx.u1 ".toList).map Entry.ofPair).flatMap Entry.code = "K .u1 ".toList := by
  decide

theorem Entry.ofPair_code {e : Entry} (h : e.owner.Legible .virtual) :
    Entry.ofPair (e.owner.tag, if e.user then userFlag else closedFlag) = e := by
  obtain ⟨owner, user⟩ := e
  rw [Entry.ofPair, ofTag_tag_iff.mpr h]
  cases user <;> rfl

theorem map_ofPair_flatMap_code {es : List Entry} (h : ∀ e ∈ es, e.owner.Legible .virtual) :
    (pairs (es.flatMap Entry.code)).map Entry.ofPair = es := by
  induction es with
  | nil => rfl
  | cons e es ih =>
    have rest := ih fun x hx => h x (List.mem_cons_of_mem e hx)
    rw [List.flatMap_cons, Entry.code, List.cons_append, List.cons_append, List.nil_append, pairs,
      List.map_cons, Entry.ofPair_code (h e List.mem_cons_self), rest]

/-! ## Address spaces and their dumps -/

namespace AddressSpace

variable {p : UInt8} {raw : Text} {s : AddressSpace}

theorem entries_of_decode (h : decode p raw = .ok s) : s.entries = (pairs raw).map Entry.ofPair := by
  unfold decode at h
  split at h
  · cases h
    rfl
  · cases h

theorem legible_of_decode (h : decode p raw = .ok s) :
    ∀ e ∈ s.entries, e.owner.Legible .virtual := by
  rw [entries_of_decode h]
  intro e he
  obtain ⟨⟨tag, flag⟩, -, rfl⟩ := List.mem_map.mp he
  exact legible_ofTag .virtual tag

/-- Encoding what a dump shows gives the dump back, with its flags closed. -/
theorem encode_of_decode (h : decode p raw = .ok s) : s.encode = closeFlags raw := by
  have even : raw.length % 2 = 0 := by
    rw [(decode_eq_ok_iff.mp h).1, Nat.mul_mod_right]
  rw [encode, entries_of_decode h, flatMap_code_ofPair even]

theorem length_encode (s : AddressSpace) : s.encode.length = 2 * pageCount := by
  have codes : ∀ es : List Entry, (es.flatMap Entry.code).length = 2 * es.length := by
    intro es
    induction es with
    | nil => rfl
    | cons e es ih =>
      rw [List.flatMap_cons, List.length_append, ih, List.length_cons]
      simp only [Entry.code, List.length_cons, List.length_nil]
      omega
  rw [encode, codes, s.length_entries]

/-- An address space comes back from its encoding exactly if its owners can be read. -/
theorem decode_encode_iff : decode s.pid s.encode = .ok s ↔
    ∀ e ∈ s.entries, e.owner.Legible .virtual := by
  refine ⟨legible_of_decode, ?_⟩
  intro h
  have back : (pairs s.encode).map Entry.ofPair = s.entries := map_ofPair_flatMap_code h
  unfold decode
  rw [dif_pos s.length_encode]
  simp only [back]

theorem decode_encode_of_decode (h : decode p raw = .ok s) : decode p s.encode = .ok s := by
  obtain ⟨-, rfl, -⟩ := decode_eq_ok_iff.mp h
  exact decode_encode_iff.mpr (legible_of_decode h)

/-- The encoding of what a dump shows; a dump that cannot be decoded stays as it is. -/
def recode (p : UInt8) (raw : Text) : Text :=
  match decode p raw with
  | .ok s => s.encode
  | .error _ => raw

theorem recode_of_decode (h : decode p raw = .ok s) : recode p raw = s.encode := by
  rw [recode, h]

theorem decode_recode (p : UInt8) (raw : Text) : decode p (recode p raw) = decode p raw := by
  cases h : decode p raw with
  | error f => rw [recode, h, h]
  | ok s => rw [recode_of_decode h, decode_encode_of_decode h]

theorem recode_recode (p : UInt8) (raw : Text) : recode p (recode p raw) = recode p raw := by
  cases h : decode p raw with
  | error f =>
    have stays : recode p raw = raw := by rw [recode, h]
    rw [stays, stays]
  | ok s =>
    rw [recode_of_decode h, recode_of_decode (decode_encode_of_decode h)]

end AddressSpace

end PageAudit
