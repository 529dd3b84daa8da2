import PageAudit.Guarded.Dumps
import PageAudit.Proofs.Dump.Printing
import PageAudit.Proofs.Guarded.Operations
import PageAudit.Proofs.Memory.Encoding

/-!
# Reading and writing dumps without a lapse

The data lines of a log are looked up by number after all lines have been checked: the check is what
makes the places exist. The pieces of a dump of the right length have two characters each. The number of
a process, added to the character zero, stays a byte for the processes that a dump can name.

* `ofLines_eq_ok`, `decode_eq_ok`, `lines_eq_ok`: none of this lapses, on any text;
* `encode_eq_ok`: what was decoded can be written again.
-/
namespace PageAudit.Guarded

open Steps

/-! ## The lines of a log -/

theorem header?_eq_ok {n : Nat} (h : n < 11) : header? n = .ok (Dump.headerAt? n) := by
  revert n
  decide

/-- The check looks for a line only after it has found all lines before it, so the first line that is
missing has the number of the lines that there are. -/
theorem checkLines_eq_ok {ls : List Text} {k n : Nat} (reached : k ≤ ls.length) (h : k + n ≤ 11) :
    checkLines ls (List.range' k n) = .ok ((List.range' k n).forM (Dump.checkLine ls)) := by
  induction n generalizing k with
  | zero => rfl
  | succ n ih =>
    rw [List.range'_succ, checkLines, header?_eq_ok (by omega), ok_bind, List.forM_eq_forM,
      List.forM_cons, Dump.checkLine]
    cases line : ls[k]? with
    | none =>
      have last : ls.length = k := by
        have := List.getElem?_eq_none_iff.mp line
        omega
      rw [last]
      rfl
    | some l =>
      have inside : k < ls.length := (List.getElem?_eq_some_iff.mp line).1
      have rest := ih inside (by omega)
      cases Dump.headerAt? k with
      | none => exact rest
      | some t =>
        by_cases same : l = t
        · simp only [same, if_true]
          exact rest
        · simp only [same, if_false]
          rfl

/-- Whatever the lines of a log are, they are checked and looked up without a lapse. -/
theorem ofLines_eq_ok (ls : List Text) : ofLines ls = .ok (Dump.ofLines ls) := by
  have checked := checkLines_eq_ok (k := 0) (n := 11) (Nat.zero_le ls.length) (Nat.le_refl 11)
  rw [← List.range_eq_range'] at checked
  rw [ofLines, Dump.ofLines_eq, show logLength = 11 from rfl, checked, ok_bind]
  cases passed : (List.range 11).forM (Dump.checkLine ls) with
  | error f => rfl
  | ok _ =>
    have line : ∀ i < 11, item ls i = .ok (ls.getD i []) := by
      intro i hi
      have sound := forM_range_eq_ok_iff.mp passed i hi
      rw [Dump.checkLine_eq_ok_iff hi] at sound
      have inside : i < ls.length := by
        by_contra missing
        exact sound ⟨hi, .inl (by omega)⟩
      rw [item_eq_ok (List.getElem?_eq_getElem inside)]
      simp [inside]
    have virtual : ∀ i ∈ List.range 4, virtualLine ls i = .ok (ls.getD (4 + 2 * i) []) := by
      intro i hi
      have := List.mem_range.mp hi
      rw [virtualLine, size_eq_ok (by omega), ok_bind, size_eq_ok (by omega), ok_bind,
        line _ (by omega)]
    simp only [line 2 (by decide), mapM_eq_ok virtual, ok_bind]
    rfl

/-! ## Tags -/

theorem eq_of_digit {c : Char} (low : '1' ≤ c) (high : c ≤ '4') : c ∈ ['1', '2', '3', '4'] := by
  have range : 49 ≤ c.toNat ∧ c.toNat ≤ 52 := ⟨low, high⟩
  simp only [List.mem_cons, List.not_mem_nil, or_false, ← Char.toNat_inj, Char.reduceToNat]
  omega

theorem ofTag_eq_ok (s : Space) (c : Char) : ofTag s c = .ok (Owner.ofTag s c) := by
  by_cases known : c ∈ ['.', 'R', 'K', 'C', '1', '2', '3', '4']
  · simp only [List.mem_cons, List.not_mem_nil, or_false] at known
    rcases known with rfl | rfl | rfl | rfl | rfl | rfl | rfl | rfl <;> rfl
  · have digit : ¬ ('1' ≤ c ∧ c ≤ '4') := fun h => known (by have := eq_of_digit h.1 h.2; simp_all)
    rw [ofTag_of_not_mem known]
    simp only [List.mem_cons, List.not_mem_nil, or_false, not_or] at known
    simp only [ofTag, vacantTag, known, digit, if_false]

theorem tag_eq_ok {o : Owner} (h : ∀ pid, o = .process pid → pid.toNat < 208) :
    tag o = .ok o.tag := by
  cases o with
  | process pid =>
    have small := h pid rfl
    have zero : '0'.toNat = 48 := rfl
    rw [tag, byte_eq_ok (by omega), ok_bind, UInt8.ofNat_add, UInt8.ofNat_toNat]
    rfl
  | _ => rfl

/-! ## Memory -/

/-- The pieces of a dump of even length are pairs. -/
theorem mapM_entryOf {raw : Text} (h : raw.length % 2 = 0) :
    (chunks 2 Nat.two_pos raw).mapM entryOf = .ok ((pairs raw).map Entry.ofPair) := by
  induction raw using pairs.induct with
  | case1 c flag r ih =>
    have even : r.length % 2 = 0 := by
      simp only [List.length_cons] at h
      omega
    have piece : chunks 2 Nat.two_pos (c :: flag :: r) = [c, flag] :: chunks 2 Nat.two_pos r := by
      rw [chunks, if_neg (List.cons_ne_nil _ _)]
      rfl
    have page : entryOf [c, flag] = .ok (Entry.ofPair (c, flag)) := by
      rw [entryOf, item_eq_ok (a := c) rfl, item_eq_ok (a := flag) rfl, ok_bind, ofTag_eq_ok]
      rfl
    rw [piece, List.mapM_cons, page, ok_bind, ih even]
    rfl
  | case2 l hl =>
    rcases l with _ | ⟨a, _ | ⟨b, r⟩⟩
    · rw [chunks]
      rfl
    · simp at h
    · exact absurd rfl (hl a b r)

theorem decodeFrames_eq_ok (raw : Text) : decodeFrames raw = .ok (FrameMap.decode raw) := by
  unfold decodeFrames FrameMap.decode
  by_cases h : raw.length = frameCount
  · have owners := mapM_eq_ok (l := raw) fun c _ => ofTag_eq_ok .physical c
    simp [h, owners, framesOf, pure, Except.pure]
  · simp [h, pure, Except.pure]

theorem decodeSpace_eq_ok (pid : UInt8) (raw : Text) :
    decodeSpace pid raw = .ok (AddressSpace.decode pid raw) := by
  unfold decodeSpace AddressSpace.decode
  by_cases h : raw.length = 2 * pageCount
  · have even : raw.length % 2 = 0 := by rw [h, Nat.mul_mod_right]
    have entries := mapM_entryOf even
    have count := length_pairs pageCount raw h
    simp [h, pieces_eq_ok, entries, spaceOf, count, pure, Except.pure]
  · simp [h, pure, Except.pure]

theorem decodePlace_eq_ok {x : Text × Nat} (h : x.2 < 4) :
    decodePlace x = .ok (AddressSpace.decode (UInt8.ofNat (x.2 + 1)) x.1) := by
  rw [decodePlace, byte_eq_ok (by omega), ok_bind, decodeSpace_eq_ok]

/-- Any dump is decoded without a lapse, to memory or to a fault. -/
theorem decode_eq_ok (d : Dump) : decode d = .ok d.decode := by
  obtain ⟨p, a, b, c, e, rfl⟩ := Dump.exists_mk d
  have spaces := mapM_eq_ok (l := [a, b, c, e].zipIdx) fun x hx =>
    decodePlace_eq_ok (List.snd_lt_of_mem_zipIdx hx)
  have texts : (⟨p, #v[a, b, c, e]⟩ : Dump).virtuals.toList = [a, b, c, e] := rfl
  rw [decode, decodeFrames_eq_ok, ok_bind, texts, spaces, ok_bind]
  rfl

/-! ## Writing -/

theorem code_eq_ok {e : Entry} (h : e.owner.Legible .virtual) : code e = .ok e.code := by
  have small : ∀ pid, e.owner = .process pid → pid.toNat < 208 := by
    intro pid held
    have := UInt8.le_iff_toNat_le.mp (h.process pid held).2
    simp only [UInt8.reduceToNat] at this
    omega
  rw [code, tag_eq_ok small]
  rfl

/-- The pages of an address space that was decoded have owners that tags stood for, so their tags can
be written. -/
theorem encode_eq_ok {p : UInt8} {raw : Text} {s : AddressSpace}
    (h : AddressSpace.decode p raw = .ok s) : encode s = .ok s.encode := by
  have codes := mapM_eq_ok fun e he => code_eq_ok (AddressSpace.legible_of_decode h e he)
  rw [encode, s.length_entries, size_eq_ok (by decide), ok_bind, codes]
  rfl

theorem lines_eq_ok (d : Dump) : lines d = .ok d.lines := by
  obtain ⟨p, a, b, c, e, rfl⟩ := Dump.exists_mk d
  rfl

end PageAudit.Guarded
