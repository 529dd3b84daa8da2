import PageAudit.Proofs.Command.Outcome
import PageAudit.Proofs.Text.WrittenNumbers

/-!
# Where the width of rows comes from

Zero asks for no width, as an argument and as a setting, but not in the same way: an argument of zero
gives the default and shuts out the setting, a setting of zero counts as none. `RowWidth` lists the
ways to a width.

* `RowWidth.exists`: there is a way for any argument and any setting;
* `rowWidth_iff`: all ways that there are lead to the width of the run;
* `run_uses_width`: the width of a run without an environment file, and what it prints.
-/
namespace PageAudit

open Text

theorem Width.val_orKeep (w : Width) (n : Nat) : (w.orKeep n).val = if 0 < n then n else w.val := by
  unfold Width.orKeep
  split <;> rfl

namespace Environment

variable {env : Environment} {n : Nat}

theorem val_width (env : Environment) : env.width.val =
    let n := (env.read readSize widthName).getD 0
    if 0 < n then n else 64 :=
  Width.val_orKeep _ _

theorem read_readSize_eq_some_iff : env.read readSize widthName = some n ↔
    ∃ v, env.value? widthName = some v ∧ Writes v n ∧ n < 2 ^ 64 := by
  simp only [read, Option.bind_eq_some_iff, readSize_trim_eq_some_iff]

end Environment

namespace Command

/-- The width of rows, by the width that an argument asks for and the value of the setting. -/
inductive RowWidth (asked : Option Nat) (setting : Option Text) : Nat → Prop
  /-- An argument above zero is the width. -/
  | asked {n : Nat} (given : asked = some n) (pos : 0 < n) : RowWidth asked setting n
  /-- An argument of zero leaves the default. -/
  | zero (given : asked = some 0) : RowWidth asked setting 64
  /-- Without an argument the setting is the width, if it writes a size above zero. -/
  | set {v : Text} {n : Nat} (absent : asked = none) (value : setting = some v) (writes : Writes v n)
      (pos : 1 ≤ n) (fits : n ≤ 2 ^ 64 - 1) : RowWidth asked setting n
  /-- Any other setting, or none, leaves the default. -/
  | unset (absent : asked = none)
      (void : ∀ v n, setting = some v → Writes v n → ¬ (1 ≤ n ∧ n ≤ 2 ^ 64 - 1)) :
      RowWidth asked setting 64

theorem RowWidth.exists (asked : Option Nat) (setting : Option Text) :
    ∃ n, RowWidth asked setting n := by
  rcases asked with _ | _ | n
  · by_cases sized : ∃ v n, setting = some v ∧ Writes v n ∧ 1 ≤ n ∧ n ≤ 2 ^ 64 - 1
    · obtain ⟨v, n, value, writes, pos, fits⟩ := sized
      exact ⟨n, .set rfl value writes pos fits⟩
    · refine ⟨64, .unset rfl ?_⟩
      intro v n value writes size
      exact sized ⟨v, n, value, writes, size⟩
  · exact ⟨64, .zero rfl⟩
  · exact ⟨n + 1, .asked rfl (Nat.succ_pos n)⟩

variable {a : Arguments} {env : Environment} {files : Storage} {n : Nat}

/-- Without an argument the width is that of the environment. -/
theorem val_width_of_setting (h : RowWidth none (env.value? Environment.widthName) n) :
    env.width.val = n := by
  rw [Environment.val_width]
  cases h with
  | asked given => cases given
  | zero given => cases given
  | set _ value writes pos fits =>
    have size : env.read Environment.readSize Environment.widthName = some n :=
      Environment.read_readSize_eq_some_iff.mpr ⟨_, value, writes, by omega⟩
    rw [size]
    exact if_pos pos
  | unset _ void =>
    cases size : env.read Environment.readSize Environment.widthName with
    | none => rfl
    | some k =>
      obtain ⟨v, value, writes, fits⟩ := Environment.read_readSize_eq_some_iff.mp size
      have zero : ¬ 0 < k := fun pos => void v k value writes ⟨pos, by omega⟩
      exact if_neg zero

theorem val_width_auditor (a : Arguments) (env : Environment) : (auditor a env).width.val =
    let n := a.width.getD env.width
    if 0 < n then n else 64 :=
  Width.val_orKeep _ _

theorem val_width_of_rowWidth (h : RowWidth a.width (env.value? Environment.widthName) n) :
    (auditor a env).width.val = n := by
  rw [val_width_auditor]
  cases asked : a.width with
  | none =>
    rw [asked] at h
    have width := val_width_of_setting h
    have pos := env.width.2
    rw [width] at pos
    rw [Option.getD_none, width]
    exact if_pos pos
  | some k =>
    rw [asked] at h
    cases h with
    | asked given pos =>
      cases given
      exact if_pos pos
    | zero given =>
      cases given
      rfl
    | set absent => cases absent
    | unset absent => cases absent

/-- Every way to a width leads to the width of the run. -/
theorem rowWidth_iff :
    RowWidth a.width (env.value? Environment.widthName) n ↔ n = (auditor a env).width.val := by
  constructor
  · intro h
    exact (val_width_of_rowWidth h).symm
  · intro h
    obtain ⟨k, way⟩ := RowWidth.exists a.width (env.value? Environment.widthName)
    rwa [h, val_width_of_rowWidth way]

theorem output_of_holds {text : Text} (holds : files.Holds a.log text) (range : InRange a env files) :
    (runArguments a env files).output =
      let r := (auditor a env).auditLog a.stage text
      unlines (r.diagnostics ++ [closing r]) := by
  have plain := (Guarded.auditLog_eq_ok_iff a.stage (range.fits text holds)).mpr (.inl range.wide)
  obtain ⟨present, read⟩ := holds
  simp only [runArguments, audit, present, Storage.readText_eq_ok_iff.mpr read, if_true, plain]

/-- Where there is no environment file, the width that a run audits with is what an argument above zero
asks for, 64 for an argument of zero, and without an argument what the variable of the environment
writes, if that is a size above zero, and else 64. The width is never zero. A log that fails is shown in
rows of this width, if it can be doubled. -/
theorem run_uses_width {rd : Readers} (lawful : rd.Lawful) {args : List Text}
    (parsed : rd.parse args = .ok a) (env : Environment) (noFile : files.envFile = none) :
    let w := (auditor a env).width
    rd.load env files = .ok env ∧ 1 ≤ w.val ∧
    (∀ n, RowWidth a.width (env.value? "GRADER_WRAP_WIDTH".toList) n ↔ n = w.val) ∧
    ∀ text, files.Holds a.log text → text.length < 2 ^ 64 → w.val < 2 ^ 63 →
      let r := (Auditor.mk w).auditLog a.stage text
      (runWith rd args env files).output = unlines (r.diagnostics ++ [closing r]) := by
  have load := lawful.leaves env files noFile
  refine ⟨load, (auditor a env).width.2, fun n => rowWidth_iff, ?_⟩
  intro text holds fits wide
  have range : InRange a env files := ⟨wide, fun text' holds' => holds'.eq holds ▸ fits⟩
  rw [runWith_of_load parsed load]
  exact output_of_holds holds range

/-- A setting of two pages, with blanks around it, a plus sign and zeros in front, is the width; an
argument of zero shuts it out and leaves the default. The greatest size is a width as well. -/
theorem run_uses_width_of_padded_setting :
    let files := FileTree.storage [("log.txt".toList, .file "abcdefghij".toUTF8)]
    let env : Environment := ["GRADER_WRAP_WIDTH=\u3000+0002\t".toList]
    let widest : Environment := ["GRADER_WRAP_WIDTH=18446744073709551615".toList]
    let shown := fun n pos args => (run args env files).output =
      let r := (Auditor.mk ⟨n, pos⟩).auditLog .one "abcdefghij".toList
      unlines (r.diagnostics ++ [closing r])
    shown 2 (by decide) ["-s1".toList] ∧ shown 64 (by decide) ["-s1".toList, "-w0".toList] ∧
    2 ^ 64 - 1 = (auditor ⟨.one, "log.txt".toList, none, false⟩ widest).width.val := by
  intro files env widest shown
  have holds : files.Holds "log.txt".toList "abcdefghij".toList :=
    ⟨by decide +kernel, _, rfl, by decide +kernel⟩
  have noFile : files.envFile = none := by rfl
  have parsed : readers.parse ["-s1".toList] = .ok ⟨.one, "log.txt".toList, none, false⟩ := by
    decide +kernel
  have parsed' : readers.parse ["-s1".toList, "-w0".toList] =
      .ok ⟨.one, "log.txt".toList, some 0, false⟩ := by decide +kernel
  refine ⟨?_, ?_, ?_⟩
  · have value : env.value? "GRADER_WRAP_WIDTH".toList = some "\u3000+0002\t".toList := by
      decide +kernel
    have writes : Writes "\u3000+0002\t".toList 2 :=
      @Writes.plus ['\u3000'] "0002".toList ['\t'] 2 (by decide)
        ⟨by decide, List.all_eq_true.mp (by decide), rfl⟩ (by decide)
    obtain ⟨-, -, ways, output⟩ := run_uses_width lawful_readers parsed env noFile
    have two := (ways 2).mp (.set rfl value writes (by decide) (by decide))
    have width : (auditor ⟨.one, "log.txt".toList, none, false⟩ env).width = ⟨2, by decide⟩ :=
      Subtype.ext two.symm
    rw [width] at output
    exact output _ holds (by decide) (by decide)
  · obtain ⟨-, -, ways, output⟩ := run_uses_width lawful_readers parsed' env noFile
    have width : (auditor ⟨.one, "log.txt".toList, some 0, false⟩ env).width = ⟨64, by decide⟩ :=
      Subtype.ext ((ways 64).mp (.zero rfl)).symm
    rw [width] at output
    exact output _ holds (by decide) (by decide)
  · have value : widest.value? "GRADER_WRAP_WIDTH".toList = some "18446744073709551615".toList := by
      decide +kernel
    have writes : Writes "18446744073709551615".toList (2 ^ 64 - 1) :=
      @Writes.bare [] "18446744073709551615".toList [] _ nofun
        ⟨by decide, List.all_eq_true.mp (by decide), by decide⟩ nofun
    obtain ⟨-, -, ways, -⟩ := run_uses_width lawful_readers parsed widest noFile
    exact (ways _).mp (.set rfl value writes (by decide) (by decide))

end Command

end PageAudit
