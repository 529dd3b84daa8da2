import PageAudit.Proofs.Audit.OneLine
import PageAudit.Proofs.Audit.Widths
import PageAudit.Proofs.Command.Readers
import PageAudit.Proofs.Guarded.Audit

/-!
# What a run from the command line tells

A run that finds the text of its log file prints the report of the audit on the output, line by
line, and the log of the run on the error output; any other run prints nothing but an error (`Tells`).
The exit status is that of the audit of the text, so it depends on the stage and on the text alone.

What is printed on the output also depends on the width of rows, and nothing else. It does depend on
the threshold of the log, but only where the environment file makes a width of it
(`output_depends_on_threshold`).

All this holds with any readers that are lawful. The width has to be one that can be doubled (`InRange`).

* `splitOn_unlines`: the output can be taken apart into the diagnostics again;
* `tells_runArguments`: the three ways in which a run ends;
* `run_reports_audit`: what that makes of the exit status, and of two runs.
-/
namespace PageAudit

open Text

/-- Lines that are printed one after the other come back, with an empty piece after the last one. -/
theorem splitOn_unlines {ls : List Text} (h : ∀ l ∈ ls, OneLine l) :
    (unlines ls).splitOn '\n' = ls ++ [[]] := by
  induction ls with
  | nil => rfl
  | cons l ls ih =>
    obtain ⟨hl, hls⟩ := List.forall_mem_cons.mp h
    rw [unlines_cons, List.splitOn_append_cons_self_of_not_mem hl, ih hls]
    rfl

/-! ## Files -/

namespace Storage

variable {files : Storage} {path : Text}

/-- Whether a path leads to a file that holds this text. -/
def Holds (files : Storage) (path t : Text) : Prop :=
  files.isPresent path = true ∧ ∃ bytes, files.read path = .ok bytes ∧ ofUtf8 bytes = some t

/-- Why there is no text at a path: it cannot be read, or what is read is no text. -/
inductive Lacks (files : Storage) (path : Text) : ReadFailure → Prop
  | unread {cause : ReadFailure} (h : files.read path = .error cause) : Lacks files path cause
  | notText {bytes : ByteArray} (read : files.read path = .ok bytes) (h : ofUtf8 bytes = none) :
      Lacks files path .notText

theorem readText_eq_ok_iff {t : Text} :
    files.readText path = .ok t ↔ ∃ bytes, files.read path = .ok bytes ∧ ofUtf8 bytes = some t := by
  unfold readText
  cases files.read path with
  | error cause => simp
  | ok bytes => cases h : ofUtf8 bytes <;> simp [pure, Except.pure, h]

theorem lacks_of_readText {cause : ReadFailure} (h : files.readText path = .error cause) :
    files.Lacks path cause := by
  unfold readText at h
  cases read : files.read path with
  | error cause' =>
    rw [read] at h
    cases h
    exact .unread read
  | ok bytes =>
    rw [read] at h
    cases text : ofUtf8 bytes with
    | none =>
      simp only [Steps.ok_bind, text] at h
      cases h
      exact .notText read text
    | some t =>
      simp only [Steps.ok_bind, text] at h
      cases h

theorem Lacks.not_holds {cause : ReadFailure} (h : files.Lacks path cause) (t : Text) :
    ¬ files.Holds path t := by
  intro holds
  obtain ⟨-, bytes, read, text⟩ := holds
  cases h with
  | unread unread => cases unread.symm.trans read
  | notText read' none =>
    cases read'.symm.trans read
    cases none.symm.trans text

theorem Holds.eq {t t' : Text} (h : files.Holds path t) (h' : files.Holds path t') : t = t' := by
  obtain ⟨-, bytes, read, text⟩ := h
  obtain ⟨-, bytes', read', text'⟩ := h'
  obtain rfl := Except.ok.inj (read.symm.trans read')
  exact Option.some.inj (text.symm.trans text')

end Storage

/-! ## One run -/

namespace Command

/-- Whether a record of the log is shown: under `quiet` if it is a warning or an error, otherwise if
the settings say so. -/
def isShown (a : Arguments) (env : Environment) (rec : Record) : Bool :=
  if a.quiet then rec.level = .warn ∨ rec.level = .error else env.threshold.shows rec

/-- What is shown of the records of a run. -/
def shownLog (a : Arguments) (env : Environment) (records : List Record) : Text :=
  unlines ((records.filter (isShown a env)).map Record.line)

/-- How a run ends, by what there is at the path of the log. -/
inductive Tells (a : Arguments) (env : Environment) (files : Storage) : Exit → Prop
  /-- There is nothing. -/
  | absent (absent : files.isPresent a.log = false) :
      Tells a env files ⟨1, [], unlines ["Error: ".toList ++
        ("log file ".toList ++ a.log ++ " not found; run the kernel first".toList)]⟩
  /-- There is something, but no text. -/
  | unreadable {cause : ReadFailure} (present : files.isPresent a.log = true)
      (lacks : files.Lacks a.log cause) :
      Tells a env files ⟨1, [], shownLog a env [startRecord a] ++ unlines ["Error: ".toList ++
        ("cannot grade ".toList ++ a.stage.describe ++ ": ".toList ++
          ("failed to read ".toList ++ a.log ++ ": ".toList ++ cause.message))]⟩
  /-- There is a text; it is audited. -/
  | audited {text output : Text} {r : Report} (holds : files.Holds a.log text)
      (audit : r = (auditor a env).auditLog a.stage text)
      (oneLine : ∀ l ∈ r.diagnostics, OneLine l)
      (framed : output.splitOn '\n' = r.diagnostics ++
        [a.stage.describe ++ (if r.verdict.passed then " PASSED" else " FAILED").toList, []]) :
      Tells a env files
        ⟨if r.verdict.passed then 0 else 1, output, shownLog a env (startRecord a :: r.trace)⟩

variable {a : Arguments} {env : Environment} {files : Storage}

theorem shows_threshold : (threshold a env).shows = isShown a env := by
  funext rec
  obtain ⟨level, text⟩ := rec
  unfold threshold isShown
  split
  · cases level <;> rfl
  · rfl

theorem splitOn_report (r : Report) (h : ∀ l ∈ r.diagnostics, OneLine l) :
    (unlines (r.diagnostics ++ [closing r])).splitOn '\n' = r.diagnostics ++ [closing r, []] := by
  have closed : OneLine (closing r) := by
    rw [closing, oneLine_append_iff]
    refine ⟨r.stage.oneLine_describe, ?_⟩
    split <;> decide
  rw [splitOn_unlines, List.append_assoc]
  · rfl
  · intro l hl
    rcases List.mem_append.mp hl with among | last
    · exact h l among
    · rw [List.mem_singleton.mp last]
      exact closed

/-- Whether the sizes of a run are in range: its width can be doubled, and the text of its log fits into
the memory of a machine with such sizes. -/
structure InRange (a : Arguments) (env : Environment) (files : Storage) : Prop where
  wide : (auditor a env).width.val < 2 ^ 63
  fits : ∀ text, files.Holds a.log text → text.length < 2 ^ 64

/-- A run with arguments in order ends in one of three ways. -/
theorem tells_runArguments (range : InRange a env files) :
    Tells a env files (runArguments a env files) := by
  cases present : files.isPresent a.log with
  | false =>
    simp only [runArguments, audit, present]
    exact .absent present
  | true =>
    cases read : files.readText a.log with
    | error cause =>
      simp only [runArguments, audit, present, read, shows_threshold]
      exact .unreadable present (Storage.lacks_of_readText read)
    | ok text =>
      have holds : files.Holds a.log text := ⟨present, Storage.readText_eq_ok_iff.mp read⟩
      have plain := (Guarded.auditLog_eq_ok_iff a.stage (range.fits text holds)).mpr (.inl range.wide)
      have oneLine : ∀ l ∈ ((auditor a env).auditLog a.stage text).diagnostics, OneLine l :=
        fun l => Auditor.oneLine_of_mem_diagnostics
      have framed := splitOn_report _ oneLine
      simp only [runArguments, audit, present, read, plain, shows_threshold]
      refine .audited holds rfl oneLine ?_
      rw [framed, closing, Auditor.stage_auditLog]

/-- The exit status tells whether there is a text that passes. -/
theorem Tells.status_iff {e : Exit} (h : Tells a env files e) :
    (e.status = 0 ∨ e.status = 1) ∧ (e.status = 0 ↔ ∃ text, files.Holds a.log text ∧
      (Auditor.default.auditLog a.stage text).verdict.passed = true) := by
  cases h with
  | absent absent =>
    refine ⟨.inr rfl, by simp, ?_⟩
    intro passes
    obtain ⟨text, ⟨present, -⟩, -⟩ := passes
    cases absent.symm.trans present
  | unreadable _ lacks =>
    refine ⟨.inr rfl, by simp, ?_⟩
    intro passes
    obtain ⟨text, holds, -⟩ := passes
    exact absurd holds (lacks.not_holds text)
  | @audited text _ r holds audit =>
    have verdict : r.verdict = (Auditor.default.auditLog a.stage text).verdict := by
      rw [audit, Auditor.verdict_auditLog]
    have passes : (∃ text, files.Holds a.log text ∧
        (Auditor.default.auditLog a.stage text).verdict.passed = true) ↔
        r.verdict.passed = true := by
      rw [verdict]
      constructor
      · intro some
        obtain ⟨text', holds', passed⟩ := some
        rwa [holds.eq holds']
      · exact fun passed => ⟨text, holds, passed⟩
    rw [passes]
    cases r.verdict.passed <;> simp

/-! ## Two runs -/

variable {a' : Arguments} {env' : Environment}

theorem output_runArguments (stage : a'.stage = a.stage) (log : a'.log = a.log)
    (rows : auditor a' env' = auditor a env) :
    (runArguments a' env' files).output = (runArguments a env files).output := by
  have same : audit a' env' files = audit a env files := by
    simp only [audit, startRecord, stage, log, rows]
  simp only [runArguments, same]
  cases (audit a env files).2 <;> rfl

/-- The rows of two runs are equally wide if both get the width from the arguments, or from
environments that say the same of it. -/
theorem auditor_eq (asked : a'.width = a.width) (width : a.width.isSome ∨ env'.width = env.width) :
    auditor a' env' = auditor a env := by
  unfold auditor
  rw [asked]
  rcases width with given | same
  · obtain ⟨n, hn⟩ := Option.isSome_iff_exists.mp given
    rw [hn]
    rfl
  · rw [same]

section
variable {rd : Readers} {args : List Text}

theorem runWith_of_load {loaded : Environment} (parsed : rd.parse args = .ok a)
    (load : rd.load env files = .ok loaded) :
    runWith rd args env files = runArguments a loaded files := by
  rw [runWith, parsed]
  simp only [load]

/-- A run with arguments in order is aborted before the audit if the environment file cannot be loaded,
for a zero character in a value. Otherwise, with sizes in range, it ends as `Tells` says. Its exit status
is then 0 if the path of the log leads to a text that passes, and 1 if not. Another such run on the same
stage and log has the same exit status, whatever its environment and the rest of its arguments. It has
the same output if its rows are as wide. So they are if the width asked for is the same and the
environments are too; the threshold of the log may then differ if a width is asked for, if one is set in
the environment, or if the environment file does not make use of the threshold. -/
theorem run_reports_audit (lawful : rd.Lawful) (parsed : rd.parse args = .ok a) (env : Environment)
    (files : Storage) :
    (∀ cause, rd.load env files = .error cause →
      cause = .zeroCharacter ∧ runWith rd args env files = ⟨101, [], []⟩) ∧
    ∀ loaded, rd.load env files = .ok loaded → InRange a loaded files →
      let e := runWith rd args env files
      Tells a loaded files e ∧
      (e.status = 0 ∨ e.status = 1) ∧
      (e.status = 0 ↔ ∃ text, files.Holds a.log text ∧
        (Auditor.default.auditLog a.stage text).verdict.passed = true) ∧
      ∀ args' a' env' loaded', rd.parse args' = .ok a' → a'.stage = a.stage → a'.log = a.log →
        rd.load env' files = .ok loaded' → InRange a' loaded' files →
        let e' := runWith rd args' env' files
        e'.status = e.status ∧
        (auditor a' loaded' = auditor a loaded → e'.output = e.output) ∧
        (a'.width = a.width → env' = env → e'.output = e.output) ∧
        (a'.width = a.width → Environment.SameBut Environment.thresholdName env env' →
          a.width.isSome ∨ (env.value? Environment.widthName).isSome ∨
            rd.Overlooks files Environment.thresholdName → e'.output = e.output) := by
  refine ⟨?_, ?_⟩
  · intro cause lapse
    refine ⟨lawful.lapses lapse, ?_⟩
    rw [runWith, parsed]
    simp only [lapse]
    rfl
  intro loaded load range
  dsimp only
  rw [runWith_of_load parsed load]
  have tells := tells_runArguments range
  obtain ⟨status, success⟩ := tells.status_iff
  refine ⟨tells, status, success, ?_⟩
  intro args' a' env' loaded' parsed' stage log load' range'
  rw [runWith_of_load parsed' load']
  refine ⟨?_, output_runArguments stage log, ?_, ?_⟩
  · obtain ⟨status', success'⟩ := (tells_runArguments range').status_iff
    rw [stage, log, ← success] at success'
    omega
  · rintro asked rfl
    obtain rfl : loaded = loaded' := Except.ok.inj (load.symm.trans load')
    exact output_runArguments stage log (auditor_eq asked (.inr rfl))
  · intro asked same fixed
    have width := fixed.imp_right (width_of_load lawful same load load')
    exact output_runArguments stage log (auditor_eq asked width)

end

/-- An environment file that asks for rows of four pages does not look at the threshold, so a quiet
run and one that logs everything print the same on the output. -/
theorem run_reports_audit_on_broken_log :
    let files := FileTree.storage [("log.txt".toList, .file "abcdefghij".toUTF8),
      (".env".toList, .file "GRADER_WRAP_WIDTH=4".toUTF8)]
    let e := run ["-s1".toList, "-q".toList] [] files
    let e' := run ["--stage".toList, "1".toList] ["GRADER_LOG_LEVEL=debug".toList] files
    e.status = 1 ∧ e'.output = e.output ∧ e'.errors ≠ e.errors := by
  intro files e e'
  have parsed : readers.parse ["-s1".toList, "-q".toList] =
      .ok ⟨.one, "log.txt".toList, none, true⟩ := by decide +kernel
  have parsed' : readers.parse ["--stage".toList, "1".toList] =
      .ok ⟨.one, "log.txt".toList, none, false⟩ := by decide +kernel
  have load : readers.load [] files = .ok ["GRADER_WRAP_WIDTH=4".toList] := by decide +kernel
  have load' : readers.load ["GRADER_LOG_LEVEL=debug".toList] files =
      .ok ["GRADER_LOG_LEVEL=debug".toList, "GRADER_WRAP_WIDTH=4".toList] := by decide +kernel
  have holds : files.Holds "log.txt".toList "abcdefghij".toList :=
    ⟨by decide +kernel, _, rfl, by decide +kernel⟩
  have fits : ∀ text, files.Holds "log.txt".toList text → text.length < 2 ^ 64 := by
    intro text holds'
    rw [holds'.eq holds]
    decide
  have overlooks : readers.Overlooks files Environment.thresholdName := by
    refine overlooks_readers (by decide) ?_
    intro file found line among
    have known : files.envFile = some "GRADER_WRAP_WIDTH=4".toUTF8 := by rfl
    obtain rfl := Option.some.inj (known.symm.trans found)
    have single : EnvFile.textLines "GRADER_WRAP_WIDTH=4".toUTF8 =
        ["GRADER_WRAP_WIDTH=4".toList] := by decide +kernel
    rw [single, List.mem_singleton] at among
    rw [among]
    exact EnvFile.overlooks_of_no_dollar (by decide)
  have same : Environment.SameBut Environment.thresholdName []
      ["GRADER_LOG_LEVEL=debug".toList] := by decide
  obtain ⟨-, runs⟩ := run_reports_audit lawful_readers parsed [] files
  obtain ⟨-, -, -, two⟩ := runs _ load ⟨by decide +kernel, fits⟩
  obtain ⟨-, -, -, output⟩ := two _ _ _ _ parsed' rfl rfl load' ⟨by decide +kernel, fits⟩
  exact ⟨by decide +kernel, output rfl same (.inr (.inr overlooks)), by decide +kernel⟩

/-- The threshold of the log changes the output where the environment file makes a width of it. -/
theorem output_depends_on_threshold :
    let files := FileTree.storage [("log.txt".toList, .file "abcdefghij".toUTF8),
      (".env".toList, .file "GRADER_WRAP_WIDTH=$\x7bGRADER_LOG_LEVEL\x7d\n".toUTF8)]
    let args := ["-s".toList, "1".toList]
    Environment.SameBut Environment.thresholdName [] ["GRADER_LOG_LEVEL=2".toList] ∧
      (run args ["GRADER_LOG_LEVEL=2".toList] files).output ≠ (run args [] files).output := by
  exact ⟨by decide, by decide +kernel⟩

end Command

end PageAudit
