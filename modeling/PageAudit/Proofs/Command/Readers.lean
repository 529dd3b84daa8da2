import PageAudit.Command.Run
import PageAudit.Proofs.Settings.OneVariable

/-!
# What a run asks of its readers

The arguments of a run and its environment file are read by parts that a run takes as they are. Nothing
is asked of the reader of arguments. A loader of environment files loads nothing where there is no file,
leaves the values that there are, and lapses over zero characters only (`Readers.Lawful`).

What a file says is another matter. Values are put into it, so the width of rows can be made of any
variable; it is not made of one that the file overlooks (`Readers.Overlooks`).

* `lawful_readers`, `overlooks_readers`: the readers of this program;
* `width_of_load`: environments that differ in the threshold, loaded with one width.
-/
namespace PageAudit

open Guarded (Lapse)

/-! ## Loading -/

namespace EnvFile

variable {env loaded : Environment} {files : Storage} {name : Text} {cause : Lapse}

theorem value?_extendLines_of_isSome {ls : List (Option Text)} (h : extendLines env ls = .ok loaded)
    (set : (env.value? name).isSome) : loaded.value? name = env.value? name := by
  induction ls generalizing env with
  | nil =>
    cases h
    rfl
  | cons l ls ih =>
    cases l with
    | none =>
      cases h
      rfl
    | some line =>
      rw [extendLines] at h
      split at h
      · cases h
        rfl
      · exact ih h set
      · obtain ⟨defined, step, h⟩ := Steps.bind_eq_ok_iff.mp h
        have kept := value?_define_of_isSome step set
        rw [ih h (by rwa [kept]), kept]

theorem value?_load_of_isSome (h : load env files = .ok loaded) (set : (env.value? name).isSome) :
    loaded.value? name = env.value? name := by
  unfold load at h
  split at h
  · exact value?_extendLines_of_isSome h set
  · cases h
    rfl

theorem cause_of_extendLines {ls : List (Option Text)} (h : extendLines env ls = .error cause) :
    cause = .zeroCharacter := by
  induction ls generalizing env with
  | nil => cases h
  | cons l ls ih =>
    cases l with
    | none => cases h
    | some line =>
      rw [extendLines] at h
      split at h
      · cases h
      · exact ih h
      · rcases Steps.bind_eq_error_iff.mp h with step | ⟨defined, -, h⟩
        · exact (define_eq_error_iff.mp step).1
        · exact ih h

theorem cause_of_load (h : load env files = .error cause) : cause = .zeroCharacter := by
  unfold load at h
  split at h
  · exact cause_of_extendLines h
  · cases h

end EnvFile

namespace Command

variable {rd : Readers} {env env' loaded loaded' : Environment} {files : Storage}

/-! ## Laws -/

/-- What is asked of the loading of environment files, whatever they say. -/
structure Readers.Lawful (rd : Readers) : Prop where
  /-- Without a file the environment is as it was. -/
  leaves : ∀ env files, files.envFile = none → rd.load env files = .ok env
  /-- A variable that has a value keeps it. -/
  keeps : ∀ {env files loaded name}, rd.load env files = .ok loaded →
    (env.value? name).isSome → loaded.value? name = env.value? name
  /-- It is zero characters in values that cannot be loaded. -/
  lapses : ∀ {env files cause}, rd.load env files = .error cause → cause = .zeroCharacter

/-- Whether loading these files makes no other variable depend on this one: environments that are the
same without its entries are so afterwards. -/
def Readers.Overlooks (rd : Readers) (files : Storage) (var : Text) : Prop :=
  ∀ env env' loaded loaded', Environment.SameBut var env env' →
    rd.load env files = .ok loaded → rd.load env' files = .ok loaded' →
    Environment.SameBut var loaded loaded'

theorem lawful_readers : readers.Lawful where
  leaves env files h := by
    show EnvFile.load env files = .ok env
    rw [EnvFile.load, h]
  keeps := EnvFile.value?_load_of_isSome
  lapses := EnvFile.cause_of_load

/-- An environment file overlooks a variable if none of its lines asks for it. -/
theorem overlooks_readers {var : Text} (plain : '=' ∉ var)
    (h : ∀ file, files.envFile = some file →
      ∀ line ∈ EnvFile.textLines file, EnvFile.Overlooks var line) :
    readers.Overlooks files var :=
  fun _ _ _ _ same => EnvFile.sameBut_load same plain h

/-! ## The width of rows -/

theorem width_congr (h : env'.value? Environment.widthName = env.value? Environment.widthName) :
    env'.width = env.width := by
  unfold Environment.width Environment.read
  rw [h]

/-- The width of rows is not that of the threshold. -/
theorem value?_widthName_of_sameBut (h : Environment.SameBut Environment.thresholdName env env') :
    env'.value? Environment.widthName = env.value? Environment.widthName :=
  have other : ¬ Environment.DrawsOn Environment.thresholdName Environment.widthName := by decide
  (h.value?_eq (by decide) other).symm

/-- Environments that differ in the threshold are loaded with one width if it is set in them, or if the
environment file does not make it of the threshold. -/
theorem width_of_load (lawful : rd.Lawful)
    (same : Environment.SameBut Environment.thresholdName env env')
    (load : rd.load env files = .ok loaded) (load' : rd.load env' files = .ok loaded')
    (fixed : (env.value? Environment.widthName).isSome ∨
      rd.Overlooks files Environment.thresholdName) : loaded'.width = loaded.width := by
  apply width_congr
  have value := value?_widthName_of_sameBut same
  rcases fixed with set | overlooks
  · rw [lawful.keeps load set, lawful.keeps load' (by rwa [value]), value]
  · exact value?_widthName_of_sameBut (overlooks _ _ _ _ same load load')

end Command

end PageAudit
