import PageAudit.Settings.EnvFile
import PageAudit.Proofs.Steps
import Mathlib.Data.List.TakeWhile

/-!
# Environments that differ in one variable

Values are put into the lines of an environment file while it is read, so what the file defines can
depend on any variable. It does not depend on one that none of its lines asks for: two environments
that are the same without the entries of that variable (`SameBut`) are so after the file.

* `Environment.SameBut.value?_eq`: every other variable has the same value;
* `EnvFile.overlooks_of_no_dollar`: a line without a dollar asks for no variable;
* `EnvFile.sameBut_load`: what an environment file leaves of the environments.
-/
namespace PageAudit

open Text

namespace Environment

/-- Whether a name can take its value from the entries of a variable: it is that name, or goes on
after it with an equals sign. -/
def DrawsOn (var name : Text) : Prop := var ++ ['='] <+: name ++ ['=']

/-- The entries of the other variables. -/
def without (env : Environment) (var : Text) : Environment :=
  env.filter fun e => !(var ++ ['=']).isPrefixOf e

/-- Whether two environments are the same without the entries of a variable. -/
def SameBut (var : Text) (env env' : Environment) : Prop := env.without var = env'.without var

instance (var name : Text) : Decidable (DrawsOn var name) :=
  inferInstanceAs (Decidable (_ <+: _))

instance (var : Text) (env env' : Environment) : Decidable (SameBut var env env') :=
  inferInstanceAs (Decidable (_ = _))

section
variable {var name : Text}

theorem eq_of_drawsOn (h : DrawsOn var name) (plain : '=' ∉ name) : name = var := by
  rcases List.prefix_concat_iff.mp h with same | inside
  · exact (List.append_cancel_right same).symm
  · exact absurd (inside.subset (List.mem_append_right var List.mem_cons_self)) plain

/-- An entry of a variable gives no other name a value. -/
theorem valueIn?_of_entry {e : Text} (plain : '=' ∉ var) (other : ¬ DrawsOn var name)
    (entry : var ++ ['='] <+: e) : valueIn? name e = none := by
  cases h : valueIn? name e with
  | none => rfl
  | some value =>
    have named : name ++ ['='] <+: e :=
      ⟨value, by simp [valueIn?_eq_some_iff.mp h, Environment.entry]⟩
    rcases List.prefix_or_prefix_of_prefix entry named with draws | shorter
    · exact absurd draws other
    · rcases List.prefix_concat_iff.mp shorter with same | inside
      · exact absurd ⟨[], by rw [List.append_nil, same]⟩ other
      · exact absurd (inside.subset (List.mem_append_right name List.mem_cons_self)) plain

theorem value?_without (env : Environment) (plain : '=' ∉ var) (other : ¬ DrawsOn var name) :
    (env.without var).value? name = env.value? name := by
  unfold value?
  split
  · rfl
  · induction env with
    | nil => rfl
    | cons e env ih =>
      rw [without, List.filter_cons]
      split
      · rw [List.findSome?_cons, List.findSome?_cons, ← ih]
        rfl
      · next entry =>
        rw [List.findSome?_cons, valueIn?_of_entry plain other (by simpa using entry)]
        exact ih

theorem SameBut.value?_eq {env env' : Environment} (h : SameBut var env env') (plain : '=' ∉ var)
    (other : ¬ DrawsOn var name) : env.value? name = env'.value? name := by
  rw [← value?_without env plain other, h, value?_without env' plain other]

end

end Environment

namespace EnvFile

open Environment

/-! ## Definitions -/

section
variable {var name value : Text} {env env' defined defined' : Environment}

theorem without_define_self (h : define env var value = .ok defined) :
    defined.without var = env.without var := by
  rcases define_eq_ok_iff.mp h with ⟨-, rfl⟩ | ⟨-, -, rfl⟩
  · rfl
  · simp [without, entry]

/-- A definition leaves the environments the same, whichever variable it is of. -/
theorem sameBut_define (h : SameBut var env env') (plain : '=' ∉ var) (proper : '=' ∉ name)
    (hd : define env name value = .ok defined) (hd' : define env' name value = .ok defined') :
    SameBut var defined defined' := by
  by_cases same : name = var
  · subst same
    rw [SameBut, without_define_self hd, without_define_self hd']
    exact h
  · have value : env.value? name = env'.value? name :=
      h.value?_eq plain fun draws => same (eq_of_drawsOn draws proper)
    rcases define_eq_ok_iff.mp hd with ⟨set, rfl⟩ | ⟨free, -, rfl⟩ <;>
      rcases define_eq_ok_iff.mp hd' with ⟨set', rfl⟩ | ⟨free', -, rfl⟩
    · exact h
    · rw [value, free'] at set
      cases set
    · rw [← value, free] at set'
      cases set'
    · rw [SameBut, without, without, List.filter_append, List.filter_append]
      exact congrArg (· ++ _) h

end

/-! ## Lines -/

section
variable {t name rest : Text}

/-- A name holds no equals sign, since such a sign ends it; what follows is part of the line. -/
theorem takeName_parts (h : takeName t = some (name, rest)) : '=' ∉ name ∧ rest ⊆ t := by
  unfold takeName at h
  split at h
  · obtain ⟨rfl, rfl⟩ := Prod.mk.inj (Option.some.inj h)
    refine ⟨?_, ?_⟩
    · intro among
      cases List.mem_takeWhile_imp among
    · exact List.Subset.trans (List.dropWhile_subset _) (List.dropWhile_subset _)
  · cases h

theorem takeEquals_subset (h : takeEquals t = some rest) : rest ⊆ t := by
  unfold takeEquals at h
  split at h
  · obtain rfl := Option.some.inj h
    exact List.subset_cons_self _ _
  · cases h

theorem takeAssignment_parts (h : takeAssignment t = some (name, rest)) :
    '=' ∉ name ∧ rest ⊆ t := by
  obtain ⟨⟨n, after⟩, named, h⟩ := Option.bind_eq_some_iff.mp h
  obtain ⟨value, equals, h⟩ := Option.bind_eq_some_iff.mp h
  cases h
  obtain ⟨plain, inside⟩ := takeName_parts named
  exact ⟨plain, List.Subset.trans (takeEquals_subset equals) inside⟩

theorem takeExport_parts (h : takeExport t = some (name, rest)) : '=' ∉ name ∧ rest ⊆ t := by
  obtain ⟨⟨n, after⟩, named, h⟩ := Option.bind_eq_some_iff.mp h
  obtain ⟨plain, inside⟩ := takeName_parts named
  dsimp only at h
  split at h
  · next equals =>
    cases h
    exact ⟨plain, List.Subset.trans (takeEquals_subset equals) inside⟩
  · split at h
    · obtain ⟨plain', inside'⟩ := takeAssignment_parts h
      exact ⟨plain', List.Subset.trans inside' inside⟩
    · cases h

end

theorem plain_of_assign {lookup : Text → Text} {line name value : Text}
    (h : readLine lookup line = some (.assign name value)) : '=' ∉ name := by
  unfold readLine at h
  dsimp only at h
  split at h
  · cases h
  · obtain ⟨⟨n, rest⟩, export', h⟩ := Option.bind_eq_some_iff.mp h
    dsimp only at h
    split at h
    · cases h
      exact (takeExport_parts export').1
    · obtain ⟨v, -, h⟩ := Option.bind_eq_some_iff.mp h
      cases h
      exact (takeExport_parts export').1

/-- Whether what a line says does not depend on the value of a variable. -/
def Overlooks (var line : Text) : Prop :=
  ∀ lookup lookup' : Text → Text, (∀ name, ¬ DrawsOn var name → lookup name = lookup' name) →
    readLine lookup line = readLine lookup' line

/-- Whether one is in the name of a variable. -/
def Mode.isAsking : Mode → Bool
  | name .. | braced .. => true
  | _ => false

/-- Only a dollar makes one ask for a variable, and only who asks is told its value. -/
theorem Mode.step_of_ne_dollar {m : Mode} {c : Char} (idle : m.isAsking = false) (hc : c ≠ '$')
    (lookup lookup' : Text → Text) : m.step lookup c = m.step lookup' c ∧
      ∀ x, m.step lookup c = some x → x.2.isAsking = false := by
  cases m with
  | name => cases idle
  | braced => cases idle
  | plain quoted =>
    refine ⟨rfl, ?_⟩
    intro x h
    simp only [step, if_neg hc] at h
    grind [isAsking]
  | _ =>
    refine ⟨rfl, ?_⟩
    intro x h
    simp only [step] at h
    grind [isAsking]

/-- A value without a dollar in it asks for no variable. -/
theorem scan_of_no_dollar {m : Mode} {t : Text} (idle : m.isAsking = false) (ht : '$' ∉ t)
    (lookup lookup' : Text → Text) : scan lookup m t = scan lookup' m t := by
  induction t generalizing m with
  | nil =>
    cases m with
    | name => cases idle
    | plain quoted => cases quoted <;> rfl
    | escaped quoted => cases quoted <;> rfl
    | _ => rfl
  | cons c t ih =>
    rw [List.mem_cons, not_or] at ht
    obtain ⟨hc, ht⟩ := ht
    obtain ⟨same, still⟩ := Mode.step_of_ne_dollar idle (Ne.symm hc) lookup lookup'
    rw [scan, scan, ← same]
    cases step : m.step lookup c with
    | none => rfl
    | some x => simp only [Option.bind_eq_bind, Option.bind_some, ih (still x step) ht]

theorem overlooks_of_no_dollar {var line : Text} (h : '$' ∉ line) : Overlooks var line := by
  intro lookup lookup' _
  have trimmed : trim line ⊆ line := by
    intro c hc
    have hc := List.dropWhile_subset _ hc
    rw [trimEnd, List.mem_reverse] at hc
    exact List.mem_reverse.mp (List.dropWhile_subset _ hc)
  unfold readLine
  dsimp only
  split
  · rfl
  · cases export' : takeExport (trim line) with
    | none => rfl
    | some x =>
      have inside := List.Subset.trans (takeExport_parts export').2 trimmed
      have value : '$' ∉ trimStart x.2 := fun dollar => h (inside (List.dropWhile_subset _ dollar))
      simp only [Option.bind_eq_bind, Option.bind_some,
        scan_of_no_dollar (m := .plain false) rfl value lookup lookup']

/-! ## Files -/

/-- The lines of a file; what is no text is left out. -/
def textLines (file : ByteArray) : List Text :=
  (file.toList.splitOn 10).filterMap fun l => ofUtf8 ⟨l.toArray⟩

section
variable {var : Text} {env env' loaded loaded' : Environment}

theorem sameBut_extendLines {ls : List (Option Text)} (h : SameBut var env env') (plain : '=' ∉ var)
    (overlooks : ∀ line, some line ∈ ls → Overlooks var line)
    (hl : extendLines env ls = .ok loaded) (hl' : extendLines env' ls = .ok loaded') :
    SameBut var loaded loaded' := by
  induction ls generalizing env env' with
  | nil =>
    cases hl
    cases hl'
    exact h
  | cons l ls ih =>
    have rest := fun line hline => overlooks line (List.mem_cons_of_mem l hline)
    cases l with
    | none =>
      cases hl
      cases hl'
      exact h
    | some line =>
      -- both environments are asked for the same values, so the line says the same in both
      have same := overlooks line List.mem_cons_self (fun name => (env.value? name).getD [])
        (fun name => (env'.value? name).getD []) fun name other => by rw [h.value?_eq plain other]
      rw [extendLines] at hl hl'
      rw [← same] at hl'
      cases read : readLine (fun name => (env.value? name).getD []) line with
      | none =>
        simp only [read] at hl hl'
        cases hl
        cases hl'
        exact h
      | some statement =>
        cases statement with
        | nothing =>
          simp only [read] at hl hl'
          exact ih h rest hl hl'
        | assign name value =>
          simp only [read, Steps.bind_eq_ok_iff] at hl hl'
          obtain ⟨e, defined, hl⟩ := hl
          obtain ⟨e', defined', hl'⟩ := hl'
          exact ih (sameBut_define h plain (plain_of_assign read) defined defined') rest hl hl'

/-- Lines that overlook a variable leave environments the same without its entries. -/
theorem sameBut_load {files : Storage} (h : SameBut var env env') (plain : '=' ∉ var)
    (overlooks : ∀ file, files.envFile = some file → ∀ line ∈ textLines file, Overlooks var line)
    (hl : load env files = .ok loaded) (hl' : load env' files = .ok loaded') :
    SameBut var loaded loaded' := by
  unfold load at hl hl'
  cases found : files.envFile with
  | none =>
    rw [found] at hl hl'
    cases hl
    cases hl'
    exact h
  | some file =>
    rw [found] at hl hl'
    refine sameBut_extendLines h plain ?_ hl hl'
    intro line among
    obtain ⟨l, hl, text⟩ := List.mem_map.mp among
    exact overlooks file found line (List.mem_filterMap.mpr ⟨l, hl, text⟩)

end

end EnvFile

end PageAudit
