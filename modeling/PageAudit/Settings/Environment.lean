import PageAudit.Dump.Rows
import PageAudit.Text.Blank
import PageAudit.Text.Utf8
import PageAudit.Trace

/-!
# Settings in the environment

The environment is a list of entries `NAME=value`. A setting is the value of a variable, read
without the blanks around it. A value that cannot be read counts as none, and then the default
holds.
-/
namespace PageAudit

/-- The entries of the environment, in order, each the text `NAME=value`. -/
abbrev Environment := List Text

namespace Environment

/-- The entry that gives a variable a value. -/
def entry (name value : Text) : Text := name ++ '=' :: value

/-- The value that an entry gives a variable: what follows the name and an equals sign. A name
may hold equals signs itself, so an entry can be read in several ways. -/
def valueIn? : Text → Text → Option Text
  | [], '=' :: value => some value
  | c :: name, d :: e => if c = d then valueIn? name e else none
  | _, _ => none

/-- The value of a variable: that of the first entry that gives it one. The empty name has no
value. -/
def value? (env : Environment) (name : Text) : Option Text :=
  if name = [] then none else env.findSome? (valueIn? name)

theorem valueIn?_eq_some_iff {name e value : Text} :
    valueIn? name e = some value ↔ e = entry name value := by
  induction name generalizing e with
  | nil =>
    unfold valueIn?
    split <;> simp_all [entry, eq_comm]
  | cons c name ih =>
    cases e with
    | nil => simp [valueIn?, entry]
    | cons d e =>
      simp only [valueIn?, entry, List.cons_append, List.cons.injEq]
      split
      · rw [ih]; simp_all [entry]
      · simp_all [eq_comm]

/-- An entry put at the end leaves the values that there are. -/
theorem value?_append_of_isSome {env : Environment} {name : Text} (h : (env.value? name).isSome)
    (e : Text) : value? (env ++ [e]) name = env.value? name := by
  unfold value? at h ⊢
  split
  · rfl
  · rename_i hname
    rw [if_neg hname] at h
    rw [List.findSome?_append, Option.or_of_isSome h]

/-- An entry with a second equals sign has a value under two names. -/
example : value? [entry "A".toList "B=5".toList] "A".toList = some "B=5".toList ∧
    value? [entry "A".toList "B=5".toList] "A=B".toList = some "5".toList := by decide

/-- The entries in a block of bytes, each with a zero byte after it; what is no text is left
out. -/
def ofBlock (block : ByteArray) : Environment :=
  (block.toList.splitOn 0).filterMap fun l => Text.ofUtf8 ⟨l.toArray⟩

/-- What the value of a variable, blanks apart, is read as.
mirrors src/config.rs:34-39 -/
def read {α : Type} (env : Environment) (reader : Text → Option α) (name : Text) : Option α :=
  (env.value? name).bind fun v => reader v.trim

/-! ## Readers -/

/-- Reads `true` or `false`. -/
def readBool (t : Text) : Option Bool :=
  if t = "true".toList then some true
  else if t = "false".toList then some false
  else none

/-- Reads a single character. -/
def readChar : Text → Option Char
  | [c] => some c
  | _ => none

/-- Sizes are below this limit. -/
def sizeLimit : Nat := Nat.pow 2 64

/-- Reads a size. -/
def readSize (t : Text) : Option Nat := Text.readNatural sizeLimit t

/-! ## The settings -/

/-- The variable with the least important level of records to show.
mirrors src/config.rs:8 -/
def thresholdName : Text := "GRADER_LOG_LEVEL".toList

/-- The variable with the width of rows.
mirrors src/config.rs:9 -/
def widthName : Text := "GRADER_WRAP_WIDTH".toList

/-- Which records to show: unless set, those of level `info` and above.
mirrors src/config.rs:41-43 -/
def threshold (env : Environment) : Threshold :=
  (env.read Threshold.ofName? thresholdName).getD ⟨some .info⟩

/-- The width of rows; zero counts as not set.
mirrors src/config.rs:45-49 -/
def width (env : Environment) : Width :=
  Width.default.orKeep ((env.read readSize widthName).getD 0)

end Environment
end PageAudit
