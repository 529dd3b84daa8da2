import PageAudit.Files
import PageAudit.Guarded.Operations
import PageAudit.Text.Alphanumeric

/-!
# Environment files

A file can give values to variables that have none, one `NAME=value` to a line, after the word
`export` if one likes. Values may be quoted. In single quotes all characters stand for
themselves; elsewhere a backslash escapes the next character and a dollar puts in the value of
a variable. The file is read up to the first line that is not well formed. A value with a zero character
in it cannot be given to a variable; there the reading lapses. These are the rules of the loader that is
called at src/config.rs:18; a run takes it as a parameter (`Command.Readers`).
-/
namespace PageAudit.EnvFile

open Guarded (Lapse)

/-! ## Values -/

/-- Where in a value one is. `quoted` says that double quotes are open. -/
inductive Mode
  /-- Outside single quotes. -/
  | plain (quoted : Bool)
  /-- Inside single quotes. -/
  | single
  /-- After a backslash. -/
  | escaped (quoted : Bool)
  /-- In the name after a dollar; what there is of it stands in reverse. -/
  | name (quoted : Bool) (soFar : Text)
  /-- In the name after a dollar and a brace; what there is of it stands in reverse. -/
  | braced (quoted : Bool) (soFar : Text)
  /-- After the value. -/
  | after
  /-- In a comment after the value. -/
  | comment
  deriving DecidableEq, Repr

/-- What a character of a value adds to it, and where one is then; nothing if the character
cannot stand there. -/
def Mode.step (lookup : Text → Text) (m : Mode) (c : Char) : Option (Text × Mode) :=
  match m with
  | plain quoted =>
    if c = '$' then some ([], name quoted [])
    else if c = '\\' then some ([], escaped quoted)
    else if c = '"' then some ([], plain !quoted)
    else if quoted then some ([c], m)
    else if c = '\x27' then some ([], single)
    else if c = ' ' ∨ c = '\t' then some ([], after)
    else some ([c], m)
  | single => if c = '\x27' then some ([], plain false) else some ([c], m)
  | escaped quoted =>
    if c = 'n' then some (['\n'], plain quoted)
    else if c ∈ ['\\', '\x27', '"', '$', ' '] then some ([c], plain quoted)
    else none
  | name quoted soFar =>
    if Text.isAlphanumeric c then some ([], name quoted (c :: soFar))
    else if c = '\x7b' ∧ soFar = [] then some ([], braced quoted [])
    else if c = '$' then some (lookup soFar.reverse, name quoted [])
    else some (lookup soFar.reverse ++ [c], plain quoted)
  | braced quoted soFar =>
    if c = '\x7d' then some (lookup soFar.reverse, plain quoted)
    else some ([], braced quoted (c :: soFar))
  | after =>
    if c = ' ' ∨ c = '\t' then some ([], after)
    else if c = '#' then some ([], comment)
    else none
  | comment => some ([], comment)

/-- What the end of the line adds to a value; nothing if quotes or braces are open. -/
def Mode.finish (lookup : Text → Text) : Mode → Option Text
  | name false soFar => some (lookup soFar.reverse)
  | plain false | escaped false | after | comment => some []
  | _ => none

/-- The value that a text writes, from a mode on. -/
def scan (lookup : Text → Text) (m : Mode) : Text → Option Text
  | [] => m.finish lookup
  | c :: r => do
    let (added, next) ← m.step lookup c
    return added ++ (← scan lookup next r)

/-! ## Lines -/

/-- What a line of the file says. -/
inductive Statement
  | nothing
  | assign (name value : Text)
  deriving DecidableEq, Repr

/-- Whether a name can start with the character. -/
def startsName (c : Char) : Bool := c.isAlpha || c = '_'

/-- Whether a name can go on with the character. -/
def continuesName (c : Char) : Bool := c.isAlphanum || c = '_' || c = '.'

/-- A name at the start of a text, and the text after it and the blanks that follow. -/
def takeName (t : Text) : Option (Text × Text) :=
  if t.head?.any startsName then
    some (t.takeWhile continuesName, Text.trimStart (t.dropWhile continuesName))
  else none

/-- The text after an equals sign. -/
def takeEquals : Text → Option Text
  | '=' :: r => some r
  | _ => none

/-- A name and the text after the equals sign that follows it. -/
def takeAssignment (t : Text) : Option (Text × Text) := do
  let (name, rest) ← takeName t
  return (name, ← takeEquals rest)

/-- The same, where the word `export` may come first. -/
def takeExport (t : Text) : Option (Text × Text) := do
  let (name, rest) ← takeName t
  match takeEquals rest with
  | some r => return (name, r)
  | none => if name = "export".toList then takeAssignment rest else none

/-- Whether the rest of a line holds nothing or a comment. -/
def isVoid (t : Text) : Bool := t.isEmpty || t.head? = some '#'

/-- What a line says; nothing if it is not well formed. -/
def readLine (lookup : Text → Text) (line : Text) : Option Statement :=
  let t := Text.trim line
  if isVoid t then some .nothing
  else do
    let (name, rest) ← takeExport t
    let rest := Text.trimStart rest
    if isVoid rest then return .assign name []
    return .assign name (← scan lookup (.plain false) rest)

/-! ## Files -/

/-- The environment with a value for the variable, unless it has one. -/
def define (env : Environment) (name value : Text) : Except Lapse Environment :=
  if (env.value? name).isSome then .ok env
  else if '\x00' ∈ value then .error .zeroCharacter
  else .ok (env ++ [Environment.entry name value])

/-- The environment after the lines of a file; a line that is no text is not well formed. -/
def extendLines (env : Environment) : List (Option Text) → Except Lapse Environment
  | [] => .ok env
  | none :: _ => .ok env
  | some line :: r =>
    match readLine (fun name => (env.value? name).getD []) line with
    | none => .ok env
    | some .nothing => extendLines env r
    | some (.assign name value) => do extendLines (← define env name value) r

/-- The environment after a file. -/
def extend (env : Environment) (file : ByteArray) : Except Lapse Environment :=
  extendLines env ((file.toList.splitOn 10).map fun l => Text.ofUtf8 ⟨l.toArray⟩)

/-- The environment after the environment file of a run, if there is one.
mirrors src/config.rs:16-20 -/
def load (env : Environment) (files : Storage) : Except Lapse Environment :=
  match files.envFile with
  | some file => extend env file
  | none => .ok env

theorem define_eq_ok_iff {env defined : Environment} {name value : Text} :
    define env name value = .ok defined ↔
      ((env.value? name).isSome ∧ defined = env) ∨ ((env.value? name).isSome = false ∧
        '\x00' ∉ value ∧ defined = env ++ [Environment.entry name value]) := by
  unfold define
  split
  · simp [*, eq_comm]
  · split <;> simp [*, eq_comm]

theorem define_eq_error_iff {env : Environment} {name value : Text} {cause : Lapse} :
    define env name value = .error cause ↔
      cause = .zeroCharacter ∧ (env.value? name).isSome = false ∧ '\x00' ∈ value := by
  unfold define
  split
  · simp [*]
  · split <;> simp [*, eq_comm]

/-- Whatever is defined, the values that there are stay. -/
theorem value?_define_of_isSome {env defined : Environment} {name value other : Text}
    (h : define env name value = .ok defined) (set : (env.value? other).isSome) :
    defined.value? other = env.value? other := by
  rcases define_eq_ok_iff.mp h with ⟨-, rfl⟩ | ⟨-, -, rfl⟩
  · rfl
  · exact Environment.value?_append_of_isSome set _

end PageAudit.EnvFile
