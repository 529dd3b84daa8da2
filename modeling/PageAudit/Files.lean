import PageAudit.Dump.Fault
import PageAudit.Text.Utf8

/-!
# Files

What a run sees of the file system is a `Storage`: whether a path leads anywhere, what can be read
there, and how many directories there are above the one that the run starts in. A `FileTree` is a
storage given as data, the directory that a run starts in.
-/
namespace PageAudit

/-- What can be asked of the file system. -/
structure Storage where
  /-- Whether a path leads to a file or a directory. -/
  isPresent : Text → Bool
  /-- The bytes of the file that a path leads to. -/
  read : Text → Except ReadFailure ByteArray
  /-- The number of directories above the one that a run starts in. -/
  above : Nat

/-- The text of the file that a path leads to.
mirrors src/main.rs:96 -/
def Storage.readText (s : Storage) (path : Text) : Except ReadFailure Text := do
  match Text.ofUtf8 (← s.read path) with
  | some t => return t
  | none => throw .notText

/-- The same path from one directory further up. -/
def parentPath (path : Text) : Text := "../".toList ++ path

/-- Looks for a file at a path, and then at the same path from each of the `n` directories above. Where
there is nothing or no file the search goes on; any other failure ends it. -/
def Storage.search (s : Storage) (path : Text) (n : Nat) : Option ByteArray :=
  match s.read path with
  | .ok bytes => some bytes
  | .error .notFound | .error .isDirectory =>
    match n with
    | 0 => none
    | n + 1 => s.search (parentPath path) n
  | .error _ => none

/-- What environment files are called. -/
def envFileName : Text := ".env".toList

/-- The environment file of a run: that of its directory, or else of the next one above that has one.
mirrors src/config.rs:18 -/
def Storage.envFile (s : Storage) : Option ByteArray := s.search envFileName s.above

/-! ## A directory as data -/

/-- A thing in a directory: a file with its bytes, or a directory with nothing in it. -/
inductive FileNode
  | file (bytes : ByteArray)
  | directory

/-- The names in a directory and what they stand for. -/
abbrev FileTree := List (Text × FileNode)

namespace FileTree

/-- The longest name of a file, in bytes. -/
def maxName : Nat := 255

/-- The longest path, in bytes. -/
def maxPath : Nat := 4095

/-- Where a path has led so far: to a file, or to a directory so many steps below the one of
the tree, whose own depth is 0. Nothing is known of the others. -/
inductive Place
  | file (bytes : ByteArray)
  | directory (depth : Int)

/-- One step along a path. -/
def step (t : FileTree) (p : Place) (name : Text) : Except ReadFailure Place :=
  match p with
  | .file _ => .error .notDirectory
  | .directory depth =>
    if name = [] ∨ name = ['.'] then .ok p
    else if name = ['.', '.'] then .ok (.directory (depth - 1))
    else if maxName < Text.utf8Size name then .error .nameTooLong
    else if depth ≠ 0 then .error .notFound
    else match t.lookup name with
      | some (.file bytes) => .ok (.file bytes)
      | some .directory => .ok (.directory 1)
      | none => .error .notFound

/-- Where a path leads. A path that starts with a slash leaves the directory. -/
def resolve (t : FileTree) (path : Text) : Except ReadFailure Place :=
  if '\x00' ∈ path then .error .nulInName
  else if path = [] then .error .notFound
  else if maxPath < Text.utf8Size path then .error .nameTooLong
  else
    let start := if path.head? = some '/' then Place.directory (-1) else .directory 0
    (path.splitOn '/').foldlM t.step start

/-- The tree as a storage, with nothing above it. -/
def storage (t : FileTree) : Storage where
  isPresent path := (t.resolve path).toBool
  read path := do
    match ← t.resolve path with
    | .file bytes => return bytes
    | .directory _ => throw .isDirectory
  above := 0

end FileTree
end PageAudit
