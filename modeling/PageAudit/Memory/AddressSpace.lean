import PageAudit.Memory.Owner
import PageAudit.Dump.Fault

/-!
# Virtual memory

An address space gives for each of its pages the owner and whether user code can access it.
It is read from two characters per page, the owner's tag and a flag, and can be written the
same way. Only the user flag itself makes a page accessible; any other flag is written back
as a blank.
-/
namespace PageAudit

/-- A page of an address space.
mirrors src/memory.rs:99-103 -/
structure Entry where
  owner : Owner
  user : Bool
  deriving DecidableEq, Repr

namespace Entry

/-- The page that a tag and a flag stand for.
mirrors src/memory.rs:184-187 -/
def ofPair : Char × Char → Entry
  | (tag, flag) => ⟨Owner.ofTag .virtual tag, flag == userFlag⟩

/-- The tag and the flag of a page.
mirrors src/memory.rs:105-110 -/
def code (e : Entry) : Text := [e.owner.tag, if e.user then userFlag else closedFlag]

end Entry

/-- Neighbours two by two; a last single one is left out. -/
def pairs {α : Type} : List α → List (α × α)
  | a :: b :: r => (a, b) :: pairs r
  | _ => []

theorem length_pairs {α : Type} : (n : Nat) → (l : List α) → l.length = 2 * n → (pairs l).length = n
  | 0, [], _ => rfl
  | n + 1, _ :: _ :: r, h => by
    simp only [List.length_cons] at h
    simp [pairs, length_pairs n r (by omega)]
  | n + 1, [_], h => by simp only [List.length_cons, List.length_nil] at h; omega

/-- The memory of one process as its page tables show it.
mirrors src/memory.rs:166-171 -/
structure AddressSpace where
  pid : UInt8
  entries : List Entry
  length_entries : entries.length = pageCount
  deriving DecidableEq, Repr

namespace AddressSpace

/-- Reads two characters per page; a dump of another length is refused.
mirrors src/memory.rs:174-190 -/
def decode (pid : UInt8) (raw : Text) : Except Fault AddressSpace :=
  if h : raw.length = 2 * pageCount then
    .ok ⟨pid, (pairs raw).map Entry.ofPair, by simpa using length_pairs pageCount raw h⟩
  else
    .error (.pageTags pid raw.length)

/-- Two characters per page.
mirrors src/memory.rs:192-199 -/
def encode (s : AddressSpace) : Text := s.entries.flatMap Entry.code

/-- A page, if there is such a page.
mirrors src/memory.rs:224-230 -/
def entry? (s : AddressSpace) (i : Nat) : Option Entry := s.entries[i]?

/-- The pages with their indices. -/
def pages (s : AddressSpace) : List (Entry × Nat) := s.entries.zipIdx

/-- The pages of user memory with their indices.
mirrors src/memory.rs:218-221 -/
def userPages (s : AddressSpace) : List (Entry × Nat) := s.pages.drop kernelBoundary

/-- The last page.
mirrors src/checks.rs:250 -/
def lastEntry (s : AddressSpace) : Entry :=
  s.entries.get ⟨stackPage, by rw [s.length_entries]; decide⟩

/-- The pages of user memory that a process holds.
mirrors src/counters.rs:23-30 -/
def mappedCount (s : AddressSpace) (pid : UInt8) : Nat :=
  (s.entries.drop kernelBoundary).countP (·.owner = .process pid)

end AddressSpace
end PageAudit
