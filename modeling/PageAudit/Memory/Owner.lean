import PageAudit.Memory.Layout
import PageAudit.Text.Quoted

/-!
# Owners of pages

The kernel prints one character for the holder of each page. A dot means *free* in the
physical dump and *unmapped* in a virtual one; a character without a meaning is kept.

* `tag_ofTag`: reading a tag and writing it again gives the same tag;
* `rank_injective`: the order of owners never takes two of them for one.
-/
namespace PageAudit

/-- Which of the two kinds of memory a tag was printed for.
mirrors src/memory.rs:87-92 -/
inductive Space | physical | virtual
  deriving DecidableEq, Repr

/-- Who holds a page.
mirrors src/memory.rs:7-20 -/
inductive Owner
  | free
  | unmapped
  | reserved
  | kernel
  | console
  | process (pid : UInt8)
  | other (tag : Char)
  deriving DecidableEq, Repr

/-- The owner of a page that nobody holds.
mirrors src/memory.rs:27-28 -/
def Space.vacant : Space → Owner
  | .physical => .free
  | .virtual => .unmapped

namespace Owner

/-- The owner that a tag stands for.
mirrors src/memory.rs:23-35 -/
def ofTag (s : Space) : Char → Owner
  | '.' => s.vacant
  | 'R' => .reserved
  | 'K' => .kernel
  | 'C' => .console
  | '1' => .process 1
  | '2' => .process 2
  | '3' => .process 3
  | '4' => .process 4
  | c => .other c

/-- The character that the kernel prints for an owner. The tag of a process is a sum of bytes, so it is
a digit up to process nine and wraps from process 208 on; `Guarded.tag` is the sum in range.
mirrors src/memory.rs:37-47 -/
def tag : Owner → Char
  | free => vacantTag
  | unmapped => vacantTag
  | reserved => 'R'
  | kernel => 'K'
  | console => 'C'
  | process pid => Char.ofUInt8 ('0'.toUInt8 + pid)
  | other c => c

/-- Reserved, kernel and console pages all belong to the kernel.
mirrors src/memory.rs:49-53 -/
def isKernel : Owner → Bool
  | reserved | kernel | console => true
  | _ => false

/-- Whether a virtual page with this owner is mapped.
mirrors src/memory.rs:55-58 -/
def isMapped (o : Owner) : Bool := o ≠ unmapped

/-- Whether a frame with this owner is free.
mirrors src/memory.rs:60-63 -/
def isFree (o : Owner) : Bool := o = free

/-- The process that holds the page, if one does.
mirrors src/memory.rs:65-70 -/
def pid? : Owner → Option UInt8
  | process pid => some pid
  | _ => none

/-- The owner as messages name it.
mirrors src/memory.rs:73-85 -/
def describe : Owner → Text
  | free => "free".toList
  | unmapped => "unmapped".toList
  | reserved => "reserved".toList
  | kernel => "kernel".toList
  | console => "console".toList
  | process pid => "process ".toList ++ Text.decimal pid.toNat
  | other c => Text.quoted '\x27' [c]

/-! ## Order -/

/-- The place of an owner in the order of owners: the kinds as declared, processes by number,
other tags by character.
mirrors src/memory.rs:8 -/
def rank : Owner → Nat
  | free => 0
  | unmapped => 1
  | reserved => 2
  | kernel => 3
  | console => 4
  | process pid => 5 + pid.toNat
  | other c => 261 + c.toNat

/-- The owners in ascending order, equal ones in the order given. -/
def sort (os : List Owner) : List Owner :=
  os.mergeSort (fun a b => a.rank ≤ b.rank)

theorem rank_injective {a b : Owner} (h : a.rank = b.rank) : a = b := by
  cases a <;> cases b <;> simp only [rank] at h <;> (try rfl) <;> (try omega)
  case process.process p q => rw [UInt8.toNat_inj.1 (by omega : p.toNat = q.toNat)]
  case process.other p c => have := p.toNat_lt; omega
  case other.process c p => have := p.toNat_lt; omega
  case other.other c d => rw [Char.toNat_inj.1 (by omega : c.toNat = d.toNat)]

@[simp] theorem tag_ofTag (s : Space) (c : Char) : (ofTag s c).tag = c := by
  unfold ofTag; split <;> (try rfl)
  cases s <;> rfl

end Owner
end PageAudit
