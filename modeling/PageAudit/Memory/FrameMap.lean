import PageAudit.Memory.Owner
import PageAudit.Dump.Fault

/-!
# Physical memory

A frame map gives the owner of every physical frame. It is read from one tag per frame.
-/
namespace PageAudit

/-- The owners of the frames, by ascending address.
mirrors src/memory.rs:112-116 -/
structure FrameMap where
  owners : List Owner
  length_owners : owners.length = frameCount
  deriving DecidableEq, Repr

namespace FrameMap

/-- Reads one tag per frame; a dump of another length is refused.
mirrors src/memory.rs:119-132 -/
def decode (raw : Text) : Except Fault FrameMap :=
  if h : raw.length = frameCount then
    .ok ⟨raw.map (Owner.ofTag .physical), by simpa using h⟩
  else
    .error (.frameTags raw.length)

/-- The owner of a frame, if there is such a frame.
mirrors src/memory.rs:138-141 -/
def owner? (m : FrameMap) (i : Nat) : Option Owner := m.owners[i]?

/-- The lowest free frame from `start` on and below `stop`.
mirrors src/memory.rs:151-155 -/
def firstFree (m : FrameMap) (start stop : Nat) : Option Nat :=
  (((m.owners.take stop).drop start).findIdx? Owner.isFree).map (start + ·)

/-- The tags of the frames. -/
def tags (m : FrameMap) : Text := m.owners.map Owner.tag

/-- Nothing of a dump is lost by decoding it. -/
theorem tags_of_decode {raw : Text} {m : FrameMap} (h : decode raw = .ok m) : m.tags = raw := by
  unfold decode at h
  split at h
  · cases h
    simp only [tags, List.map_map]
    exact (List.map_congr_left fun c _ => Owner.tag_ofTag .physical c).trans (List.map_id raw)
  · cases h

end FrameMap
end PageAudit
