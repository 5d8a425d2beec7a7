import StorageMedia.Handle.Query

/-! # Seeking

A seek only moves the offset of the handle, never the device. Offsets past the end of the media
are allowed, offsets before its start or past the largest offset of a seek are not. A seek from
the end needs the size of the media.
-/

namespace StorageMedia.Handle

variable {σ : Type} [Device σ]

/-- Move the offset to a distance from a base, which must lie in the reach of seeks itself. -/
def seekFrom (handle : Handle σ) (base : Nat) (offset : Int) (origin : Origin) :
    Outcome σ (Handle σ) Nat :=
  let target := (base : Int) + offset
  if base ≤ maxSeekOffset ∧ 0 ≤ target ∧ target ≤ maxSeekOffset then
    .answer target.toNat { handle with cursor := target.toNat }
  else .refuse (.outOfBounds offset origin) handle

/-- Move the offset and answer with the new one. -/
def seek (handle : Handle σ) (offset : Int) (origin : Origin) : Outcome σ (Handle σ) Nat :=
  match origin with
  | .start =>
    if handle.isOpen then handle.seekFrom 0 offset .start else .refuse .notOpen handle
  | .current =>
    if handle.isOpen then handle.seekFrom handle.cursor offset .current
    else .refuse .notOpen handle
  | .mediaEnd =>
    handle.mediaSize.andThen fun size handle => handle.seekFrom size.toNat offset .mediaEnd

/-- Move the offset from an origin that is given by its code. -/
def seekByCode (handle : Handle σ) (offset code : Int) : Outcome σ (Handle σ) Nat :=
  match Origin.ofCode code with
  | .ok origin => handle.seek offset origin
  | .error cause => .refuse cause handle

/-- Move to an absolute offset of any size. -/
def seekStart (handle : Handle σ) (offset : Nat) : Outcome σ (Handle σ) Nat :=
  if offset ≤ maxSeekOffset then handle.seek offset .start
  else .refuse (.invalidArgument .excessiveOffset) handle

/-- On an open handle every offset in the reach of seeks is reached from the start. -/
theorem seek_start_of_open {handle : Handle σ} {offset : Nat} (opened : handle.isOpen = true)
    (reachable : offset ≤ maxSeekOffset) :
    handle.seek offset .start = .answer offset { handle with cursor := offset } := by
  simp only [seek, opened, if_true, seekFrom]
  rw [if_pos ⟨Nat.zero_le _, by omega, by omega⟩]
  simp

end StorageMedia.Handle
