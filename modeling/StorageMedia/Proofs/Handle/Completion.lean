import StorageMedia.Proofs.Handle.Delivery
import StorageMedia.Proofs.Handle.Position
import StorageMedia.Proofs.Handle.Requests
import StorageMedia.Proofs.Transfer.Completion

/-! # Tolerant reads are complete

With options that tolerate errors, a read of a device whose failures can be tolerated gives all the
bytes that it asks for and that lie on the media, whichever of them could be read. It does so
whatever the granularity and the retries are and whichever part of a block is zeroed.
-/

namespace StorageMedia

variable {σ : Type} [Device σ] {host : Host σ} {waited : Nat} {device : σ} {handle : Handle σ}

open Handle Operation

/-- On a device that can be read with tolerance as far as its media goes, a tolerant read that is
not aborted succeeds with exactly the bytes that lie on the media and moves the offset of the handle
behind them, once the interruptions are waited out. -/
theorem Handle.tolerant_read_completes (medium : TolerableMedium σ) (obeys : medium.Obeys device)
    (within : InSession host waited device handle)
    (tolerant : handle.options.tolerateErrors = true) (running : handle.aborted = false)
    {geometry : Geometry} (found : handle.geometry.result = .ok geometry)
    (inside : geometry.mediaSize.toNat ≤ medium.size) (bytes : Bytes) :
    ∃ enough, ∀ patience, enough ≤ patience →
      let read := handle.readBuffer patience bytes
      let count := min bytes.size (geometry.mediaSize.toNat - handle.cursor)
      read.outcome.result = .ok count ∧ read.outcome.state.cursor = handle.cursor + count := by
  have tracks : handle.Tracks medium.toPositioned := within.tracks obeys
  obtain ⟨session, opened, _, _⟩ := geometry_of_found found
  generalize clamped : handle.clampedSize geometry.mediaSize bytes.size = size
  have counted : min bytes.size (geometry.mediaSize.toNat - handle.cursor) = size := by
    rw [← clamped, clampedSize, Nat.min_comm]
  rw [counted]
  rcases Nat.eq_zero_or_pos size with rfl | positive
  · refine ⟨0, fun patience _ => ?_⟩
    obtain ⟨_, _, _, reads⟩ := readBuffer_readsMeasured found patience bytes
    generalize handle.readBuffer patience bytes = read at reads ⊢
    cases reads with
    | outside => exact ⟨rfl, rfl⟩
    | transferred => omega
  · obtain ⟨taken, _, upTo⟩ := clamped_bounds clamped positive
    obtain ⟨final, enough, ends⟩ := Transfer.read_persists (tracks session opened).geometry tolerant
      handle.cursor (bytes.take size) (by omega) (clamped_fits clamped positive)
    refine ⟨enough, fun patience waits => ?_⟩
    obtain ⟨other, same, _, reads⟩ := readBuffer_readsMeasured found patience bytes
    obtain rfl := Option.some.inj (opened.symm.trans same)
    generalize handle.readBuffer patience bytes = read at reads ⊢
    cases reads with
    | outside none => omega
    | transferred again _ runs =>
      obtain rfl := again.symm.trans clamped
      have calm := (tracks session opened).geometry_calm medium.calm
      rw [aborted_resume calm, running, ends patience waits, taken] at runs
      subst runs
      exact ⟨rfl, rfl⟩

/-- All ten bytes of the moody device are delivered, the one that heals and the one that does not
among them. -/
theorem moody_read_completes :
    let handle := tolerantHandle.startSession "drive" .moody
    ∃ enough, ∀ patience, enough ≤ patience →
      let read := handle.readBuffer patience (.replicate 20 0x77)
      read.outcome.result = .ok 10 ∧ read.outcome.state.cursor = 10 := by
  have within : InSession Host.empty 0 .moody (tolerantHandle.startSession "drive" .moody) :=
    .opened (.fresh _) rfl (by decide)
  exact tolerant_read_completes (ScriptedDevice.tolerableMedium (.pattern 10))
    ScriptedDevice.isTolerable_moody within rfl rfl rfl (by decide) (.replicate 20 0x77)

end StorageMedia
