import StorageMedia.Proofs.Handle.Splitting

/-! # What a read of a damaged medium loses

A tolerant read of media with damage that stays gives every byte that was asked for and lies on the
media. Which of them it zeroes and records is decided by the damage, the granularity and the bounds
of the request: neither how the device cuts its reads nor how often a read is tried again matters.
-/

namespace StorageMedia

variable {σ : Type} [Device σ]

namespace DamagedMedium

variable {medium : DamagedMedium σ} {options : Options} {start here size : Nat}

/-- On media whose size is known a request ends where its bytes or the media do. -/
theorem Reads.eq_add_min (reads : medium.Reads options medium.size start size here) :
    here = start + min size (medium.size - start) := by
  have first := reads.first
  have last := reads.last
  rcases reads.ended with full | ends
  · omega
  · have behind := ends.behind
    omega

open Classical in
/-- Each byte that a read gives is zero if it is lost, and that of the media otherwise. -/
theorem getElem?_image {index : Nat} (inside : start + index < here) :
    (medium.image options start here)[index]? = some
      (if medium.Loses options start here (start + index) then 0
        else medium.byteAt (start + index)) := by
  have bound : index < here - start := by omega
  rw [image, List.getElem?_map, List.getElem?_range' bound, Option.map_some, Nat.one_mul]

end DamagedMedium

namespace Handle

variable {medium : DamagedMedium σ} {geometry : Geometry} {patience : Nat} {handle : Handle σ}

open Classical in
/-- In every state of a session that tolerates errors, on a device with damage that stays, a read
into a buffer succeeds. It gives zeros for the bytes that share a block with a bad offset of the
request, with zeroing of whole blocks turned off only those from the bad offset on, and records
exactly them; it gives the bytes of the media elsewhere. On media whose size the device tells it
gives as many bytes as were asked for and lie on the media. -/
theorem damaged_read_loses_blocks {host : Host σ} {device : σ} (medium : DamagedMedium σ)
    (obeys : medium.Obeys device) (within : Operation.InSession host patience device handle)
    (tolerant : handle.options.tolerateErrors = true) (running : handle.aborted = false)
    (found : handle.geometry.result = .ok geometry) (bytes : Bytes) :
    let read := handle.readBuffer patience bytes
    ∃ count, read.outcome.result = .ok count ∧
      (geometry.mediaSize.toNat = medium.size →
        count = min bytes.size (medium.size - handle.cursor)) ∧
      read.outcome.state.cursor = handle.cursor + count ∧
      (∀ byte, read.outcome.state.errors.Covers byte ↔ handle.errors.Covers byte ∨
        medium.Loses handle.options handle.cursor (handle.cursor + count) byte) ∧
      ∀ index < count, read.buffer.toList[index]? = some
        (if medium.Loses handle.options handle.cursor (handle.cursor + count)
            (handle.cursor + index) then 0
          else medium.byteAt (handle.cursor + index)) := by
  intro read
  have surveys : handle.Surveys medium geometry :=
    ⟨within.tracks obeys, found, tolerant, running, within.recorded.separated⟩
  obtain ⟨count, succeeded, moved, around⟩ := surveys.readBuffer patience bytes
  have reads := around.reads
  have errors := around.errors
  have data := around.data
  rw [moved] at reads errors data
  refine ⟨count, succeeded, fun told => ?_, moved, errors, fun index front => ?_⟩
  · rw [told] at reads
    exact Nat.add_left_cancel reads.eq_add_min
  · have given := congrArg (·[index]?) data
    simp only [List.getElem?_take, if_pos front] at given
    rw [given, DamagedMedium.getElem?_image (Nat.add_lt_add_left front _)]

/-- A read of a scratched device from the middle of a block up to the end loses two blocks, the
first of them cut where the read begins. -/
theorem scratched_read_loses_blocks :
    let read := scratchedHandle.readBuffer 0 (.replicate 20 0x77)
    let medium := ScriptedDevice.damagedMedium .scratched ScriptedDevice.hasDamage_scratched
    read.outcome.result = .ok 11 ∧ read.outcome.state.errors = ⟨[⟨2, 4⟩]⟩ ∧
      (read.buffer.toList.take 11 = [1, 0, 0, 0, 0, 6, 7, 8, 9, 10, 11]) ∧
      ∀ byte, read.outcome.state.errors.Covers byte ↔
        scratchedHandle.errors.Covers byte ∨
          medium.Loses scratchedHandle.options scratchedHandle.cursor
            (scratchedHandle.cursor + 11) byte := by
  obtain ⟨geometry, found⟩ : ∃ geometry, scratchedHandle.geometry.result = .ok geometry :=
    ⟨_, rfl⟩
  obtain ⟨count, succeeded, _, _, errors, _⟩ := damaged_read_loses_blocks
    (ScriptedDevice.damagedMedium .scratched ScriptedDevice.hasDamage_scratched)
    ScriptedDevice.isMoved_scratched inSession_scratchedHandle rfl rfl found (.replicate 20 0x77)
  have given : (scratchedHandle.readBuffer 0 (.replicate 20 0x77)).outcome.result = .ok 11 := by
    decide
  obtain rfl : 11 = count := Result.ok.inj (given.symm.trans succeeded)
  exact ⟨given, by decide, by decide, errors⟩

end Handle

end StorageMedia
