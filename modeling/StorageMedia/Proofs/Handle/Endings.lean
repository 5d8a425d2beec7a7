import StorageMedia.Proofs.Handle.Requests
import StorageMedia.Proofs.Handle.Delivery
import StorageMedia.Proofs.Transfer.Endings

/-! # How a read ends

A read that gives fewer bytes than were asked for and lie on the media has found the end of the
data, and a read that does not come to an end was interrupted more often than it waits for. A read
at an offset is a read of the handle once it was moved there, or it is refused.
-/

namespace StorageMedia.Handle

open Event

variable {σ : Type} [Device σ] {patience : Nat} {handle : Handle σ} {bytes : Bytes}
  {geometry : Geometry} {offset count : Nat}

/-- A read that does not come to its end is held up by its transfer. -/
theorem transfer_of_pending
    (pending : (handle.readBuffer patience bytes).outcome.result = .pending) :
    ∃ session geometry size, handle.session = some session ∧
      session.geometry.result = .ok geometry ∧
      handle.clampedSize geometry.mediaSize bytes.size = size ∧ 0 < size ∧
      let read := Transfer.read handle.options patience session.geometry.state
        (handle.resume session.geometry).aborted handle.cursor (bytes.take size)
      read.2 = .pending ∧ (handle.readBuffer patience bytes).outcome.events =
        session.geometry.events ++ read.1.events.reverse := by
  have reads := readBuffer_readsTo patience handle bytes
  generalize handle.readBuffer patience bytes = read at reads pending ⊢
  cases reads with
  | closed => simp [Outcome.refuse] at pending
  | unmeasured => simp at pending
  | outside => simp at pending
  | transferred opened found clamped positive runs =>
    subst runs
    exact ⟨_, _, _, opened, found, clamped, positive, pending, rfl⟩

/-- A read that does not come to an end was interrupted more often than it waits for. -/
theorem patience_lt_of_readBuffer_pending
    (pending : (handle.readBuffer patience bytes).outcome.result = .pending) :
    patience < interruptions (handle.readBuffer patience bytes).outcome.events := by
  obtain ⟨session, _, _, _, _, clamped, positive, waits, events⟩ := transfer_of_pending pending
  have interrupted := Transfer.patience_lt_of_pending (clamped_fits clamped positive) waits
  rw [events, interruptions_append, interruptions_reverse]
  omega

/-- Waiting for more interruptions does not change a read that has come to an end. -/
theorem readBuffer_add (ended : (handle.readBuffer patience bytes).outcome.result ≠ .pending)
    (more : Nat) : handle.readBuffer (patience + more) bytes = handle.readBuffer patience bytes := by
  cases opened : handle.session with
  | none => rw [readBuffer_closed opened, readBuffer_closed opened]
  | some session =>
    cases found : session.geometry.result with
    | error | pending => simp only [readBuffer, opened, found]
    | ok geometry =>
      by_cases none : handle.clampedSize geometry.mediaSize bytes.size = 0
      · simp only [readBuffer, opened, found, clampedSize_resume, none, if_true]
      · simp only [readBuffer, opened, found, clampedSize_resume, none, if_false] at ended ⊢
        rw [Transfer.read_add ended]

/-- On media of a known geometry a read that succeeds gives what lies on the media of the bytes that
were asked for, or it found the end of the data before. -/
theorem readBuffer_short (found : handle.geometry.result = .ok geometry)
    (succeeded : (handle.readBuffer patience bytes).outcome.result = .ok count) :
    count ≤ handle.clampedSize geometry.mediaSize bytes.size ∧
      (count = handle.clampedSize geometry.mediaSize bytes.size ∨
        ∃ event ∈ (handle.readBuffer patience bytes).outcome.events,
          event.reportsEnd = true) := by
  obtain ⟨session, _, _, reads⟩ := readBuffer_readsMeasured found patience bytes
  generalize handle.readBuffer patience bytes = read at reads succeeded ⊢
  cases reads with
  | outside none =>
    obtain rfl : 0 = count := by simpa using succeeded
    exact ⟨Nat.zero_le _, .inl none.symm⟩
  | @transferred size _ clamped positive runs =>
    subst runs
    have taken := (clamped_bounds clamped positive).1
    have most := (Transfer.read_done succeeded).2
    rw [taken] at most
    rw [clamped]
    refine ⟨most, ?_⟩
    by_cases full : count = size
    · exact .inl full
    · obtain ⟨event, member, ends⟩ := Transfer.read_short succeeded (by rw [taken]; exact full)
      exact .inr ⟨event, List.mem_append_right _ (List.mem_reverse.mpr member), ends⟩

/-- A read at an offset is refused, or it is the read of the handle that was moved there. -/
theorem readBufferAt_cases (handle : Handle σ) (offset : Nat) :
    (∃ cause, ∀ patience bytes, handle.readBufferAt patience bytes offset =
      { buffer := bytes, outcome := .refuse cause handle }) ∨
    ∀ patience bytes, handle.readBufferAt patience bytes offset =
      ({ handle with cursor := offset } : Handle σ).readBuffer patience bytes := by
  by_cases reachable : offset ≤ maxSeekOffset
  · by_cases opened : handle.isOpen = true
    · refine .inr fun patience bytes => ?_
      simp only [readBufferAt, seekStart, if_pos reachable, seek_start_of_open opened reachable,
        Outcome.answer, List.nil_append]
    · refine .inl ⟨.notOpen, fun patience bytes => ?_⟩
      simp only [readBufferAt, seekStart, if_pos reachable, seek, opened, Bool.false_eq_true,
        if_false, Outcome.refuse]
  · refine .inl ⟨.invalidArgument .excessiveOffset, fun patience bytes => ?_⟩
    simp only [readBufferAt, seekStart, if_neg reachable, Outcome.refuse]

theorem patience_lt_of_readBufferAt_pending
    (pending : (handle.readBufferAt patience bytes offset).outcome.result = .pending) :
    patience < interruptions (handle.readBufferAt patience bytes offset).outcome.events := by
  rcases readBufferAt_cases handle offset with ⟨cause, refused⟩ | moved
  · simp [refused, Outcome.refuse] at pending
  · rw [moved] at pending ⊢
    exact patience_lt_of_readBuffer_pending pending

theorem readBufferAt_add
    (ended : (handle.readBufferAt patience bytes offset).outcome.result ≠ .pending) (more : Nat) :
    handle.readBufferAt (patience + more) bytes offset =
      handle.readBufferAt patience bytes offset := by
  rcases readBufferAt_cases handle offset with ⟨cause, refused⟩ | moved
  · rw [refused, refused]
  · rw [moved] at ended ⊢
    rw [moved, readBuffer_add ended]

end StorageMedia.Handle
