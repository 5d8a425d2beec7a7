import StorageMedia.Proofs.Handle.Endings
import StorageMedia.Proofs.Transfer.Termination

/-! # Reads terminate

A read comes to its end on every device that does not interrupt it for ever. Whatever the device
answers, the device reads that are not interrupted are at most one try and all retries for each byte
that the read is for: every one of them ends the read or leaves fewer bytes or fewer retries.
-/

namespace StorageMedia.Handle

open Event

variable {σ : Type} [Device σ] {patience : Nat} {handle : Handle σ} {bytes : Bytes}
  {transfer : Transfer σ}

/-- A read into a buffer passes through a transfer. -/
inductive Undergoes (handle : Handle σ) (bytes : Bytes) (transfer : Transfer σ) : Prop
  | passes {session : Session σ} {geometry : Geometry} {size : Nat}
      (opened : handle.session = some session) (found : session.geometry.result = .ok geometry)
      (clamped : handle.clampedSize geometry.mediaSize bytes.size = size) (positive : 0 < size)
      (passes : Transfer.Passes handle.options handle.cursor
        { session := session.geometry.state
          aborted := (handle.resume session.geometry).aborted
          buffer := .ofBytes (bytes.take size) } transfer)

/-- A read makes at most one try and all retries for each byte on the media, and it counts its
failures in bounds. -/
theorem readBuffer_attempts (patience : Nat) (handle : Handle σ) (bytes : Bytes) :
    let read := handle.readBuffer patience bytes
    (attempts read.outcome.events).length ≤
        min bytes.size (read.outcome.state.knownSize - handle.cursor) *
          (handle.options.errorRetries.toNat + 1) ∧
      ∀ event ∈ read.outcome.events, event.Counts handle.options.errorRetries.toNat := by
  have asks (session : Session σ) : ∀ event ∈ session.geometry.events,
      event.IsAside ∧ event.Counts handle.options.errorRetries.toNat := fun event member =>
    have inquiry := session.geometry_inquires event member
    ⟨.of_isInquiry inquiry, event.counts_of_isInquiry _ inquiry⟩
  have reads := readBuffer_readsTo patience handle bytes
  generalize handle.readBuffer patience bytes = read at reads ⊢
  cases reads with
  | closed => exact ⟨Nat.zero_le _, by simp [Outcome.refuse]⟩
  | @unmeasured session | @outside session =>
    dsimp only
    rw [attempts_of_asides fun event member => (asks session event member).1]
    exact ⟨Nat.zero_le _, fun event member => (asks session event member).2⟩
  | @transferred session geometry size transfer opened found clamped positive runs =>
    have fits := clamped_fits clamped positive
    have taken := (clamped_bounds clamped positive).1
    have budgeted := Transfer.Budgeted.begins handle.options session.geometry.state
      (handle.resume session.geometry).aborted handle.cursor (bytes.take size)
    dsimp only
    rw [min_knownSize_transferred found clamped runs]
    subst runs
    constructor
    · have most := budgeted.attempts_run fits (Transfer.steps handle.options patience
        (bytes.take size).size)
      rw [(attempts_append_of_asides _ fun event member => (asks session event member).1).1,
        attempts_reverse, List.length_reverse]
      simpa [Transfer.triesLeft, Buffer.ofBytes, taken, Transfer.read, attempts] using most
    · intro event member
      rcases List.mem_append.mp member with asked | moved
      · exact (asks session event asked).2
      · exact budgeted.counts_run fits (by simp) _ event (List.mem_reverse.mp moved)

/-- Every transfer that a read passes through has a try left for its next byte and spends what its
step uses up. -/
theorem Undergoes.spends (undergoes : handle.Undergoes bytes transfer) :
    transfer.failures ≤ handle.options.errorRetries.toNat ∧
      transfer.Spends handle.options handle.cursor
        (transfer.step handle.options handle.cursor) := by
  obtain ⟨_, _, clamped, positive, passes⟩ := undergoes
  have fits := clamped_fits clamped positive
  have budgeted := ((Transfer.Budgeted.begins ..).passes fits passes).1
  exact ⟨budgeted.left, budgeted.step_spends fits⟩

/-- A read comes to its end, or it gets to where its device interrupts every read. -/
theorem readBuffer_ends_or_interrupted (handle : Handle σ) (bytes : Bytes) :
    (∃ read, read.outcome.result ≠ .pending ∧
      ∃ enough, ∀ patience, enough ≤ patience → handle.readBuffer patience bytes = read) ∨
    ∃ transfer, handle.Undergoes bytes transfer ∧
      transfer.InterruptedForever handle.options handle.cursor := by
  by_cases ends : ∃ enough, (handle.readBuffer enough bytes).outcome.result ≠ .pending
  · obtain ⟨enough, ended⟩ := ends
    refine .inl ⟨_, ended, enough, fun patience waits => ?_⟩
    obtain ⟨more, rfl⟩ := Nat.exists_eq_add_of_le waits
    exact readBuffer_add ended more
  · have pending (patience : Nat) : (handle.readBuffer patience bytes).outcome.result = .pending :=
      Classical.not_not.mp fun ended => ends ⟨patience, ended⟩
    obtain ⟨session, geometry, size, opened, found, clamped, positive, _⟩ :=
      transfer_of_pending (pending 0)
    have budgeted := Transfer.Budgeted.begins handle.options session.geometry.state
      (handle.resume session.geometry).aborted handle.cursor (bytes.take size)
    rcases budgeted.ends_or_interrupted (clamped_fits clamped positive) with
      ⟨enough, final, result, decided, runs⟩ | ⟨stuck, passes, forever⟩
    · -- A transfer that ends cannot hold up the read for ever.
      obtain ⟨_, _, _, again, measured, sized, _, waits, _⟩ := transfer_of_pending (pending enough)
      obtain rfl := Option.some.inj (opened.symm.trans again)
      obtain rfl : geometry = _ := by simpa [found] using measured
      obtain rfl := clamped.symm.trans sized
      obtain ⟨more, exact⟩ : ∃ more,
          Transfer.steps handle.options enough (bytes.take size).size = enough + more :=
        ⟨_, (Nat.add_sub_of_le (by simp only [Transfer.steps]; omega)).symm⟩
      rw [Transfer.read, exact, runs] at waits
      exact absurd waits decided
    · exact .inr ⟨stuck, .passes opened found clamped positive passes, forever⟩

/-- Reads terminate on every device that does not interrupt them for ever. Whatever the device
answers, a read makes no more device reads that are not interrupted than the bytes that it is for
have tries. Each of them ends the read or leaves fewer bytes or, of the same bytes, fewer retries,
and the failures that it counts are at most one more than there are retries. -/
theorem reads_terminate (handle : Handle σ) (bytes : Bytes) :
    let retries := handle.options.errorRetries.toNat
    (∀ patience, let read := handle.readBuffer patience bytes
      (attempts read.outcome.events).length ≤
          min bytes.size (read.outcome.state.knownSize - handle.cursor) * (retries + 1) ∧
        ∀ event ∈ read.outcome.events, event.Counts retries) ∧
    (∀ transfer, handle.Undergoes bytes transfer → transfer.failures ≤ retries ∧
      transfer.Spends handle.options handle.cursor
        (transfer.step handle.options handle.cursor)) ∧
    retries + 1 < UInt16.size ∧
    ((∃ read, read.outcome.result ≠ .pending ∧
        ∃ enough, ∀ patience, enough ≤ patience → handle.readBuffer patience bytes = read) ∨
      ∃ transfer, handle.Undergoes bytes transfer ∧
        transfer.InterruptedForever handle.options handle.cursor) := by
  refine ⟨fun patience => readBuffer_attempts patience handle bytes,
    fun transfer undergoes => undergoes.spends, ?_, readBuffer_ends_or_interrupted handle bytes⟩
  have byte := handle.options.errorRetries.toNat_lt
  simp only [UInt16.size]
  omega

/-- Where nothing can be read and every byte is a block of its own, a read makes all its tries. -/
example :
    let broken : ScriptedDevice :=
      { content := .pattern 2
        surface := [{ start := 0, stop := 2, code := 5 }]
        mediaSize := .ok (some 2)
        seekEnd := .ok 2 }
    let handle := (withOptions { tolerateErrors := true, errorRetries := 2, errorGranularity := 1 })
      |>.startSession "drive" broken
    (attempts (handle.readBuffer 0 (.replicate 4 0)).outcome.events).length = 2 * (2 + 1) := by
  decide

end StorageMedia.Handle
