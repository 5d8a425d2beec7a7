import StorageMedia.Proofs.Transfer.Delivery

/-! # How far a transfer is from its end

Every read that is not interrupted brings a transfer nearer to its end, though a failed read gives
no byte: it uses up a retry of the next byte, and giving up a block leaves fewer bytes. What is left
to a transfer is ordered by the bytes that it lacks and then by the retries that it has for the next
of them; `Transfer.triesLeft` turns this into the number of reads that it can still come to.
-/

namespace StorageMedia.Transfer

variable {σ : Type} {options : Options} {start stop : Nat} {transfer : Transfer σ}

/-- What is left to a transfer: the bytes that it lacks, and the retries for the next of them. -/
def remaining (options : Options) (transfer : Transfer σ) : Nat × Nat :=
  (transfer.buffer.free, options.errorRetries.toNat - transfer.failures)

/-- Most reads that a transfer can still come to: all tries of its missing bytes but for those that
failed already. -/
def triesLeft (options : Options) (transfer : Transfer σ) : Nat :=
  transfer.buffer.free * (options.errorRetries.toNat + 1) - transfer.failures

/-- The next byte that is missing has a try left. -/
theorem triesLeft_pos (room : 0 < transfer.buffer.free)
    (counted : transfer.failures ≤ options.errorRetries.toNat) :
    0 < transfer.triesLeft options := by
  have tries := Nat.le_mul_of_pos_left (options.errorRetries.toNat + 1) room
  simp only [triesLeft]
  omega

/-- A transfer that has less left can come to fewer reads. -/
theorem triesLeft_lt {next : Transfer σ} (room : 0 < transfer.buffer.free)
    (counted : transfer.failures ≤ options.errorRetries.toNat)
    (nearer : Prod.Lex (· < ·) (· < ·) (next.remaining options) (transfer.remaining options)) :
    next.triesLeft options < transfer.triesLeft options := by
  have left := triesLeft_pos room counted
  rcases Prod.lex_def.mp nearer with fewer | ⟨same, fewer⟩ <;>
    simp only [remaining, triesLeft] at fewer left ⊢
  · have bytes := Nat.mul_le_mul_right (options.errorRetries.toNat + 1) (Nat.succ_le_of_lt fewer)
    rw [Nat.succ_mul] at bytes
    omega
  · simp only [remaining] at same
    rw [same]
    omega

/-- The reads that a transfer can come to follow from what is left to it. -/
theorem triesLeft_of_remaining {next : Transfer σ}
    (counted : transfer.failures ≤ options.errorRetries.toNat)
    (onward : next.failures ≤ options.errorRetries.toNat)
    (still : next.remaining options = transfer.remaining options) :
    next.triesLeft options = transfer.triesLeft options := by
  obtain ⟨bytes, retries⟩ := Prod.ext_iff.mp still
  simp only [remaining] at bytes retries
  rw [triesLeft, triesLeft, bytes]
  omega

/-- After bytes were kept there are fewer left. -/
theorem remaining_keep [Device σ] {count : Nat} (fetches : transfer.Fetches start (.ok count))
    (positive : 0 < count) :
    Prod.Lex (· < ·) (· < ·)
      (((transfer.fetched start).keep (start + transfer.buffer.done) count).remaining options)
      (transfer.remaining options) := by
  have room := fetches.room
  refine .left _ _ ?_
  simp only [Transfer.keep, Buffer.advance, free_fetched]
  omega

/-- A transfer that gives up a block lacks fewer bytes. -/
theorem free_giveUp_lt (fits : stop ≤ maxOffset) (spans : transfer.Spans start stop)
    (room : 0 < transfer.buffer.free) :
    (transfer.giveUp options start).buffer.free < transfer.buffer.free := by
  have done := done_giveUp options spans room fits
  have after : (transfer.giveUp options start).Spans start stop := Spans.giveUp spans
  simp only [Spans] at spans after
  have forward := (options.loss_bounds (Nat.le_add_right start transfer.buffer.done)
    (show start + transfer.buffer.done < stop by omega) fits).2.2.1
  omega

/-- After a failed read that is tolerated there is less left, and the failures are still no more
than there are retries. -/
theorem remaining_tolerate (options : Options) (fits : stop ≤ maxOffset)
    (spans : transfer.Spans start stop) (room : 0 < transfer.buffer.free) (error : IoError) :
    Prod.Lex (· < ·) (· < ·) ((transfer.tolerate options start error).remaining options)
        (transfer.remaining options) ∧
      (transfer.tolerate options start error).failures ≤ options.errorRetries.toNat := by
  rcases tolerate_cases options start transfer error with ⟨_, given⟩ | ⟨left, noted⟩
  · rw [given]
    exact ⟨.left _ _ (free_giveUp_lt fits spans room), Nat.zero_le _⟩
  · rw [noted]
    refine ⟨.right _ ?_, left⟩
    show options.errorRetries.toNat - (transfer.failures + 1) <
      options.errorRetries.toNat - transfer.failures
    omega

end StorageMedia.Transfer
