import StorageMedia.Proofs.Handle.Delivery
import StorageMedia.Proofs.Transfer.Retries

/-! # Which retries a block gets before it is given up

The failures that lead a read to give up a block are those since the block before it. They are a
first try and all the retries of the offset that failed if no read among them gave bytes. Where the
failures are at several offsets, the last of these gets fewer tries than the options say: a device
is shown that recovers from one failure and then loses a block at its first.
-/

namespace StorageMedia.Handle

variable {σ : Type} [Device σ]

/-- Whenever a read gives up a block, the last reads of its device before that were a first try and
all retries of the offset that failed. -/
def GivesUpAfterRetries (patience : Nat) (handle : Handle σ) (bytes : Bytes) : Prop :=
  let events := (handle.readBuffer patience bytes).outcome.events
  ∀ index zeroed zeroStart distance,
    events[index]? = some (.notice (.skipped zeroed zeroStart distance)) →
      Attempt.OwnRetries handle.options.errorRetries.toNat (zeroStart + zeroed - distance)
        (Event.attempts (events.take index).reverse)

/-- Whenever a read gives up a block, the last read of its device failed at the offset that the
block is given up for, and exactly as many reads failed since the block before as the options allow
tries. The last of all reads were as many tries of this offset unless one of them gave bytes. -/
theorem block_given_up_when_spent (patience : Nat) (handle : Handle σ) (bytes : Bytes)
    {index zeroed zeroStart distance : Nat}
    (given : (handle.readBuffer patience bytes).outcome.events[index]? =
      some (.notice (.skipped zeroed zeroStart distance))) :
    Event.Spent handle.options.errorRetries.toNat (zeroStart + zeroed - distance)
      ((handle.readBuffer patience bytes).outcome.events.take index).reverse := by
  have asks (session : Session σ) : ∀ event ∈ session.geometry.events, event.IsAside :=
    fun event member => .of_isInquiry (session.geometry_inquires event member)
  have reads := readBuffer_readsTo patience handle bytes
  generalize handle.readBuffer patience bytes = read at reads given ⊢
  cases reads with
  | closed => simp [Outcome.refuse] at given
  | @unmeasured session | @outside session =>
    have quiet := (asks session _ (List.mem_of_getElem? given)).2
    simp [Event.isSkip] at quiet
  | @transferred session _ size transfer _ _ clamped positive runs =>
    have all := Transfer.read_allSpent handle.options patience session.geometry.state
      (handle.resume session.geometry).aborted handle.cursor (bytes.take size)
      (clamped_fits clamped positive)
    rw [runs] at all
    refine Event.AllSpent.take_reverse ?_ given
    rw [List.reverse_append, List.reverse_reverse]
    exact all.append_asides fun event member => asks session event (List.mem_reverse.mp member)

end StorageMedia.Handle

namespace StorageMedia

/-- Eight bytes, all of which can be read, though two reads fail. -/
def ScriptedDevice.patchy : ScriptedDevice where
  content := .pattern 8
  script := [{ action := .failed (.system 5) }, { action := .short 2 },
    { action := .failed (.system 5) }]
  mediaSize := .ok (some 8)
  seekEnd := .ok 8

namespace Handle

/-- A handle that allows each failed read one retry. -/
def patchyHandle : Handle ScriptedDevice :=
  (withOptions { tolerateErrors := true, errorRetries := 1, errorGranularity := 1 }).startSession
    "drive" .patchy

/-- The first read at the offset 2 fails, and its block is given up at once: the retry was used up by
the failure before it, at the offset 0, which was read after all. -/
theorem not_givesUpAfterRetries_patchy :
    patchyHandle.options.tolerateErrors = true ∧
      ¬ GivesUpAfterRetries 0 patchyHandle (.replicate 8 0x77) := by
  refine ⟨rfl, fun law => ?_⟩
  have own := law 11 1 2 1 rfl
  have last : (Event.attempts (((patchyHandle.readBuffer 0 (.replicate 8 0x77)).outcome.events.take
      11).reverse)) = [⟨2, none⟩, ⟨0, some 2⟩, ⟨0, none⟩] := by
    decide
  rw [last] at own
  have given := (own.2 ⟨0, some 2⟩ (by decide)).2
  exact absurd given (by decide)

/-- Two reads had failed when the block was given up, though only one of them at its offset. -/
theorem patchy_given_up_when_spent :
    let events := (patchyHandle.readBuffer 0 (.replicate 8 0x77)).outcome.events
    events[11]? = some (.notice (.skipped 1 2 1)) ∧
      (Event.recent (events.take 11).reverse).countP Attempt.failed = 2 ∧
      (Event.recent (events.take 11).reverse).countP (·.offset == 2) = 1 := by
  have given : (patchyHandle.readBuffer 0 (.replicate 8 0x77)).outcome.events[11]? =
      some (.notice (.skipped 1 2 1)) := rfl
  have spent := block_given_up_when_spent 0 patchyHandle (.replicate 8 0x77) given
  exact ⟨given, spent.failures, by decide⟩

end Handle

end StorageMedia
