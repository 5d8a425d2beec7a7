import StorageMedia.Proofs.Handle.Accounting
import StorageMedia.Proofs.Handle.Filling
import StorageMedia.Proofs.Transfer.Blocks

/-! # Which blocks a read may lose

On any device, a read that succeeds loses a byte only if one of its own device reads failed in the
block of the byte; blocks in which none failed come back as the device left them in the buffer and
are not recorded.

With options that zero whole blocks the ranges that a read records start with a block of the media,
but for one that the read itself starts inside of: the bytes in front of the read are not its to
zero. A read is shown that begins in the middle of a bad block and records a range that starts
there.
-/

namespace StorageMedia

variable {σ : Type} [Device σ] {host : Host σ} {patience : Nat} {handle : Handle σ}
  {operation : Operation σ} {start : Nat}

namespace Handle

/-- The ranges that a read lost: each of their bytes is there for a read that failed in its block,
and when whole blocks are zeroed each range starts with a block or where the read does. -/
structure Loses (options : Options) (start : Nat) (events : List (Event σ)) (lost : ErrorRanges) :
    Prop where
  separated : lost.IsSeparated
  condemned : ∀ byte, lost.Covers byte → options.Condemns events byte
  aligned : options.zeroOnError = true →
    ∀ offset, lost.StartsAt offset → options.errorGranularity ∣ offset ∨ offset = start

/-- A read into a buffer that succeeds delivers what its device reads left in the buffer, but for
what it loses to failed blocks. -/
theorem readBuffer_loses {bytes : Bytes} {count : Nat}
    (succeeded : (handle.readBuffer patience bytes).outcome.result = .ok count) :
    ∃ lost, ReadsFrom
        (Event.leftIn handle.cursor bytes (handle.readBuffer patience bytes).outcome.events)
        handle.cursor handle (handle.readBuffer patience bytes).outcome.state
        (handle.readBuffer patience bytes).outcome.events lost
        ((handle.readBuffer patience bytes).buffer.toList.take count) ∧
      Loses handle.options handle.cursor (handle.readBuffer patience bytes).outcome.events
        lost := by
  have reads := readBuffer_readsTo patience handle bytes
  generalize handle.readBuffer patience bytes = read at reads succeeded ⊢
  cases reads with
  | closed => simp [Outcome.refuse] at succeeded
  | unmeasured => simp at succeeded
  | @outside session =>
    obtain rfl : 0 = count := by simpa using succeeded
    refine ⟨{}, readsFrom_outside _ _ session, ErrorRanges.isSeparated_empty, ?_, ?_⟩
    · exact fun byte covered => absurd covered (ErrorRanges.not_covers_empty byte)
    · rintro _ offset ⟨_, member, _⟩
      exact absurd member List.not_mem_nil
  | @transferred session geometry size transfer opened found clamped positive runs =>
    obtain ⟨transfer, result⟩ := transfer
    obtain rfl : result = .ok count := succeeded
    have fits := clamped_fits clamped positive
    have spares := Transfer.read_spares handle.options patience session.geometry.state
      (handle.resume session.geometry).aborted handle.cursor (bytes.take size) fits
    have accounted := Transfer.read_accounted handle.options patience session.geometry.state
      (handle.resume session.geometry).aborted handle.cursor (bytes.take size) fits
    have aligned (whole : handle.options.zeroOnError = true) :=
      Transfer.read_aligned whole patience session.geometry.state
        (handle.resume session.geometry).aborted handle.cursor (bytes.take size)
    have filled := Transfer.size_read handle.options patience session.geometry.state
      (handle.resume session.geometry).aborted handle.cursor (bytes.take size)
    obtain ⟨done, few⟩ := Transfer.read_done (congrArg Prod.snd runs)
    rw [runs] at spares accounted filled done
    simp only [runs] at aligned
    have taken := (clamped_bounds clamped positive).1
    rw [taken] at filled few
    have faithful := (spares.faithful accounted).congr fun index inside =>
      Event.leftIn_take session.geometry_inquires (Nat.lt_of_lt_of_le inside (done ▸ few))
    obtain ⟨_, readsFrom⟩ := readsFrom_transferred faithful runs
    have front : (transfer.buffer.bytes ++ bytes.drop size).toList.take count =
        transfer.buffer.bytes.toList.take count := by
      rw [Bytes.toList_append, List.take_append_of_le_length]
      rw [Bytes.length_toList, filled]
      exact few
    rw [front]
    refine ⟨transfer.skipped, readsFrom, faithful.separated, fun byte covered => ?_, aligned⟩
    refine (spares.condemned byte covered).mono fun event member => ?_
    exact List.mem_append_right _ (List.mem_reverse.mpr member)

/-- A read into a buffer that fails records nothing, and one that succeeds what it lost. -/
theorem errors_readBuffer (patience : Nat) (handle : Handle σ) (bytes : Bytes) :
    (handle.readBuffer patience bytes).outcome.state.errors = handle.errors ∨
      ∃ lost, (handle.readBuffer patience bytes).outcome.state.errors = handle.errors.merge lost ∧
        Loses handle.options handle.cursor (handle.readBuffer patience bytes).outcome.events
          lost := by
  by_cases succeeded : ∃ count, (handle.readBuffer patience bytes).outcome.result = .ok count
  · obtain ⟨count, succeeded⟩ := succeeded
    obtain ⟨lost, readsFrom, loses⟩ := readBuffer_loses succeeded
    exact .inr ⟨lost, readsFrom.recorded, loses⟩
  · have failed : ∀ count, (ReadCall.read patience ⟨handle, bytes⟩).outcome.result ≠ .ok count :=
      not_exists.mp succeeded
    exact .inl (ReadCall.errors_of_failed failed)

end Handle

namespace Operation

open Handle

/-- A read that succeeds delivers what its device reads left in its buffer, but for what it loses to
failed blocks. -/
theorem read_loses {value : Value} (reads : operation.readStart? handle = some start)
    (succeeded : (operation.apply host patience handle).outcome.result = .ok value) :
    ∃ data lost, (operation.apply host patience handle).Returns data ∧
      ReadsFrom (Event.leftIn start (operation.unfilled handle)
          (operation.apply host patience handle).outcome.events) start handle
        (operation.apply host patience handle).outcome.state
        (operation.apply host patience handle).outcome.events lost data ∧
      Loses handle.options start (operation.apply host patience handle).outcome.events lost := by
  rcases operation.reads_fill host patience reads with ⟨cause, refused⟩ | fills
  · simp [refused, Outcome.refuse] at succeeded
  · obtain ⟨count, filled, returns⟩ := fills.returns value succeeded
    obtain ⟨lost, readsFrom, loses⟩ := readBuffer_loses filled
    rw [fills.state, fills.events]
    exact ⟨_, lost, returns, readsFrom.of_errors rfl, loses⟩

/-- On any device a read that succeeds gives up a byte only for one of its own device reads, which
failed in the block of the byte and, unless the options zero whole blocks, not behind the byte. What
it returns of a block in which none of its device reads failed is what these left in its buffer, and
nothing of the block is recorded that was not before. -/
theorem losses_lie_in_failed_blocks (reached : Reachable host patience handle) {value : Value}
    (reads : operation.readStart? handle = some start)
    (succeeded : (operation.apply host patience handle).outcome.result = .ok value) :
    let response := operation.apply host patience handle
    let left := Event.leftIn start (operation.unfilled handle) response.outcome.events
    ∃ data lost, response.Returns data ∧
      ReadsFrom left start handle response.outcome.state response.outcome.events lost data ∧
      (∀ byte, lost.Covers byte → ∃ position,
        (∃ event ∈ response.outcome.events, event.FailsAt position) ∧
        position / handle.options.errorGranularity = byte / handle.options.errorGranularity ∧
        (handle.options.zeroOnError = true ∨ position ≤ byte)) ∧
      ∀ byte, (∀ position, (∃ event ∈ response.outcome.events, event.FailsAt position) →
          position / handle.options.errorGranularity ≠ byte / handle.options.errorGranularity) →
        (∀ index < data.length, start + index = byte → data[index]? = some (left byte)) ∧
        (response.outcome.state.errors.Covers byte ↔ handle.errors.Covers byte) := by
  obtain ⟨data, lost, returns, readsFrom, loses⟩ := read_loses reads succeeded
  refine ⟨data, lost, returns, readsFrom, loses.condemned, fun byte good => ?_⟩
  have kept : ¬ lost.Covers byte := by
    intro covered
    obtain ⟨position, failed, same, _⟩ := loses.condemned byte covered
    exact good position failed same
  constructor
  · rintro index inside rfl
    exact readsFrom.delivers.read index inside kept
  · rw [readsFrom.recorded, ErrorRanges.covers_merge reached.recorded.separated loses.separated]
    exact or_iff_left kept

/-- Of the four blocks that are read the two in the middle are lost, each for a read that failed in
it. -/
theorem damaged_losses_lie_in_failed_blocks :
    let handle := tolerantHandle.startSession "drive" ScriptedDevice.damaged
    let response := apply Host.empty 0 handle (.readBuffer (.replicate 8 0x77))
    response.outcome.result = .ok (.count 8) ∧ response.outcome.state.errors = ⟨[⟨2, 4⟩]⟩ ∧
      ∃ data, ∃ lost : ErrorRanges, response.Returns data ∧
        ∀ byte, lost.Covers byte → handle.options.Condemns response.outcome.events byte := by
  have reached : Reachable Host.empty 0 (tolerantHandle.startSession "drive" .damaged) :=
    .step (.openDevice "drive" ScriptedDevice.damaged) (.fresh _) (by rintro ⟨⟩)
  have reads : (Operation.readBuffer (.replicate 8 0x77)).readStart?
      (tolerantHandle.startSession "drive" ScriptedDevice.damaged) = some 0 := rfl
  obtain ⟨data, lost, returns, _, condemned, _⟩ := losses_lie_in_failed_blocks reached reads rfl
  exact ⟨rfl, by decide, data, lost, returns, condemned⟩

/-- With options that zero whole blocks each range that a read loses starts with a block, or where
the read itself starts. In the list of the handle, where it is joined with ranges that it touches,
each range starts so or where one did before the read. -/
theorem recorded_ranges_start_with_blocks (host : Host σ) (patience : Nat)
    (reads : operation.readStart? handle = some start)
    (whole : handle.options.zeroOnError = true) :
    let response := operation.apply host patience handle
    (∀ value, response.outcome.result = .ok value → ∃ lost : ErrorRanges, lost.IsSeparated ∧
      (∀ byte, lost.Covers byte ↔ ∃ event ∈ response.outcome.events, event.GivesUp byte) ∧
      response.outcome.state.errors = handle.errors.merge lost ∧
      ∀ range ∈ lost.toList,
        handle.options.errorGranularity ∣ range.offset ∨ range.offset = start) ∧
    ∀ range ∈ response.outcome.state.errors.toList,
      handle.options.errorGranularity ∣ range.offset ∨ range.offset = start ∨
        ∃ before ∈ handle.errors.toList, before.offset = range.offset := by
  constructor
  · intro value succeeded
    obtain ⟨_, lost, _, readsFrom, loses⟩ := read_loses reads succeeded
    exact ⟨lost, loses.separated, readsFrom.reported, readsFrom.recorded,
      fun range member => loses.aligned whole range.offset ⟨range, member, rfl⟩⟩
  · intro range member
    rcases operation.reads_fill host patience reads with ⟨cause, refused⟩ | fills
    · rw [refused] at member
      exact .inr (.inr ⟨range, member, rfl⟩)
    · rw [fills.state] at member
      rcases errors_readBuffer patience { handle with cursor := start }
        (operation.unfilled handle) with same | ⟨lost, merged, loses⟩
      · rw [same] at member
        exact .inr (.inr ⟨range, member, rfl⟩)
      · rw [merged] at member
        rcases ErrorRanges.startsAt_of_merge ⟨range, member, rfl⟩ with before | new
        · exact .inr (.inr before)
        · exact (loses.aligned whole range.offset new).imp_right .inl

end Operation

/-- Eight bytes of which the third cannot be read. -/
def ScriptedDevice.pitted : ScriptedDevice where
  content := .pattern 8
  surface := [{ start := 2, stop := 3, code := 5 }]
  mediaSize := .ok (some 8)
  seekEnd := .ok 8

namespace Operation

/-- A handle that gives up whole blocks of four bytes and stands at the second byte of the first
one. -/
def offsetHandle : Handle ScriptedDevice :=
  { (Handle.withOptions { tolerateErrors := true, errorGranularity := 4, zeroOnError := true }
      ).startSession "drive" .pitted with cursor := 1 }

theorem reachable_offsetHandle : Reachable Host.empty 0 offsetHandle := by
  have opened : Reachable Host.empty 0 ((Handle.withOptions
      { tolerateErrors := true, errorGranularity := 4, zeroOnError := true }).startSession "drive"
        ScriptedDevice.pitted) :=
    .step (.openDevice "drive" ScriptedDevice.pitted) (.fresh _) (by rintro ⟨⟩)
  exact opened.step (.seek 1 .start) (by rintro ⟨⟩)

theorem errors_offsetHandle :
    (apply Host.empty 0 offsetHandle (.readBuffer (.replicate 7 0))).outcome.state.errors =
      ⟨[⟨1, 3⟩]⟩ := by
  decide

/-- A read from the second byte of a bad block on records a range that starts there. -/
theorem recorded_range_starts_inside_block :
    let response := apply Host.empty 0 offsetHandle (.readBuffer (.replicate 7 0))
    Reachable Host.empty 0 offsetHandle ∧ offsetHandle.options.tolerateErrors = true ∧
      offsetHandle.options.zeroOnError = true ∧ 0 < offsetHandle.options.errorGranularity ∧
      offsetHandle.errors = {} ∧ response.outcome.result = .ok (.count 7) ∧
      ¬ ∀ range ∈ response.outcome.state.errors.toList,
        offsetHandle.options.errorGranularity ∣ range.offset := by
  refine ⟨reachable_offsetHandle, rfl, rfl, by decide, rfl, rfl, fun all => ?_⟩
  rw [errors_offsetHandle] at all
  exact absurd (all ⟨1, 3⟩ List.mem_cons_self) (by decide)

/-- The range starts where the read does. -/
theorem recorded_range_starts_with_read :
    let response := apply Host.empty 0 offsetHandle (.readBuffer (.replicate 7 0))
    response.outcome.state.errors = ⟨[⟨1, 3⟩]⟩ ∧
      ∀ range ∈ response.outcome.state.errors.toList, 4 ∣ range.offset ∨ range.offset = 1 := by
  have reads : (Operation.readBuffer (.replicate 7 0)).readStart? offsetHandle = some 1 := rfl
  obtain ⟨_, starts⟩ := recorded_ranges_start_with_blocks Host.empty 0 reads rfl
  refine ⟨errors_offsetHandle, fun range member => ?_⟩
  rcases starts range member with block | read | ⟨before, earlier, _⟩
  · exact .inl block
  · exact .inr read
  · exact absurd earlier List.not_mem_nil

end Operation

end StorageMedia
