import StorageMedia.Proofs.Transfer.Losses

/-! # Blocks that a transfer gives up

Every byte that a transfer gives up shares its block with an offset at which one of the device reads
of the same transfer failed, and every other byte is what the reads of the transfer left there. With
options that zero whole blocks a range that is given up starts with a block, unless that begins
before the transfer does. The device obeys no law: what it wrote is taken from the calls that the
events of the transfer show.
-/

namespace StorageMedia

variable {σ : Type}

namespace Event

/-- A device read at the offset failed in a way that it may be tried again, and was not merely
interrupted. -/
def FailsAt (position : Nat) : Event σ → Prop
  | read _ offset _ (.error error) =>
    offset = position ∧ error.isInterrupted = false ∧ error.isRetryable = true
  | _ => False

variable [Device σ]

/-- The byte that the event wrote at an offset of the media. A device read writes from its own
offset on, whatever it reports. -/
def stored? (offset : Nat) : Event σ → Option UInt8
  | read device position capacity _ =>
    if position ≤ offset then
      ((Device.read device capacity).stored.toList.take capacity)[offset - position]?
    else none
  | _ => none

/-- The byte at an offset of the media in a buffer that begins at `start`, after events that wrote
to it. -/
def leftAt (start : Nat) (bytes : Bytes) (events : List (Event σ)) (offset : Nat) : Option UInt8 :=
  events.foldl (fun before event => (event.stored? offset).or before) bytes.toList[offset - start]?

/-- The byte at an offset of the media that events left in a buffer. -/
def leftIn (start : Nat) (bytes : Bytes) (events : List (Event σ)) (offset : Nat) : UInt8 :=
  (leftAt start bytes events offset).getD 0

variable {start offset : Nat} {bytes : Bytes} {event : Event σ} {events others : List (Event σ)}

theorem leftAt_concat : leftAt start bytes (events ++ [event]) offset =
    (event.stored? offset).or (leftAt start bytes events offset) := by
  rw [leftAt, List.foldl_append]
  rfl

/-- Events that write nothing leave all bytes alone. -/
theorem leftAt_append_of_quiet (quiet : ∀ event ∈ others, event.stored? offset = none) :
    leftAt start bytes (events ++ others) offset = leftAt start bytes events offset := by
  induction others generalizing events with
  | nil => rw [List.append_nil]
  | cons event others ih =>
    rw [List.forall_mem_cons] at quiet
    rw [List.append_cons, ih quiet.2, leftAt_concat, quiet.1, Option.none_or]

/-- Notices write nothing. -/
theorem stored?_of_mem_notice (fact : Notice) :
    ∀ event ∈ [(notice fact : Event σ)], ∀ offset, event.stored? offset = none := by
  intro event member offset
  obtain rfl := List.mem_singleton.mp member
  rfl

/-- Questions write nothing. -/
theorem stored?_of_isInquiry (inquiry : event.isInquiry = true) : event.stored? offset = none := by
  cases event with
  | read => simp [isInquiry] at inquiry
  | _ => rfl

theorem leftAt_of_inquiries (quiet : ∀ event ∈ events, event.isInquiry = true) :
    leftAt start bytes (events ++ others) offset = leftAt start bytes others offset := by
  have nothing : leftAt start bytes events offset = bytes.toList[offset - start]? := by
    rw [← List.nil_append events]
    exact leftAt_append_of_quiet fun event member => stored?_of_isInquiry (quiet event member)
  rw [leftAt, List.foldl_append, ← leftAt, nothing]
  rfl

/-- Neither questions that come first nor bytes behind its front matter to the front of a buffer. -/
theorem leftIn_take {size index : Nat} (quiet : ∀ event ∈ events, event.isInquiry = true)
    (inside : index < size) :
    leftIn start bytes (events ++ others) (start + index) =
      leftIn start (bytes.take size) others (start + index) := by
  rw [leftIn, leftIn, leftAt_of_inquiries quiet, leftAt, leftAt, Nat.add_sub_cancel_left,
    Bytes.toList_take, List.getElem?_take, if_pos inside]

end Event

namespace Options

/-- The options allow a byte to be given up for one of the reads that the events show: it failed in
the block of the byte and, unless whole blocks are zeroed, not behind the byte. -/
def Condemns (options : Options) (events : List (Event σ)) (byte : Nat) : Prop :=
  ∃ position, (∃ event ∈ events, event.FailsAt position) ∧ options.SameBlock position byte ∧
    (options.zeroOnError = true ∨ position ≤ byte)

theorem Condemns.mono {options : Options} {events others : List (Event σ)} {byte : Nat}
    (condemned : options.Condemns events byte) (subset : events ⊆ others) :
    options.Condemns others byte := by
  obtain ⟨position, ⟨event, member, failed⟩, rest⟩ := condemned
  exact ⟨position, ⟨event, subset member, failed⟩, rest⟩

/-- What is lost at an offset starts with its block, unless the request starts inside of that. -/
theorem dvd_loss_start {options : Options} (whole : options.zeroOnError = true)
    (start stop position : Nat) :
    options.errorGranularity ∣ (options.loss start stop position).start ∨
      (options.loss start stop position).start = start := by
  simp only [loss, whole, if_true]
  split
  · exact .inr (Nat.max_self start)
  · rcases Nat.le_total (position / options.errorGranularity * options.errorGranularity) start with
      cut | inside
    · exact .inr (Nat.max_eq_right cut)
    · rw [Nat.max_eq_left inside]
      exact .inl (Nat.dvd_mul_left _ _)

end Options

/-- Stored bytes replace those of the free part as far as they go. -/
theorem Buffer.getElem?_store (buffer : Buffer) (bytes : Bytes) (ahead : Nat) :
    (buffer.store bytes).bytes.toList[buffer.done + ahead]? =
      (bytes.toList.take buffer.free)[ahead]?.or buffer.bytes.toList[buffer.done + ahead]? := by
  rcases Nat.lt_or_ge ahead (bytes.toList.take buffer.free).length with written | beyond
  · have there := written
    rw [List.length_take, Bytes.length_toList] at there
    rw [buffer.getElem?_store_add (by omega) (by omega), List.getElem?_eq_getElem written,
      Option.some_or, ← List.getElem?_eq_getElem written, List.getElem?_take, if_pos (by omega)]
  · have length := buffer.length_bytes
    rw [List.getElem?_eq_none beyond, Option.none_or, bytes_store]
    simp only [List.length_take, Bytes.length_toList] at beyond length ⊢
    have front : (buffer.bytes.toList.take buffer.done ++ bytes.toList.take buffer.free).length =
        buffer.done + min buffer.free bytes.size := by
      simp only [List.length_append, List.length_take, Bytes.length_toList]
      omega
    rw [List.getElem?_append_right (by omega), front, List.getElem?_drop]
    rcases Nat.le_total bytes.size buffer.free with fits | cut
    · congr 1
      omega
    · rw [List.getElem?_eq_none (by rw [Bytes.length_toList]; omega),
        List.getElem?_eq_none (by rw [Bytes.length_toList]; omega)]

namespace Transfer

variable {options : Options} {start stop : Nat} {bytes : Bytes} {transfer : Transfer σ}

/-- The transfer gives up no byte but for a read that failed in its block. All other bytes of its
buffer are what its reads left there. -/
structure Spares [Device σ] (options : Options) (start : Nat) (bytes : Bytes)
    (transfer : Transfer σ) : Prop where
  condemned : ∀ byte, transfer.skipped.Covers byte → options.Condemns transfer.events byte
  untouched : ∀ index, ¬ transfer.skipped.Covers (start + index) →
    transfer.buffer.bytes.toList[index]? =
      Event.leftAt start bytes transfer.events.reverse (start + index)

namespace Spares

variable [Device σ]

theorem begins (options : Options) (session : Session σ) (aborted : Bool) (start : Nat)
    (bytes : Bytes) :
    Spares options start bytes { session, aborted, buffer := .ofBytes bytes } where
  condemned byte covered := absurd covered (ErrorRanges.not_covers_empty byte)
  untouched index _ := by
    rw [Buffer.bytes_ofBytes, List.reverse_nil, Event.leftAt, List.foldl_nil,
      Nat.add_sub_cancel_left]

/-- Events that write nothing leave everything as it is. -/
theorem append (spares : transfer.Spares options start bytes) {next : Transfer σ}
    {others : List (Event σ)} (quiet : ∀ event ∈ others, ∀ offset, event.stored? offset = none)
    (events : next.events = others ++ transfer.events) (buffer : next.buffer = transfer.buffer)
    (skipped : next.skipped = transfer.skipped) : next.Spares options start bytes where
  condemned byte covered := by
    rw [skipped] at covered
    rw [events]
    exact (spares.condemned byte covered).mono (List.subset_append_right ..)
  untouched index uncovered := by
    rw [skipped] at uncovered
    rw [buffer, events, List.reverse_append, Event.leftAt_append_of_quiet]
    · exact spares.untouched index uncovered
    · exact fun event member => quiet event (List.mem_reverse.mp member) _

theorem brought (spares : transfer.Spares options start bytes) :
    (transfer.brought start).Spares options start bytes := by
  refine spares.append (fun event member offset => ?_) rfl rfl rfl
  obtain rfl := Session.eq_seek_of_mem_moveTo (List.mem_reverse.mp member)
  rfl

/-- A device read writes to the free part of the buffer, and its event shows what. -/
theorem fetched (spares : transfer.Spares options start bytes) :
    (transfer.fetched start).Spares options start bytes where
  condemned byte covered := (spares.brought.condemned byte covered).mono (List.subset_cons_self ..)
  untouched index uncovered := by
    have before := spares.brought.untouched index uncovered
    simp only [Transfer.fetched, readDevice, List.reverse_cons, Event.leftAt_concat, Event.stored?,
      buffer_brought] at before ⊢
    rw [← before]
    rcases Nat.lt_or_ge index transfer.buffer.done with done | behind
    · rw [if_neg (by omega), Option.none_or, transfer.buffer.getElem?_store_of_lt done]
    · obtain ⟨ahead, rfl⟩ := Nat.exists_eq_add_of_le behind
      rw [if_pos (by omega), transfer.buffer.getElem?_store, ← Nat.add_assoc,
        Nat.add_sub_cancel_left]

private theorem failsAt_fetched {error : IoError}
    (fetches : transfer.Fetches start (.error error)) (counted : error.isInterrupted = false)
    (retryable : error.isRetryable = true) :
    ∃ event ∈ (transfer.fetched start).events,
      event.FailsAt (start + (transfer.fetched start).buffer.done) := by
  refine ⟨.read (transfer.brought start).session.device (start + transfer.buffer.done)
    transfer.buffer.free (.error error), ?_, rfl, counted, retryable⟩
  rw [← fetches.reported]
  exact List.mem_cons_self

/-- A block may be given up when a read failed in it. -/
theorem giveUp (spares : transfer.Spares options start bytes)
    (spans : transfer.Spans start stop) (room : 0 < transfer.buffer.free) (fits : stop ≤ maxOffset)
    (separated : transfer.skipped.IsSeparated)
    (failed : ∃ event ∈ transfer.events, event.FailsAt (start + transfer.buffer.done)) :
    (transfer.giveUp options start).Spares options start bytes where
  condemned byte covered := by
    have condemned : options.Condemns transfer.events byte := by
      rcases (covers_giveUp options spans room fits separated byte).mp covered with before | lost
      · exact spares.condemned byte before
      · obtain ⟨_, _, same, mode⟩ :=
          (Options.inside_loss_iff (Nat.le_add_right start transfer.buffer.done) fits).mp lost
        exact ⟨_, failed, same, mode⟩
    exact condemned.mono (List.subset_cons_self ..)
  untouched index uncovered := by
    rw [covers_giveUp options spans room fits separated, not_or] at uncovered
    have before := spares.untouched index uncovered.1
    have bounds := options.loss_bounds (Nat.le_add_right start transfer.buffer.done)
      (by simp only [Spans] at spans; omega) fits
    simp only [Spans] at spans
    simp only [Transfer.giveUp, spans, List.reverse_cons, Event.leftAt_concat, Event.stored?,
      Option.none_or]
    generalize options.loss start stop (start + transfer.buffer.done) = loss at *
    rw [transfer.buffer.getElem?_zero (by omega) (by omega), if_neg (by omega), before]

/-- When a failed read is tolerated its block may be given up. -/
theorem tolerate (spares : transfer.Spares options start bytes)
    (spans : transfer.Spans start stop) (room : 0 < transfer.buffer.free) (fits : stop ≤ maxOffset)
    (separated : transfer.skipped.IsSeparated)
    (failed : ∃ event ∈ transfer.events, event.FailsAt (start + transfer.buffer.done))
    (error : IoError) : (transfer.tolerate options start error).Spares options start bytes := by
  let note : Notice := .readFailed (transfer.failures + 1) (start + transfer.buffer.done) error
  have quiet : ∀ event ∈ [(Event.notice note : Event σ)], ∀ offset, event.stored? offset = none :=
    Event.stored?_of_mem_notice note
  rcases tolerate_cases options start transfer error with ⟨_, same⟩ | ⟨_, same⟩
  · rw [same]
    refine giveUp (spares.append quiet rfl rfl rfl) spans room fits separated ?_
    exact failed.imp fun event ⟨member, fails⟩ => ⟨List.mem_cons_of_mem _ member, fails⟩
  · rw [same]
    exact spares.append quiet rfl rfl rfl

theorem step (spares : transfer.Spares options start bytes) (spans : transfer.Spans start stop)
    (fits : stop ≤ maxOffset) (separated : transfer.skipped.IsSeparated) :
    (transfer.step options start).transfer.Spares options start bytes := by
  have cases := step_stepsTo options start transfer
  generalize transfer.step options start = outcome at cases ⊢
  have fetched := spares.fetched
  have lost : (transfer.fetched start).loseTrack.Spares options start bytes :=
    ⟨fetched.condemned, fetched.untouched⟩
  cases cases with
  | full => exact spares
  | aborted => exact spares.append (Event.stored?_of_mem_notice _) rfl rfl rfl
  | astray => exact spares.brought
  | drained => exact fetched
  | overrun => exact lost
  | kept =>
    refine ⟨fetched.condemned, fun index uncovered => ?_⟩
    simp only [TransferStep.transfer, Transfer.keep, Buffer.bytes_advance]
    exact fetched.untouched index uncovered
  | interrupted => exact lost
  | tolerated fetches counted _ retryable =>
    exact lost.tolerate spans fetches.room fits separated
      (failsAt_fetched fetches counted retryable) _
  | failed => exact lost

end Spares

/-- A whole transfer spares what it need not give up. -/
theorem read_spares [Device σ] (options : Options) (patience : Nat) (session : Session σ)
    (aborted : Bool) (start : Nat) (bytes : Bytes) (fits : start + bytes.size ≤ maxOffset) :
    (read options patience session aborted start bytes).1.Spares options start bytes := by
  let Holds (transfer : Transfer σ) : Prop := transfer.Spans start (start + bytes.size) ∧
    transfer.Accounted start ∧ transfer.Spares options start bytes
  have keeps (transfer : Transfer σ) (holds : Holds transfer) :
      Holds (transfer.step options start).transfer := by
    obtain ⟨spans, ⟨byteAt, faithful⟩, spares⟩ := holds
    exact ⟨spans.step, Accounted.step ⟨byteAt, faithful⟩ spans fits,
      spares.step spans fits faithful.separated⟩
  have started : Holds { session, aborted, buffer := .ofBytes bytes } :=
    ⟨rfl, ⟨fun _ => 0, .empty _ _ _⟩, .begins options session aborted start bytes⟩
  exact (run_keeps Holds keeps _ started).2.2

/-- What the reads of a transfer left in its buffer is what it delivers, apart from zeros where it
gave up. -/
theorem Spares.faithful [Device σ] (spares : transfer.Spares options start bytes)
    (accounted : transfer.Accounted start) :
    Faithful (Event.leftIn start bytes transfer.events.reverse) start transfer.buffer
      transfer.skipped transfer.events := by
  obtain ⟨byteAt, faithful⟩ := accounted
  refine { faithful with read := fun index done uncovered => ?_ }
  have there : index < transfer.buffer.bytes.toList.length := by
    rw [transfer.buffer.length_bytes]
    omega
  rw [Event.leftIn, ← spares.untouched index uncovered, List.getElem?_eq_getElem there,
    Option.getD_some]

/-- The ranges that the transfer gave up start where blocks do or where the transfer does. -/
def Aligned (options : Options) (start : Nat) (transfer : Transfer σ) : Prop :=
  ∀ offset, transfer.skipped.StartsAt offset → options.errorGranularity ∣ offset ∨ offset = start

theorem Aligned.step [Device σ] (aligned : transfer.Aligned options start)
    (whole : options.zeroOnError = true) :
    (transfer.step options start).transfer.Aligned options start := by
  have cases := step_stepsTo options start transfer
  generalize transfer.step options start = outcome at cases ⊢
  cases cases with
  | @tolerated error =>
    intro offset starts
    rcases tolerate_cases options start (transfer.fetched start).loseTrack error with
      ⟨_, same⟩ | ⟨_, same⟩
    · simp only [TransferStep.transfer, same] at starts
      rcases ErrorRanges.startsAt_of_insert starts with rfl | before
      · exact Options.dvd_loss_start whole ..
      · exact aligned offset before
    · simp only [TransferStep.transfer, same] at starts
      exact aligned offset starts
  | _ => exact aligned

/-- The ranges that a whole transfer gives up start where blocks do or where the transfer does. -/
theorem read_aligned [Device σ] {options : Options} (whole : options.zeroOnError = true)
    (patience : Nat) (session : Session σ) (aborted : Bool) (start : Nat) (bytes : Bytes) :
    (read options patience session aborted start bytes).1.Aligned options start := by
  have started : ({ session, aborted, buffer := .ofBytes bytes } : Transfer σ).Aligned options
      start := fun offset ⟨_, member, _⟩ => absurd member List.not_mem_nil
  exact run_keeps _ (fun _ aligned => aligned.step whole) _ started

end Transfer

end StorageMedia
