import StorageMedia.Proofs.ErrorRanges.Insert
import StorageMedia.Proofs.Transfer.Bounds
import StorageMedia.Proofs.Transfer.Position

/-! # What a transfer delivers

Each byte that a transfer counts as done is either one of the media, from the very offset that it
stands for, or a zero in a range that the transfer gave up. Whatever a failed read left in the
buffer lies behind these bytes and is overwritten before it is counted.
-/

namespace StorageMedia

variable {σ : Type}

namespace Buffer

variable (buffer : Buffer) {bytes : Bytes} {index back ahead : Nat}

/-- Storing bytes leaves the part that is done alone. -/
theorem getElem?_store_of_lt (done : index < buffer.done) :
    (buffer.store bytes).bytes.toList[index]? = buffer.bytes.toList[index]? := by
  have long : index < (buffer.bytes.toList.take buffer.done).length := by
    rw [List.length_take, buffer.length_bytes]
    omega
  rw [bytes_store, List.append_assoc, List.getElem?_append_left long, List.getElem?_take,
    if_pos done]

/-- Stored bytes lie at the front of the free part. -/
theorem getElem?_store_add (stored : index < bytes.size) (fits : index < buffer.free) :
    (buffer.store bytes).bytes.toList[buffer.done + index]? = bytes.toList[index]? := by
  have front : (buffer.bytes.toList.take buffer.done).length = buffer.done := by
    rw [List.length_take, buffer.length_bytes]
    omega
  have long : index < (bytes.toList.take buffer.free).length := by
    rw [List.length_take, Bytes.length_toList]
    omega
  rw [bytes_store, List.append_assoc, List.getElem?_append_right (by omega), front,
    Nat.add_sub_cancel_left, List.getElem?_append_left long, List.getElem?_take, if_pos fits]

/-- Zeroing changes nothing but the bytes around the place where the free part starts. -/
theorem getElem?_zero (before : back ≤ buffer.done) (after : ahead ≤ buffer.free) :
    (buffer.zero back ahead).bytes.toList[index]? =
      if buffer.done - back ≤ index ∧ index < buffer.done + ahead then some 0
      else buffer.bytes.toList[index]? := by
  have front : (buffer.bytes.toList.take (buffer.done - back)).length = buffer.done - back := by
    rw [List.length_take, buffer.length_bytes]
    omega
  rw [bytes_zero _ before after, List.append_assoc]
  rcases Nat.lt_or_ge index (buffer.done - back) with ahead | behind
  · rw [List.getElem?_append_left (by omega), List.getElem?_take, if_pos ahead, if_neg (by omega)]
  rw [List.getElem?_append_right (by omega), front]
  rcases Nat.lt_or_ge index (buffer.done + ahead) with zeroed | rest
  · rw [List.getElem?_append_left (by rw [List.length_replicate]; omega),
      List.getElem?_replicate, if_pos (by omega), if_pos ⟨behind, zeroed⟩]
  · rw [List.getElem?_append_right (by rw [List.length_replicate]; omega),
      List.length_replicate, List.getElem?_drop, if_neg (by omega)]
    congr 1
    omega

end Buffer

/-- The event tells that a byte of the media was given up. -/
def Event.GivesUp (byte : Nat) : Event σ → Prop
  | notice (.skipped zeroed zeroStart _) => zeroStart ≤ byte ∧ byte < zeroStart + zeroed
  | _ => False

theorem Event.not_givesUp_of_isInquiry {event : Event σ} (inquiry : event.isInquiry = true)
    (byte : Nat) : ¬ event.GivesUp byte := by
  cases event with
  | notice fact => cases fact <;> simp_all [isInquiry, Notice.isOfTransfer, GivesUp]
  | _ => exact id

/-- What is lost lies inside the request and holds the offset that cannot be read. -/
theorem Options.loss_bounds (options : Options) {start stop position : Nat}
    (first : start ≤ position) (last : position < stop) (fits : stop ≤ maxOffset) :
    start ≤ (options.loss start stop position).start ∧
      (options.loss start stop position).start ≤ position ∧
      position < (options.loss start stop position).stop ∧
      (options.loss start stop position).stop ≤ stop := by
  simp only [loss, rangeEnd]
  rcases Nat.eq_zero_or_pos options.errorGranularity with whole | positive
  · simp only [whole, if_true]
    split <;> omega
  · have low := Nat.div_mul_le_self position options.errorGranularity
    have high : position <
        position / options.errorGranularity * options.errorGranularity + options.errorGranularity :=
      Nat.lt_div_mul_add positive
    simp only [Nat.ne_of_gt positive, if_false]
    split <;> omega

namespace Transfer

section GiveUp

variable (options : Options) {start stop : Nat} {transfer : Transfer σ}
  (spans : transfer.Spans start stop) (room : 0 < transfer.buffer.free) (fits : stop ≤ maxOffset)

include spans room fits

private theorem lossBounds :
    start ≤ (options.loss start stop (start + transfer.buffer.done)).start ∧
      (options.loss start stop (start + transfer.buffer.done)).start ≤
        start + transfer.buffer.done ∧
      start + transfer.buffer.done <
        (options.loss start stop (start + transfer.buffer.done)).stop ∧
      (options.loss start stop (start + transfer.buffer.done)).stop ≤ stop := by
  simp only [Spans] at spans
  exact options.loss_bounds (Nat.le_add_right start transfer.buffer.done) (by omega) fits

/-- A transfer goes on behind the block that it gives up. -/
theorem done_giveUp :
    start + (transfer.giveUp options start).buffer.done =
      (options.loss start stop (start + transfer.buffer.done)).stop := by
  have bounds := lossBounds options spans room fits
  simp only [Spans] at spans
  simp only [giveUp, spans, Buffer.zero]
  omega

/-- The block that a transfer gives up is recorded. -/
theorem covers_giveUp (separated : transfer.skipped.IsSeparated) (byte : Nat) :
    (transfer.giveUp options start).skipped.Covers byte ↔
      transfer.skipped.Covers byte ∨
        ((options.loss start stop (start + transfer.buffer.done)).start ≤ byte ∧
          byte < (options.loss start stop (start + transfer.buffer.done)).stop) := by
  have bounds := lossBounds options spans room fits
  simp only [Spans] at spans
  simp only [giveUp, spans]
  rw [ErrorRanges.covers_insert separated (by omega), Nat.add_sub_cancel' (by omega)]

end GiveUp

/-- The part of a buffer that is done holds bytes of the media and zeros in ranges that were given
up. -/
structure Faithful (byteAt : Nat → UInt8) (start : Nat) (buffer : Buffer) (skipped : ErrorRanges)
    (events : List (Event σ)) : Prop where
  separated : skipped.IsSeparated
  inside : ∀ byte, skipped.Covers byte → start ≤ byte ∧ byte < start + buffer.done
  reported : ∀ byte, skipped.Covers byte ↔ ∃ event ∈ events, event.GivesUp byte
  zeroed : ∀ index < buffer.done, skipped.Covers (start + index) →
    buffer.bytes.toList[index]? = some 0
  read : ∀ index < buffer.done, ¬ skipped.Covers (start + index) →
    buffer.bytes.toList[index]? = some (byteAt (start + index))

namespace Faithful

variable {byteAt : Nat → UInt8} {start stop : Nat} {buffer : Buffer} {skipped : ErrorRanges}
  {events : List (Event σ)} {options : Options} {transfer : Transfer σ}

theorem empty (byteAt : Nat → UInt8) (start : Nat) (bytes : Bytes) :
    Faithful byteAt start (.ofBytes bytes) {} ([] : List (Event σ)) where
  separated := ErrorRanges.isSeparated_empty
  inside := by simp [ErrorRanges.Covers]
  reported := by simp [ErrorRanges.Covers]
  zeroed := by simp [Buffer.ofBytes]
  read := by simp [Buffer.ofBytes]

/-- Events that give up nothing tell nothing new. -/
theorem append (faithful : Faithful byteAt start buffer skipped events) (others : List (Event σ))
    (quiet : ∀ event ∈ others, ∀ byte, ¬ event.GivesUp byte) :
    Faithful byteAt start buffer skipped (others ++ events) where
  separated := faithful.separated
  inside := faithful.inside
  reported byte := by
    rw [faithful.reported byte]
    constructor
    · rintro ⟨event, member, givesUp⟩
      exact ⟨event, List.mem_append_right _ member, givesUp⟩
    · rintro ⟨event, member, givesUp⟩
      rcases List.mem_append.mp member with other | before
      · exact absurd givesUp (quiet event other byte)
      · exact ⟨event, before, givesUp⟩
  zeroed := faithful.zeroed
  read := faithful.read

/-- Whatever a device leaves in the free part does not count yet. -/
theorem store (faithful : Faithful byteAt start buffer skipped events) (bytes : Bytes) :
    Faithful byteAt start (buffer.store bytes) skipped events where
  separated := faithful.separated
  inside := faithful.inside
  reported := faithful.reported
  zeroed index done covered := by
    rw [buffer.getElem?_store_of_lt done]
    exact faithful.zeroed index done covered
  read index done uncovered := by
    rw [buffer.getElem?_store_of_lt done]
    exact faithful.read index done uncovered

/-- Bytes that a device read from where they belong count from now on. -/
theorem advance (faithful : Faithful byteAt start buffer skipped events) {count : Nat}
    (fits : count ≤ buffer.free)
    (arrived : ∀ index < count, buffer.bytes.toList[buffer.done + index]? =
      some (byteAt (start + (buffer.done + index)))) :
    Faithful byteAt start (buffer.advance count) skipped events where
  separated := faithful.separated
  inside byte covered := by
    obtain ⟨first, last⟩ := faithful.inside byte covered
    simp only [Buffer.advance]
    omega
  reported := faithful.reported
  zeroed index done covered := by
    rw [buffer.bytes_advance]
    have before : index < buffer.done := by
      have last := (faithful.inside _ covered).2
      omega
    exact faithful.zeroed index before covered
  read index done uncovered := by
    rw [buffer.bytes_advance]
    simp only [Buffer.advance] at done
    rcases Nat.lt_or_ge index buffer.done with before | behind
    · exact faithful.read index before uncovered
    · obtain ⟨distance, rfl⟩ := Nat.exists_eq_add_of_le behind
      exact arrived distance (by omega)

/-- A block that is given up is zeroed, recorded and reported as a whole. -/
theorem giveUp (faithful : Faithful byteAt start transfer.buffer transfer.skipped transfer.events)
    (spans : transfer.Spans start stop) (room : 0 < transfer.buffer.free)
    (fits : stop ≤ maxOffset) :
    Faithful byteAt start (transfer.giveUp options start).buffer
      (transfer.giveUp options start).skipped (transfer.giveUp options start).events := by
  obtain ⟨lossStart, lossStart', lossStop, lossStop'⟩ := lossBounds options spans room fits
  have done := done_giveUp options spans room fits
  have covers := covers_giveUp options spans room fits faithful.separated
  simp only [Spans] at spans
  simp only [Transfer.giveUp, spans] at done covers ⊢
  generalize options.loss start stop (start + transfer.buffer.done) = loss at *
  have whole : loss.start + (loss.stop - loss.start) = loss.stop := by omega
  have back : start + transfer.buffer.done - loss.start ≤ transfer.buffer.done := by omega
  have ahead : loss.stop - (start + transfer.buffer.done) ≤ transfer.buffer.free := by omega
  constructor
  case separated => exact ErrorRanges.isSeparated_insert faithful.separated (by omega)
  case inside =>
    intro byte covered
    rw [done]
    rcases (covers byte).mp covered with before | inside
    · have bounds := faithful.inside byte before
      omega
    · omega
  case reported =>
    intro byte
    rw [covers byte, faithful.reported byte]
    simp only [List.mem_cons, exists_eq_or_imp, Event.GivesUp, whole]
    exact or_comm
  case zeroed =>
    intro index bound covered
    rw [transfer.buffer.getElem?_zero back ahead]
    split
    · rfl
    · rcases (covers _).mp covered with before | inside
      · exact faithful.zeroed index (by have := faithful.inside _ before; omega) before
      · omega
  case read =>
    intro index bound uncovered
    simp only [covers, not_or] at uncovered
    rw [transfer.buffer.getElem?_zero back ahead, if_neg (by omega)]
    exact faithful.read index (by omega) uncovered.1

/-- A failed read that is tolerated is noted, and its block may be given up. -/
theorem tolerate (faithful : Faithful byteAt start transfer.buffer transfer.skipped transfer.events)
    (spans : transfer.Spans start stop) (room : 0 < transfer.buffer.free) (fits : stop ≤ maxOffset)
    (error : IoError) :
    Faithful byteAt start (transfer.tolerate options start error).buffer
      (transfer.tolerate options start error).skipped
      (transfer.tolerate options start error).events := by
  have noted : Faithful byteAt start transfer.buffer transfer.skipped
      (.notice (.readFailed (transfer.failures + 1) (start + transfer.buffer.done) error) ::
        transfer.events) := by
    refine faithful.append [_] fun event member byte => ?_
    obtain rfl := List.mem_singleton.mp member
    exact id
  rcases tolerate_cases options start transfer error with ⟨_, same⟩ | ⟨_, same⟩
  · rw [same]
    exact giveUp noted spans room fits
  · rw [same]
    exact noted

variable [Device σ]

theorem brought
    (faithful : Faithful byteAt start transfer.buffer transfer.skipped transfer.events) :
    Faithful byteAt start (transfer.brought start).buffer (transfer.brought start).skipped
      (transfer.brought start).events := by
  refine faithful.append _ fun event member byte => ?_
  obtain rfl := Session.eq_seek_of_mem_moveTo (List.mem_reverse.mp member)
  exact id

/-- The device read of a step changes the free part of the buffer alone. -/
theorem fetched
    (faithful : Faithful byteAt start transfer.buffer transfer.skipped transfer.events) :
    Faithful byteAt start (transfer.fetched start).buffer (transfer.fetched start).skipped
      (transfer.fetched start).events := by
  refine (faithful.brought.store _).append [_] fun event member byte => ?_
  obtain rfl := List.mem_singleton.mp member
  exact id

/-- The bytes that a step keeps are those of the media at the place of the next byte. -/
theorem arrived {medium : Medium σ} (tracks : transfer.Tracks medium.toPositioned) {count : Nat}
    (fetches : transfer.Fetches start (.ok count)) (fits : count ≤ transfer.buffer.free) :
    ∀ index < count, (transfer.fetched start).buffer.bytes.toList[transfer.buffer.done + index]? =
      some (medium.byteAt (start + (transfer.buffer.done + index))) := by
  have obeys := (tracks.brought start).session.obeys
  have stands : medium.position (transfer.brought start).session.device =
      start + transfer.buffer.done := (tracks.session.moveTo _).2 fetches.arrived
  have stored := medium.stored_read obeys fetches.reported fits
  rw [stands] at stored
  have long := congrArg List.length stored
  simp only [List.length_take, List.length_map, List.length_range', Bytes.length_toList] at long
  intro index lt
  have there := congrArg (·[index]?) stored
  simp only [List.getElem?_take, List.getElem?_map, lt, if_true] at there
  refine (Buffer.getElem?_store_add _ ?_ ?_).trans ?_
  · omega
  · exact Nat.lt_of_lt_of_le lt fits
  rw [there, List.getElem?_range' lt, Option.map_some, Nat.one_mul, Nat.add_assoc]

/-- A step stays faithful if the bytes that it keeps are those of the media. -/
theorem step_of
    (faithful : Faithful byteAt start transfer.buffer transfer.skipped transfer.events)
    (spans : transfer.Spans start stop) (fits : stop ≤ maxOffset)
    (arrived : ∀ count, transfer.Fetches start (.ok count) → count ≤ transfer.buffer.free →
      ∀ index < count, (transfer.fetched start).buffer.bytes.toList[transfer.buffer.done + index]? =
        some (byteAt (start + (transfer.buffer.done + index)))) :
    Faithful byteAt start (transfer.step options start).transfer.buffer
      (transfer.step options start).transfer.skipped
      (transfer.step options start).transfer.events := by
  have cases := step_stepsTo options start transfer
  generalize transfer.step options start = outcome at cases ⊢
  have fetched := faithful.fetched
  cases cases with
  | full => exact faithful
  | aborted =>
    refine faithful.append [_] fun event member byte => ?_
    obtain rfl := List.mem_singleton.mp member
    exact id
  | astray => exact faithful.brought
  | drained => exact fetched
  | overrun => exact fetched
  | kept fetches positive le => exact fetched.advance le (arrived _ fetches le)
  | interrupted => exact fetched
  | tolerated fetches =>
    have lost : Faithful byteAt start (transfer.fetched start).loseTrack.buffer
        (transfer.fetched start).loseTrack.skipped (transfer.fetched start).loseTrack.events :=
      fetched
    exact lost.tolerate spans fetches.room fits _
  | failed => exact fetched

/-- A step counts only bytes of the media as done. -/
theorem step {medium : Medium σ}
    (faithful : Faithful medium.byteAt start transfer.buffer transfer.skipped transfer.events)
    (tracks : transfer.Tracks medium.toPositioned) (spans : transfer.Spans start stop)
    (fits : stop ≤ maxOffset) :
    Faithful medium.byteAt start (transfer.step options start).transfer.buffer
      (transfer.step options start).transfer.skipped
      (transfer.step options start).transfer.events :=
  faithful.step_of spans fits fun _ fetches le => arrived tracks fetches le

omit [Device σ] in
/-- Only the bytes of the media that count so far matter. -/
theorem congr (faithful : Faithful byteAt start buffer skipped events) {byteAt' : Nat → UInt8}
    (same : ∀ index < buffer.done, byteAt' (start + index) = byteAt (start + index)) :
    Faithful byteAt' start buffer skipped events where
  separated := faithful.separated
  inside := faithful.inside
  reported := faithful.reported
  zeroed := faithful.zeroed
  read index done uncovered := by
    rw [same index done]
    exact faithful.read index done uncovered

end Faithful

/-- The transfer reads a medium into its own buffer and counts only bytes of the medium as done. -/
structure Sound [Device σ] (medium : Medium σ) (start stop : Nat) (transfer : Transfer σ) :
    Prop where
  tracks : transfer.Tracks medium.toPositioned
  spans : transfer.Spans start stop
  faithful : Faithful medium.byteAt start transfer.buffer transfer.skipped transfer.events

namespace Sound

variable [Device σ] {medium : Medium σ} {start stop : Nat} {options : Options}
  {transfer : Transfer σ}

/-- A transfer that begins is sound. -/
theorem begins {session : Session σ} (tracks : session.Tracks medium.toPositioned)
    (aborted : Bool) (start : Nat) (bytes : Bytes) :
    Sound medium start (start + bytes.size) { session, aborted, buffer := .ofBytes bytes } :=
  ⟨⟨tracks, by simp⟩, rfl, .empty _ _ _⟩

theorem step (sound : transfer.Sound medium start stop) (fits : stop ≤ maxOffset) :
    (transfer.step options start).transfer.Sound medium start stop :=
  ⟨sound.tracks.step, sound.spans.step, sound.faithful.step sound.tracks sound.spans fits⟩

/-- A transfer stays sound when it forgets where its device stands. -/
theorem loseTrack (sound : transfer.Sound medium start stop) :
    transfer.loseTrack.Sound medium start stop :=
  ⟨sound.tracks.loseTrack, sound.spans, sound.faithful⟩

end Sound

/-- A whole transfer on a device that obeys the laws counts only bytes of the media as done. -/
theorem read_faithful [Device σ] {medium : Medium σ} {session : Session σ}
    (tracks : session.Tracks medium.toPositioned) (options : Options) (patience : Nat)
    (aborted : Bool) (start : Nat) (bytes : Bytes) (fits : start + bytes.size ≤ maxOffset) :
    Faithful medium.byteAt start (read options patience session aborted start bytes).1.buffer
      (read options patience session aborted start bytes).1.skipped
      (read options patience session aborted start bytes).1.events := by
  have sound : (read options patience session aborted start bytes).1.Sound medium start
      (start + bytes.size) :=
    run_keeps _ (fun _ sound => sound.step fits) _ (.begins tracks aborted start bytes)
  exact sound.faithful

/-- A transfer is faithful to some media, whatever its device is. -/
def Accounted (start : Nat) (transfer : Transfer σ) : Prop :=
  ∃ byteAt, Faithful byteAt start transfer.buffer transfer.skipped transfer.events

/-- The bytes that a step keeps may be those of the media, which so far had none there. -/
theorem Accounted.step [Device σ] {options : Options} {start stop : Nat} {transfer : Transfer σ}
    (accounted : transfer.Accounted start) (spans : transfer.Spans start stop)
    (fits : stop ≤ maxOffset) : (transfer.step options start).transfer.Accounted start := by
  obtain ⟨byteAt, faithful⟩ := accounted
  have length := (transfer.fetched start).buffer.length_bytes
  rw [done_fetched, free_fetched] at length
  generalize kept : (transfer.fetched start).buffer.bytes.toList = bytes at length
  let extended (offset : Nat) : UInt8 :=
    if offset < start + transfer.buffer.done then byteAt offset else (bytes[offset - start]?).getD 0
  have still : Faithful extended start transfer.buffer transfer.skipped transfer.events :=
    faithful.congr fun index done => if_pos (by omega)
  refine ⟨extended, still.step_of spans fits fun count fetches le index lt => ?_⟩
  have there : transfer.buffer.done + index < bytes.length := by omega
  have behind : ¬ start + (transfer.buffer.done + index) < start + transfer.buffer.done := by omega
  rw [kept]
  simp only [extended, if_neg behind, Nat.add_sub_cancel_left, List.getElem?_eq_getElem there,
    Option.getD_some]

/-- A whole transfer keeps account of what it gave up. -/
theorem read_accounted [Device σ] (options : Options) (patience : Nat) (session : Session σ)
    (aborted : Bool) (start : Nat) (bytes : Bytes) (fits : start + bytes.size ≤ maxOffset) :
    (read options patience session aborted start bytes).1.Accounted start := by
  have started : ({ session, aborted, buffer := .ofBytes bytes } : Transfer σ).Spans start
      (start + bytes.size) ∧
      ({ session, aborted, buffer := .ofBytes bytes } : Transfer σ).Accounted start :=
    ⟨rfl, fun _ => 0, .empty _ _ _⟩
  exact (run_keeps (fun transfer => transfer.Spans start (start + bytes.size) ∧
    transfer.Accounted start) (fun _ kept => ⟨kept.1.step, kept.2.step kept.1 fits⟩) _ started).2

end Transfer

/-- The device read of the event reported the byte at an offset of the media. -/
def Event.Reports (byte : Nat) : Event σ → Prop
  | read _ offset _ (.ok count) => offset ≤ byte ∧ byte < offset + count
  | _ => False

namespace Transfer

variable {options : Options} {start stop : Nat} {transfer next : Transfer σ}

/-- Every byte that is done was reported by a read or given up. -/
def Sourced (start : Nat) (transfer : Transfer σ) : Prop :=
  ∀ byte, start ≤ byte → byte < start + transfer.buffer.done →
    ∃ event ∈ transfer.events, event.Reports byte ∨ event.GivesUp byte

namespace Sourced

theorem of_done (sourced : transfer.Sourced start) (done : next.buffer.done = transfer.buffer.done)
    (shown : transfer.events ⊆ next.events) : next.Sourced start := by
  intro byte first last
  obtain ⟨event, member, source⟩ := sourced byte first (done ▸ last)
  exact ⟨event, shown member, source⟩

private theorem giveUp (sourced : transfer.Sourced start) (spans : transfer.Spans start stop)
    (room : 0 < transfer.buffer.free) (fits : stop ≤ maxOffset) :
    (transfer.giveUp options start).Sourced start := by
  obtain ⟨_, before, behind, _⟩ := lossBounds options spans room fits
  have done := done_giveUp options spans room fits
  simp only [Spans] at spans
  intro byte first last
  rw [done] at last
  rcases Nat.lt_or_ge byte (start + transfer.buffer.done) with already | new
  · obtain ⟨event, member, source⟩ := sourced byte first already
    exact ⟨event, List.mem_cons_of_mem _ member, source⟩
  · refine ⟨_, List.mem_cons_self, .inr ?_⟩
    simp only [Event.GivesUp, spans]
    omega

private theorem tolerate (sourced : transfer.Sourced start) (spans : transfer.Spans start stop)
    (room : 0 < transfer.buffer.free) (fits : stop ≤ maxOffset) (error : IoError) :
    (transfer.tolerate options start error).Sourced start := by
  have noted : (({ transfer with failures := transfer.failures + 1 } : Transfer σ).report
      (.readFailed (transfer.failures + 1) (start + transfer.buffer.done) error)).Sourced start :=
    sourced.of_done rfl (List.subset_cons_self ..)
  rcases tolerate_cases options start transfer error with ⟨_, same⟩ | ⟨_, same⟩ <;> rw [same]
  · exact noted.giveUp spans room fits
  · exact noted

/-- A step makes bytes done only where its read reported them or it gave them up. -/
theorem step [Device σ] (sourced : transfer.Sourced start) (spans : transfer.Spans start stop)
    (fits : stop ≤ maxOffset) : (transfer.step options start).transfer.Sourced start := by
  have cases := step_stepsTo options start transfer
  have shown := subset_step options start transfer
  generalize transfer.step options start = outcome at cases shown ⊢
  cases cases with
  | full | aborted | astray | drained | overrun | interrupted | failed =>
    exact sourced.of_done rfl shown
  | @kept count fetches =>
    intro byte first last
    rcases Nat.lt_or_ge byte (start + transfer.buffer.done) with already | new
    · obtain ⟨event, member, source⟩ := sourced byte first already
      exact ⟨event, shown member, source⟩
    · have read : .read (transfer.brought start).session.device (start + transfer.buffer.done)
          transfer.buffer.free (.ok count) ∈ (transfer.fetched start).events := by
        rw [fetches.events_fetched]
        exact List.mem_cons_self
      refine ⟨_, read, .inl ⟨new, ?_⟩⟩
      simp only [TransferStep.transfer, keep, Buffer.advance, done_fetched] at last
      omega
  | @tolerated error fetches =>
    have lost : (transfer.fetched start).loseTrack.Sourced start :=
      sourced.of_done rfl (List.Subset.trans (List.subset_append_right ..)
        (List.subset_cons_self ..))
    have still : (transfer.fetched start).loseTrack.Spans start stop := spans
    exact lost.tolerate still fetches.room fits error

end Sourced

theorem read_sourced [Device σ] (options : Options) (patience : Nat) (session : Session σ)
    (aborted : Bool) (start : Nat) (bytes : Bytes) (fits : start + bytes.size ≤ maxOffset) :
    (read options patience session aborted start bytes).1.Sourced start := by
  have started : ({ session, aborted, buffer := .ofBytes bytes } : Transfer σ).Spans start
      (start + bytes.size) ∧
      ({ session, aborted, buffer := .ofBytes bytes } : Transfer σ).Sourced start := by
    refine ⟨rfl, fun byte first last => ?_⟩
    simp only [Buffer.ofBytes] at last
    omega
  exact (run_keeps (fun transfer => transfer.Spans start (start + bytes.size) ∧
    transfer.Sourced start) (fun _ kept => ⟨kept.1.step, kept.2.step kept.1 fits⟩) _ started).2

/-- What a transfer that succeeds without giving anything up counts, its reads reported. -/
theorem reported_of_whole [Device σ] {patience count : Nat} {session : Session σ} {aborted : Bool}
    {bytes : Bytes} (fits : start + bytes.size ≤ maxOffset)
    (whole : (read options patience session aborted start bytes).1.skipped = {})
    (succeeded : (read options patience session aborted start bytes).2 = .ok count) (byte : Nat)
    (first : start ≤ byte) (last : byte < start + count) :
    ∃ event ∈ (read options patience session aborted start bytes).1.events,
      event.Reports byte := by
  have sourced := read_sourced options patience session aborted start bytes fits
  obtain ⟨event, member, source⟩ := sourced byte first ((done_of_run_ok succeeded).symm ▸ last)
  refine ⟨event, member, source.resolve_right fun given => ?_⟩
  obtain ⟨_, faithful⟩ := read_accounted options patience session aborted start bytes fits
  have covered := (faithful.reported byte).mpr ⟨event, member, given⟩
  rw [whole] at covered
  exact ErrorRanges.not_covers_empty byte covered

end Transfer

end StorageMedia
