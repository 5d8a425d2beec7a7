import StorageMedia.Proofs.Handle.Atomicity
import StorageMedia.Proofs.Handle.Requests

/-! # The ways to read agree

There is one read, that into a buffer of the caller. The reads into a buffer of their own make it no
larger than what lies on the media and yet come to the same as if it had all the bytes that they are
asked for; the reads at an offset are a seek and a read; and a byte stream does what the handle does
and only sees its errors otherwise.
-/

namespace StorageMedia

namespace Bytes

theorem take_zero (bytes : Bytes) : bytes.take 0 = .empty := by
  obtain ⟨_ | _⟩ := bytes <;> simp [take, shift, empty]

/-- The first of equal bytes are as many of them. -/
theorem take_replicate {count number : Nat} (positive : 0 < number) (le : number ≤ count)
    (byte : UInt8) : (replicate count byte).take number = replicate number byte := by
  simp only [take, replicate, shift, if_neg (Nat.ne_of_gt positive), Stretch.size]
  by_cases less : number < count
  · simp [less, Stretch.take, Nat.min_eq_left le]
  · obtain rfl : number = count := by omega
    simp

/-- What lies behind the first bytes does not matter to them. -/
theorem take_append {front back : Bytes} {number : Nat} (le : number ≤ front.size) :
    (front ++ back).take number = front.take number := by
  suffices same : ∀ taken, (shift number taken (front.stretches ++ back.stretches)).1 =
      (shift number taken front.stretches).1 from
    congrArg (fun taken => Bytes.mk taken.reverse) (same [])
  obtain ⟨stretches⟩ := front
  simp only [size] at le
  induction stretches generalizing number with
  | nil =>
    obtain rfl : number = 0 := by simpa using le
    cases back with
    | mk stretches => cases stretches <;> simp [shift]
  | cons stretch rest ih =>
    intro taken
    simp only [List.cons_append, shift]
    split
    · rfl
    split
    · rfl
    · refine ih ?_ _
      simp only [List.foldr_cons] at le
      omega

end Bytes

variable {σ : Type}

/-- What is left of a read into a buffer once the buffer is cut to the bytes that were read. -/
def BufferRead.truncated (read : BufferRead σ) : Outcome σ (Handle σ) Bytes :=
  read.outcome.map fun count => read.buffer.take count

variable [Device σ]

namespace Handle

variable {patience : Nat} {handle : Handle σ}

variable {session : Session σ} {geometry : Geometry} {size : Nat}

private theorem truncated_of_outside (opened : handle.session = some session)
    (found : session.geometry.result = .ok geometry)
    (outside : handle.clampedSize geometry.mediaSize size = 0) (patience : Nat) :
    (handle.readBuffer patience (.replicate size 0)).truncated =
      { result := .ok .empty, state := handle.resume session.geometry
        events := session.geometry.events } := by
  simp only [readBuffer, opened, found, Bytes.size_replicate, clampedSize_resume, outside, if_true,
    BufferRead.truncated, Outcome.map, Result.map, Bytes.take_zero]

private theorem truncated_readBuffer (opened : handle.session = some session)
    (found : session.geometry.result = .ok geometry)
    (positive : 0 < handle.clampedSize geometry.mediaSize size) (patience : Nat) :
    (handle.readBuffer patience (.replicate size 0)).truncated =
      let transfer := Transfer.read handle.options patience session.geometry.state
        (handle.resume session.geometry).aborted handle.cursor
        (.replicate (handle.clampedSize geometry.mediaSize size) 0)
      { result := transfer.2.map fun count => transfer.1.buffer.bytes.take count
        state := handle.afterTransfer transfer.1 transfer.2
        events := session.geometry.events ++ transfer.1.events.reverse } := by
  generalize clamped : handle.clampedSize geometry.mediaSize size = inside at positive ⊢
  have le : inside ≤ size := by
    rw [← clamped]
    exact Nat.min_le_right _ _
  simp only [readBuffer, opened, found, Bytes.size_replicate, clampedSize_resume, clamped,
    if_neg (Nat.ne_of_gt positive), Bytes.take_replicate positive le, BufferRead.truncated,
    Outcome.map, afterTransfer_resume, options_resume, cursor_resume]
  have kept := Transfer.size_read handle.options patience session.geometry.state
    (handle.resume session.geometry).aborted handle.cursor (.replicate inside 0)
  cases runs : Transfer.read handle.options patience session.geometry.state
    (handle.resume session.geometry).aborted handle.cursor (.replicate inside 0) with
  | mk transfer result =>
    rw [runs] at kept
    cases result with
    | ok count =>
      have few := (Transfer.read_done (congrArg Prod.snd runs)).2
      rw [← kept] at few
      simp only [Result.map, Bytes.take_append few]
    | error | pending => rfl

private theorem readUpTo_of_found {measured : Handle σ} (opened : handle.session = some session)
    (found : session.geometry.result = .ok geometry)
    (after : measured = handle.resume session.geometry)
    (patience size : Nat) :
    handle.readUpTo patience size =
      let read := (measured.readBuffer patience
        (.replicate (measured.clampedSize geometry.mediaSize size) 0)).truncated
      { read with events := session.geometry.events ++ read.events } := by
  have sized : handle.mediaSize.result = .ok geometry.mediaSize := by
    simp only [mediaSize, Outcome.map, result_geometry opened, found, Result.map]
  rw [readUpTo, Outcome.andThen_of_ok sized, after]
  simp only [mediaSize, Handle.geometry, onSession, opened, Outcome.map_state, Outcome.map_events,
    Outcome.mapState, BufferRead.truncated]

/-- A read into a buffer of its own, which it makes no larger than what lies on the media, is a read
into a buffer of all the bytes that it is asked for. -/
theorem readUpTo_eq (patience : Nat) (handle : Handle σ) (size : Nat) :
    handle.readUpTo patience size = (handle.readBuffer patience (.replicate size 0)).truncated := by
  cases opened : handle.session with
  | none =>
    simp only [readUpTo, mediaSize, geometry, onSession_closed opened, readBuffer_closed opened]
    rfl
  | some session =>
    cases found : session.geometry.result with
    | error | pending =>
      simp only [readUpTo, mediaSize, geometry, onSession, opened, Outcome.mapState, Outcome.map,
        found, Result.map, Outcome.andThen, readBuffer, BufferRead.truncated]
    | ok geometry =>
      obtain ⟨measured, after⟩ : ∃ measured : Handle σ,
        measured = handle.resume session.geometry := ⟨_, rfl⟩
      have reopened : measured.session = some session.geometry.state := by rw [after]; rfl
      -- The geometry is known now, and it clamps the buffer to the size that it has.
      have known := Session.geometry_of_known (Session.knownGeometry_of_geometry_ok found)
      have again : session.geometry.state.geometry.result = .ok geometry := by rw [known]; rfl
      have same (size : Nat) : measured.clampedSize geometry.mediaSize size =
          handle.clampedSize geometry.mediaSize size := by rw [after]; rfl
      have clamped : measured.clampedSize geometry.mediaSize
          (handle.clampedSize geometry.mediaSize size) =
            handle.clampedSize geometry.mediaSize size := by
        rw [same]
        simp only [clampedSize]
        omega
      rw [readUpTo_of_found opened found after, same]
      by_cases outside : handle.clampedSize geometry.mediaSize size = 0
      · rw [truncated_of_outside opened found outside,
          truncated_of_outside reopened again (clamped.trans outside), known, after, resume_answer]
        simp [Outcome.answer]
      · rw [truncated_readBuffer opened found (by omega),
          truncated_readBuffer reopened again (by omega), clamped, known, after, resume_answer]
        simp only [afterTransfer_resume, options_resume, cursor_resume, Outcome.answer,
          List.nil_append]

end Handle

/-- A response to a read into a buffer, with the bytes that were read instead of their number. -/
def Response.truncated (response : Response σ) : Response σ where
  outcome := response.outcome.map fun value =>
    match value, response.buffer with
    | .count count, some buffer => .bytes (buffer.take count)
    | _, _ => value

/-- What an operation shows its caller of its result. -/
inductive Shown
  | value (value : Value)
  | error (cause : Error)
  | streamError (error : IoError)
  | pending

/-- Errors as a byte stream shows them. -/
def Shown.throughStream : Shown → Shown
  | error cause => streamError cause.toIo
  | shown => shown

namespace Operation

/-- What an operation shows of its response. A caller that sees the handle as a byte stream sees its
errors as those of a stream. -/
def shown (operation : Operation σ) (response : Response σ) : Shown :=
  match response.outcome.result with
  | .ok value => .value value
  | .error cause => if operation.isStream then .streamError cause.toIo else .error cause
  | .pending => .pending

/-- Two operations one after the other. The second one is left out unless the first one succeeds. -/
def inTurn (host : Host σ) (patience : Nat) (handle : Handle σ) (first second : Operation σ) :
    Response σ :=
  let begun := first.apply host patience handle
  match begun.outcome.result with
  | .ok _ =>
    let last := second.apply host patience begun.outcome.state
    { last with
      outcome := { last.outcome with events := begun.outcome.events ++ last.outcome.events } }
  | _ => { outcome := begun.outcome, buffer := second.buffer? }

/-- Operations of a byte stream and those of the handle that they stand for. -/
inductive Mirrors : Operation σ → Operation σ → Prop
  | read (bytes : Bytes) : Mirrors (.streamRead bytes) (.readBuffer bytes)
  | start {offset : Nat} (representable : offset ≤ maxSeekOffset) :
      Mirrors (.streamSeek (.start offset)) (.seek offset .start)
  | current (distance : Int) : Mirrors (.streamSeek (.current distance)) (.seek distance .current)
  | streamEnd (distance : Int) :
      Mirrors (.streamSeek (.streamEnd distance)) (.seek distance .mediaEnd)

variable {host : Host σ} {patience : Nat} {handle : Handle σ}

private theorem checkReadSize_valid {size : Nat} (valid : size ≤ maximumReadSize) :
    checkReadSize size = .ok size :=
  Handle.checkReadSize_eq_ok_iff.mpr ⟨rfl, valid⟩

theorem read_eq_truncated {size : Nat} (valid : size ≤ maximumReadSize) :
    apply host patience handle (.read size) =
      (apply host patience handle (.readBuffer (.replicate size 0))).truncated := by
  simp only [apply, Handle.read, checkReadSize_valid valid, Handle.readUpTo_eq, Response.of,
    Response.ofRead, Response.truncated, BufferRead.truncated, Outcome.map]
  cases (handle.readBuffer patience (.replicate size 0)).outcome.result <;> rfl

theorem readAt_eq_inTurn {size offset : Nat} (valid : size ≤ maximumReadSize) :
    apply host patience handle (.readAt size offset) =
      inTurn host patience handle (.seek offset .start) (.read size) := by
  have inside : ¬ (offset : Int) < 0 := by omega
  simp only [inTurn, apply, Handle.readAt, Handle.read, checkReadSize_valid valid, if_neg inside,
    Response.of, Outcome.map, Outcome.andThen]
  cases (handle.seek offset .start).result <;> rfl

theorem readBufferAt_eq_inTurn {bytes : Bytes} {offset : Nat}
    (representable : offset ≤ maxSeekOffset) :
    apply host patience handle (.readBufferAt bytes offset) =
      inTurn host patience handle (.seek offset .start) (.readBuffer bytes) := by
  simp only [inTurn, apply, Handle.readBufferAt, Handle.seekStart, if_pos representable,
    Response.of, Response.ofRead, Outcome.map]
  cases (handle.seek offset .start).result <;> rfl

/-- A read at an offset that fails has moved the handle there. -/
theorem cursor_of_readAt_failed {size offset : Nat} (valid : size ≤ maximumReadSize)
    (representable : offset ≤ maxSeekOffset) (opened : handle.isOpen = true) {cause : Error}
    (failed : (apply host patience handle (.readAt size offset)).outcome.result = .error cause) :
    (apply host patience handle (.readAt size offset)).outcome.state.cursor = offset := by
  have inside : ¬ (offset : Int) < 0 := by omega
  have moves : handle.readAt patience size offset =
      ({ handle with cursor := offset } : Handle σ).readUpTo patience size := by
    simp only [Handle.readAt, checkReadSize_valid valid, if_neg inside,
      Handle.seek_start_of_open opened representable, Outcome.andThen_answer]
  simp only [apply, moves] at failed ⊢
  exact (((Handle.readUpTo_atomic patience _ size).map _).withstands cause failed).cursor

theorem Mirrors.apply_eq {stream plain : Operation σ} (mirrors : stream.Mirrors plain) :
    stream.apply host patience handle = plain.apply host patience handle := by
  cases mirrors with
  | start representable =>
    simp only [apply, Handle.streamSeek, Handle.seekStart, if_pos representable]
  | read | current | streamEnd => rfl

theorem Mirrors.shown_eq {stream plain : Operation σ} (mirrors : stream.Mirrors plain) :
    stream.shown (stream.apply host patience handle) =
      (plain.shown (plain.apply host patience handle)).throughStream := by
  obtain ⟨streamed, unstreamed⟩ : stream.isStream = true ∧ plain.isStream = false := by
    cases mirrors <;> exact ⟨rfl, rfl⟩
  simp only [mirrors.apply_eq, shown, streamed, unstreamed]
  cases (plain.apply host patience handle).outcome.result <;> rfl

/-- All ways to read and to seek come to the same. A read into a buffer of its own is the read into
a zeroed buffer of all the bytes that it is asked for, cut to those that were read. The read of the
size that the options say is a read of this size. A read at an offset is a seek and, if that
succeeds, a read; if the read fails the handle stands at the offset. A byte stream does what the
handle does and shows its errors as those of a stream. -/
theorem entry_points_agree (host : Host σ) (patience : Nat) (handle : Handle σ) :
    (∀ size : Nat, size ≤ maximumReadSize →
      apply host patience handle (.read size) =
        (apply host patience handle (.readBuffer (.replicate size 0))).truncated) ∧
    apply host patience handle .readDefault =
      apply host patience handle (.read handle.options.defaultReadSize) ∧
    (∀ size offset : Nat, size ≤ maximumReadSize →
      apply host patience handle (.readAt size offset) =
          inTurn host patience handle (.seek offset .start) (.read size) ∧
        (offset ≤ maxSeekOffset → handle.isOpen = true → ∀ cause,
          (apply host patience handle (.readAt size offset)).outcome.result = .error cause →
          (apply host patience handle (.readAt size offset)).outcome.state.cursor = offset)) ∧
    (∀ bytes offset, offset ≤ maxSeekOffset →
      apply host patience handle (.readBufferAt bytes offset) =
        inTurn host patience handle (.seek offset .start) (.readBuffer bytes)) ∧
    ∀ stream plain : Operation σ, stream.Mirrors plain →
      stream.apply host patience handle = plain.apply host patience handle ∧
        stream.shown (stream.apply host patience handle) =
          (plain.shown (plain.apply host patience handle)).throughStream := by
  refine ⟨fun _ => read_eq_truncated, rfl, ?_, fun _ _ => readBufferAt_eq_inTurn, ?_⟩
  · intro size offset valid
    exact ⟨readAt_eq_inTurn valid, fun representable opened _ =>
      cursor_of_readAt_failed valid representable opened⟩
  · intro stream plain mirrors
    exact ⟨mirrors.apply_eq, mirrors.shown_eq⟩

/-- A read of twenty bytes of a media of twelve makes its buffer no larger than the media, and comes
to the read into a buffer of twenty bytes. -/
theorem damaged_entry_points_agree :
    let handle := tolerantHandle.startSession "drive" ScriptedDevice.damaged
    (apply Host.empty 0 handle (.read 20)).outcome.result.map Value.amount = .ok 12 ∧
      apply Host.empty 0 handle (.read 20) =
        (apply Host.empty 0 handle (.readBuffer (.replicate 20 0))).truncated ∧
      apply Host.empty 0 handle (.readAt 20 8) =
        inTurn Host.empty 0 handle (.seek 8 .start) (.read 20) := by
  intro handle
  obtain ⟨truncates, _, turns, _⟩ := entry_points_agree Host.empty 0 handle
  exact ⟨by decide, truncates 20 (by decide), (turns 20 8 (by decide)).1⟩

end Operation

end StorageMedia
