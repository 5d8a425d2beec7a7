import StorageMedia.Proofs.Handle.Position
import StorageMedia.Proofs.Transfer.Delivery

/-! # What reads deliver

A read that succeeds gives bytes of the media, each from its own offset, except where it reports
that it gave up a range: there it gives zeros, and records the range. It moves the offset of the
handle behind the bytes that it gave.
-/

namespace StorageMedia

variable {σ : Type}

/-- Data that was read from an offset while ranges were lost: those lie inside of the data, their
bytes are zero, and all other bytes are those of the media. -/
structure Delivers (byteAt : Nat → UInt8) (start : Nat) (lost : ErrorRanges) (data : List UInt8) :
    Prop where
  inside : ∀ range ∈ lost.toList,
    start ≤ range.offset ∧ range.offset + range.size ≤ start + data.length
  zeroed : ∀ index < data.length, lost.Covers (start + index) → data[index]? = some 0
  read : ∀ index < data.length, ¬ lost.Covers (start + index) →
    data[index]? = some (byteAt (start + index))

theorem delivers_nil (byteAt : Nat → UInt8) (start : Nat) : Delivers byteAt start {} [] :=
  ⟨by simp, by simp, by simp⟩

/-- A read from an offset of the media gave data and changed a handle. -/
structure Handle.ReadsFrom (byteAt : Nat → UInt8) (start : Nat) (handle after : Handle σ)
    (events : List (Event σ)) (lost : ErrorRanges) (data : List UInt8) : Prop where
  delivers : Delivers byteAt start lost data
  /-- What is lost is what the read reported to have given up. -/
  reported : ∀ byte, lost.Covers byte ↔ ∃ event ∈ events, event.GivesUp byte
  recorded : after.errors = handle.errors.merge lost
  moved : after.cursor = start + data.length

/-- Ranges lie where their bytes do. -/
theorem ErrorRanges.inside_of_covers {ranges : ErrorRanges} {start stop : Nat}
    (separated : ranges.IsSeparated)
    (inside : ∀ byte, ranges.Covers byte → start ≤ byte ∧ byte < stop) :
    ∀ range ∈ ranges.toList, start ≤ range.offset ∧ range.offset + range.size ≤ stop := by
  intro range member
  -- A range holds its first and its last byte, and both lie inside.
  have positive := (separated.proper range member).1
  have covers (byte : Nat) (contains : range.Contains byte) : ranges.Covers byte :=
    ⟨range, member, contains⟩
  simp only [ErrorRange.Contains] at covers
  have first := inside range.offset (covers _ (by omega))
  have last := inside (range.offset + range.size - 1) (covers _ (by omega))
  omega

/-- Bytes of the ranges that were lost lie in the data. -/
theorem Delivers.covers {byteAt : Nat → UInt8} {start byte : Nat} {lost : ErrorRanges}
    {data : List UInt8} (delivers : Delivers byteAt start lost data) (covered : lost.Covers byte) :
    start ≤ byte ∧ byte < start + data.length := by
  obtain ⟨range, member, first, last⟩ := covered
  have bounds := delivers.inside range member
  omega

namespace Transfer

variable {byteAt : Nat → UInt8} {start : Nat} {buffer : Buffer} {skipped : ErrorRanges}
  {events : List (Event σ)}

/-- The part of a buffer that is done is what a successful transfer delivers. -/
theorem Faithful.delivers (faithful : Faithful byteAt start buffer skipped events)
    {data : List UInt8} (length : data.length = buffer.done)
    (front : ∀ index < buffer.done, data[index]? = buffer.bytes.toList[index]?) :
    Delivers byteAt start skipped data where
  inside := by
    rw [length]
    exact ErrorRanges.inside_of_covers faithful.separated faithful.inside
  zeroed index bound covered := by
    rw [length] at bound
    rw [front index bound]
    exact faithful.zeroed index bound covered
  read index bound uncovered := by
    rw [length] at bound
    rw [front index bound]
    exact faithful.read index bound uncovered

/-- A transfer that succeeds delivers as many bytes as it says, of whatever media it is faithful
to. -/
theorem Faithful.delivers_of_read [Device σ] {session : Session σ} {options : Options}
    {patience : Nat} {aborted : Bool} {bytes : Bytes} {count : Nat} {transfer : Transfer σ}
    (faithful : Faithful byteAt start transfer.buffer transfer.skipped transfer.events)
    (runs : Transfer.read options patience session aborted start bytes = (transfer, .ok count)) :
    (transfer.buffer.bytes.toList.take count).length = count ∧
      Delivers byteAt start transfer.skipped (transfer.buffer.bytes.toList.take count) := by
  have filled := size_read options patience session aborted start bytes
  have done := read_done (congrArg Prod.snd runs)
  rw [runs] at filled done
  have length : (transfer.buffer.bytes.toList.take count).length = count := by
    rw [List.length_take, Bytes.length_toList, filled]
    exact Nat.min_eq_left done.2
  refine ⟨length, faithful.delivers (length.trans done.1.symm) fun index bound => ?_⟩
  rw [done.1] at bound
  rw [List.getElem?_take, if_pos bound]

end Transfer

/-- Questions give up nothing. -/
theorem Event.exists_givesUp_append {inquiries events : List (Event σ)} {byte : Nat}
    (quiet : ∀ event ∈ inquiries, event.isInquiry = true) :
    (∃ event ∈ inquiries ++ events, event.GivesUp byte) ↔ ∃ event ∈ events, event.GivesUp byte := by
  constructor
  · rintro ⟨event, member, givesUp⟩
    rcases List.mem_append.mp member with asked | later
    · exact absurd givesUp (event.not_givesUp_of_isInquiry (quiet event asked) byte)
    · exact ⟨event, later, givesUp⟩
  · rintro ⟨event, member, givesUp⟩
    exact ⟨event, List.mem_append_right _ member, givesUp⟩

namespace Handle

variable [Device σ] {medium : Medium σ} {patience : Nat} {handle middle after : Handle σ}

/-- A read of no bytes delivers none. -/
theorem readsFrom_outside (byteAt : Nat → UInt8) (handle : Handle σ) (session : Session σ) :
    ReadsFrom byteAt handle.cursor handle (handle.resume session.geometry)
      session.geometry.events {} [] where
  delivers := delivers_nil _ _
  reported byte := by
    have quiet : ¬ ∃ event ∈ session.geometry.events, event.GivesUp byte := by
      rintro ⟨event, member, givesUp⟩
      exact event.not_givesUp_of_isInquiry (session.geometry_inquires event member) byte givesUp
    exact iff_of_false (ErrorRanges.not_covers_empty byte) quiet
  recorded := rfl
  moved := rfl

/-- A read whose transfer succeeds delivers the bytes of whatever media the transfer is faithful
to. -/
theorem readsFrom_transferred {byteAt : Nat → UInt8} {session : Session σ} {bytes : Bytes}
    {transfer : Transfer σ} {count : Nat}
    (faithful : Transfer.Faithful byteAt handle.cursor transfer.buffer transfer.skipped
      transfer.events)
    (runs : Transfer.read handle.options patience session.geometry.state
      (handle.resume session.geometry).aborted handle.cursor bytes = (transfer, .ok count)) :
    (transfer.buffer.bytes.toList.take count).length = count ∧
      ReadsFrom byteAt handle.cursor handle (handle.afterTransfer transfer (.ok count))
        (session.geometry.events ++ transfer.events.reverse) transfer.skipped
        (transfer.buffer.bytes.toList.take count) := by
  obtain ⟨length, delivers⟩ := faithful.delivers_of_read runs
  refine ⟨length, delivers, fun byte => ?_, rfl, ?_⟩
  · rw [faithful.reported byte, Event.exists_givesUp_append session.geometry_inquires]
    simp only [List.mem_reverse]
  · rw [length]
    rfl

omit [Device σ] in
/-- The bytes that a read asks for lie below the largest offset. -/
theorem clamped_fits {mediaSize : UInt64} {bytes : Bytes} {size : Nat}
    (clamped : handle.clampedSize mediaSize bytes.size = size) (positive : 0 < size) :
    handle.cursor + (bytes.take size).size ≤ maxOffset := by
  obtain ⟨taken, _, inside⟩ := clamped_bounds clamped positive
  have most := mediaSize.toNat_lt
  simp only [taken, maxOffset]
  omega

/-- A read into a buffer delivers what it counts, and what it gives up is in order. -/
theorem readBuffer_delivers (tracks : handle.Tracks medium.toPositioned) {bytes : Bytes}
    {count : Nat} (succeeded : (handle.readBuffer patience bytes).outcome.result = .ok count) :
    ∃ data lost, lost.IsSeparated ∧ data.length = count ∧
      data <+: (handle.readBuffer patience bytes).buffer.toList ∧
      ReadsFrom medium.byteAt handle.cursor handle
        (handle.readBuffer patience bytes).outcome.state
        (handle.readBuffer patience bytes).outcome.events lost data := by
  have reads := readBuffer_readsTo patience handle bytes
  generalize handle.readBuffer patience bytes = read at reads succeeded ⊢
  cases reads with
  | closed => simp [Outcome.refuse] at succeeded
  | unmeasured => simp at succeeded
  | @outside session =>
    obtain rfl : 0 = count := by simpa using succeeded
    exact ⟨[], {}, ErrorRanges.isSeparated_empty, rfl, List.nil_prefix,
      readsFrom_outside medium.byteAt handle session⟩
  | @transferred session geometry size transfer opened found clamped positive runs =>
    obtain ⟨transfer, result⟩ := transfer
    obtain rfl : result = .ok count := succeeded
    have faithful := Transfer.read_faithful (tracks session opened).geometry handle.options patience
      (handle.resume session.geometry).aborted handle.cursor (bytes.take size)
      (clamped_fits clamped positive)
    rw [runs] at faithful
    obtain ⟨length, readsFrom⟩ := readsFrom_transferred faithful runs
    refine ⟨transfer.buffer.bytes.toList.take count, transfer.skipped, faithful.separated, length,
      ?_, readsFrom⟩
    rw [Bytes.toList_append]
    exact (List.take_prefix _ _).trans (List.prefix_append _ _)

/-- A read into a buffer delivers what it counts. -/
theorem readBuffer_readsFrom (tracks : handle.Tracks medium.toPositioned) {bytes : Bytes}
    {count : Nat} (succeeded : (handle.readBuffer patience bytes).outcome.result = .ok count) :
    ∃ data lost, data.length = count ∧ data <+: (handle.readBuffer patience bytes).buffer.toList ∧
      ReadsFrom medium.byteAt handle.cursor handle
        (handle.readBuffer patience bytes).outcome.state
        (handle.readBuffer patience bytes).outcome.events lost data := by
  obtain ⟨data, lost, _, reads⟩ := readBuffer_delivers tracks succeeded
  exact ⟨data, lost, reads⟩

omit [Device σ] in
/-- What happened to a handle before a read does not count if no range was recorded. -/
theorem ReadsFrom.of_errors {byteAt : Nat → UInt8} {start : Nat} {events : List (Event σ)}
    {lost : ErrorRanges} {data : List UInt8}
    (readsFrom : ReadsFrom byteAt start middle after events lost data)
    (errors : middle.errors = handle.errors) :
    ReadsFrom byteAt start handle after events lost data :=
  ⟨readsFrom.delivers, readsFrom.reported, errors ▸ readsFrom.recorded, readsFrom.moved⟩

omit [Device σ] in
private theorem ReadsFrom.after_inquiries {byteAt : Nat → UInt8} {start : Nat}
    {inquiries events : List (Event σ)} {lost : ErrorRanges} {data : List UInt8}
    (readsFrom : ReadsFrom byteAt start handle after events lost data)
    (quiet : ∀ event ∈ inquiries, event.isInquiry = true) :
    ReadsFrom byteAt start handle after (inquiries ++ events) lost data where
  delivers := readsFrom.delivers
  reported byte := by rw [readsFrom.reported byte, Event.exists_givesUp_append quiet]
  recorded := readsFrom.recorded
  moved := readsFrom.moved

/-- A read into a buffer of its own delivers its bytes. -/
theorem readUpTo_readsFrom (tracks : handle.Tracks medium.toPositioned) {size : Nat} {value : Bytes}
    (succeeded : (handle.readUpTo patience size).result = .ok value) :
    ∃ lost, ReadsFrom medium.byteAt handle.cursor handle (handle.readUpTo patience size).state
      (handle.readUpTo patience size).events lost value.toList := by
  obtain ⟨mediaSize, sized, rest⟩ := Outcome.ok_of_andThen succeeded
  obtain ⟨count, read, rfl⟩ := Outcome.ok_of_map rest
  have middle : handle.mediaSize.state.Tracks medium.toPositioned :=
    (mediaSize_steps patience handle).keep Step.tracks tracks
  obtain ⟨data, lost, rfl, front, readsFrom⟩ := readBuffer_readsFrom middle read
  refine ⟨lost, ?_⟩
  rw [readUpTo, Outcome.andThen_of_ok sized, Bytes.toList_take, ← List.prefix_iff_eq_take.mp front]
  rw [cursor_mediaSize] at readsFrom
  exact (readsFrom.of_errors (errors_mediaSize handle)).after_inquiries (mediaSize_inquires handle)

/-- A read of a given size delivers its bytes. -/
theorem read_readsFrom (tracks : handle.Tracks medium.toPositioned) {size : Int} {value : Bytes}
    (succeeded : (handle.read patience size).result = .ok value) :
    ∃ lost, ReadsFrom medium.byteAt handle.cursor handle (handle.read patience size).state
      (handle.read patience size).events lost value.toList := by
  cases checked : checkReadSize size with
  | error cause => simp [read, checked, Outcome.refuse] at succeeded
  | ok size =>
    simp only [read, checked] at succeeded ⊢
    exact readUpTo_readsFrom tracks succeeded

private theorem state_of_seek_start {offset : Int} {target : Nat}
    (succeeded : (handle.seek offset .start).result = .ok target) :
    handle.seek offset .start = .answer target { handle with cursor := offset.toNat } := by
  simp only [seek, seekFrom, Int.cast_ofNat_Int, Int.zero_add] at succeeded ⊢
  split at succeeded
  · next opened =>
    rw [if_pos opened]
    split at succeeded
    · next bounds =>
      rw [if_pos bounds]
      simpa [Outcome.answer] using succeeded
    · simp [Outcome.refuse] at succeeded
  · simp [Outcome.refuse] at succeeded

theorem readAt_readsFrom (tracks : handle.Tracks medium.toPositioned) {size offset : Int}
    {value : Bytes} (succeeded : (handle.readAt patience size offset).result = .ok value) :
    ∃ lost, ReadsFrom medium.byteAt offset.toNat handle (handle.readAt patience size offset).state
      (handle.readAt patience size offset).events lost value.toList := by
  cases checked : checkReadSize size with
  | error cause => simp [readAt, checked, Outcome.refuse] at succeeded
  | ok size =>
    simp only [readAt, checked] at succeeded ⊢
    split at succeeded
    · simp [Outcome.refuse] at succeeded
    next positive =>
    rw [if_neg positive]
    obtain ⟨target, sought, rest⟩ := Outcome.ok_of_andThen succeeded
    rw [state_of_seek_start sought] at rest ⊢
    obtain ⟨lost, readsFrom⟩ := readUpTo_readsFrom
      (show Tracks medium.toPositioned { handle with cursor := offset.toNat } from tracks) rest
    exact ⟨lost, readsFrom.of_errors rfl⟩

theorem readBufferAt_readsFrom (tracks : handle.Tracks medium.toPositioned) {bytes : Bytes}
    {offset count : Nat}
    (succeeded : (handle.readBufferAt patience bytes offset).outcome.result = .ok count) :
    ∃ data lost, data.length = count ∧
      data <+: (handle.readBufferAt patience bytes offset).buffer.toList ∧
      ReadsFrom medium.byteAt offset handle
        (handle.readBufferAt patience bytes offset).outcome.state
        (handle.readBufferAt patience bytes offset).outcome.events lost data := by
  cases sought : (handle.seekStart offset).result with
  | error cause => simp [readBufferAt, sought] at succeeded
  | pending => simp [readBufferAt, sought] at succeeded
  | ok target =>
    have moved : handle.seekStart offset = .answer target { handle with cursor := offset } := by
      simp only [seekStart] at sought ⊢
      split at sought
      · next reachable =>
        rw [if_pos reachable]
        exact state_of_seek_start sought
      · simp [Outcome.refuse] at sought
    simp only [readBufferAt, moved, Outcome.answer] at succeeded ⊢
    obtain ⟨data, lost, length, front, readsFrom⟩ := readBuffer_readsFrom
      (show Tracks medium.toPositioned { handle with cursor := offset } from tracks) succeeded
    exact ⟨data, lost, length, front, readsFrom.of_errors rfl⟩

end Handle

/-- Offset from which an operation reads, if it is a read. -/
def Operation.readStart? (handle : Handle σ) : Operation σ → Option Nat
  | read _ | readDefault | readBuffer _ | streamRead _ => some handle.cursor
  | readAt _ target => some target.toNat
  | readBufferAt _ target => some target
  | _ => none

/-- A read returned data, either as its value or at the front of the buffer that it was given. -/
inductive Response.Returns (response : Response σ) (data : List UInt8) : Prop
  | value {bytes : Bytes} (succeeded : response.outcome.result = .ok (.bytes bytes))
      (all : bytes.toList = data)
  | count {buffer : Bytes} (succeeded : response.outcome.result = .ok (.count data.length))
      (held : response.buffer = some buffer) (front : data <+: buffer.toList)

namespace Response

theorem returns_of {outcome : Outcome σ (Handle σ) Bytes} {bytes : Bytes}
    (succeeded : outcome.result = .ok bytes) : (of outcome .bytes).Returns bytes.toList := by
  have result : (of outcome .bytes).outcome.result = .ok (.bytes bytes) := by
    rw [of, Outcome.map, succeeded]
    rfl
  exact .value result rfl

theorem returns_ofRead {read : BufferRead σ} {data : List UInt8}
    (succeeded : read.outcome.result = .ok data.length) (front : data <+: read.buffer.toList) :
    (ofRead read).Returns data := by
  have result : (ofRead read).outcome.result = .ok (.count data.length) := by
    rw [ofRead, Outcome.map, succeeded]
    rfl
  exact .count result rfl front

end Response

namespace Operation

variable [Device σ] {host : Host σ} {patience : Nat} {device : σ} {handle : Handle σ}

/-- In every state of a session with a device that obeys the laws of a medium, a read that succeeds
returns the bytes of the medium from its offset on, apart from zeros in ranges that it reports to
have given up; these lie inside of what it returns and are recorded. The read moves the offset of
the handle behind what it returns. -/
theorem successful_read_delivers (medium : Medium σ) (obeys : medium.Obeys device)
    (within : InSession host patience device handle) {operation : Operation σ} {start : Nat}
    {value : Value} (reads : operation.readStart? handle = some start)
    (succeeded : (operation.apply host patience handle).outcome.result = .ok value) :
    ∃ data lost, (operation.apply host patience handle).Returns data ∧
      Handle.ReadsFrom medium.byteAt start handle
        (operation.apply host patience handle).outcome.state
        (operation.apply host patience handle).outcome.events lost data := by
  have tracks : handle.Tracks medium.toPositioned := within.tracks obeys
  cases operation with
  | read size =>
    cases reads
    obtain ⟨bytes, read, _⟩ := Outcome.ok_of_map succeeded
    obtain ⟨lost, readsFrom⟩ := Handle.read_readsFrom tracks read
    exact ⟨bytes.toList, lost, Response.returns_of read, readsFrom⟩
  | readDefault =>
    cases reads
    obtain ⟨bytes, read, _⟩ := Outcome.ok_of_map succeeded
    obtain ⟨lost, readsFrom⟩ := Handle.read_readsFrom tracks read
    exact ⟨bytes.toList, lost, Response.returns_of read, readsFrom⟩
  | readAt size target =>
    cases reads
    obtain ⟨bytes, read, _⟩ := Outcome.ok_of_map succeeded
    obtain ⟨lost, readsFrom⟩ := Handle.readAt_readsFrom tracks read
    exact ⟨bytes.toList, lost, Response.returns_of read, readsFrom⟩
  | readBuffer bytes =>
    cases reads
    obtain ⟨count, read, _⟩ := Outcome.ok_of_map succeeded
    obtain ⟨data, lost, rfl, front, readsFrom⟩ := Handle.readBuffer_readsFrom tracks read
    exact ⟨data, lost, Response.returns_ofRead read front, readsFrom⟩
  | readBufferAt bytes target =>
    cases reads
    obtain ⟨count, read, _⟩ := Outcome.ok_of_map succeeded
    obtain ⟨data, lost, rfl, front, readsFrom⟩ := Handle.readBufferAt_readsFrom tracks read
    exact ⟨data, lost, Response.returns_ofRead read front, readsFrom⟩
  | streamRead bytes =>
    cases reads
    obtain ⟨count, read, _⟩ := Outcome.ok_of_map succeeded
    obtain ⟨data, lost, rfl, front, readsFrom⟩ := Handle.readBuffer_readsFrom tracks read
    exact ⟨data, lost, Response.returns_ofRead read front, readsFrom⟩
  | _ => simp [readStart?] at reads

/-- A damaged device is read around its damage. What the failed read wrote is not delivered. -/
theorem damaged_delivers :
    let handle := tolerantHandle.startSession "drive" .damaged
    let response := apply Host.empty 0 handle (.readBuffer (.replicate 8 0x77))
    response.outcome.result = .ok (.count 8) ∧
      response.buffer.map Bytes.toList = some [0, 1, 0, 0, 0, 0, 6, 7] ∧
      response.outcome.state.errors = ⟨[⟨2, 4⟩]⟩ ∧
      ∃ data lost, response.Returns data ∧
        Handle.ReadsFrom (Content.pattern 12).byteAt 0 handle response.outcome.state
          response.outcome.events lost data := by
  refine ⟨rfl, by decide, by decide, ?_⟩
  exact successful_read_delivers (ScriptedDevice.medium (.pattern 12))
    ScriptedDevice.obeys_damaged inSession_damaged rfl rfl

end Operation

end StorageMedia
