import StorageMedia.Proofs.Handle.Bounds
import StorageMedia.Proofs.Stream.Session

/-! # Handles as ideal streams

An open handle on a steady medium is in the state of an ideal stream: its offset is that of the
stream, and no range is recorded. Each lemma says how an operation goes on from such a state: its
result, and the offset that it leaves. Reads go on in one way only, no matter how many interruptions
are waited out, as soon as these are enough.
-/

namespace StorageMedia

/-- A call gives the same for every patience that is enough. -/
def Eventually {α : Type} (call : Nat → α) (value : α) : Prop :=
  ∃ enough, ∀ patience, enough ≤ patience → call patience = value

namespace Eventually

variable {α β γ : Type} {call : Nat → α} {value : α} {other : Nat → β} {another : β}

/-- A call that does not depend on the patience gives the same at once. -/
theorem of_forall (same : ∀ patience, call patience = value) : Eventually call value :=
  ⟨0, fun patience _ => same patience⟩

/-- What gives the same whenever a call does gives the same for enough patience. -/
theorem imp (eventually : Eventually call value)
    (same : ∀ patience, call patience = value → other patience = another) :
    Eventually other another := by
  obtain ⟨enough, once⟩ := eventually
  exact ⟨enough, fun patience bound => same patience (once patience bound)⟩

/-- Two calls that both give the same give a call that does. -/
theorem combine {both : Nat → γ} {result : γ} (first : Eventually call value)
    (second : Eventually other another)
    (same : ∀ patience, call patience = value → other patience = another → both patience = result) :
    Eventually both result := by
  obtain ⟨enough, once⟩ := first
  obtain ⟨least, twice⟩ := second
  refine ⟨max enough least, fun patience bound => same patience ?_ ?_⟩
  · exact once patience (Nat.le_trans (Nat.le_max_left _ _) bound)
  · exact twice patience (Nat.le_trans (Nat.le_max_right _ _) bound)

end Eventually

namespace Filling

/-- A buffer of which some bytes at its front are filled. -/
def behind (buffer : Bytes) (count : Nat) : Filling :=
  { filled := (buffer.take count).stretches.reverse, rest := buffer.drop count }

/-- The bytes that are filled stay in front of whatever the rest becomes. -/
theorem toList_bytes_behind (buffer rest : Bytes) (count : Nat) :
    (bytes { behind buffer count with rest }).toList =
      buffer.toList.take count ++ rest.toList := by
  rw [bytes, behind, List.reverse_reverse, Bytes.toList_append]
  exact congrArg (· ++ rest.toList) (Bytes.toList_take ..)

end Filling

variable {σ : Type} [Device σ]

namespace Handle

variable {medium : SteadyMedium σ} {handle : Handle σ} {description : Description}

/-- The handle is open on a steady medium, nothing was given up, and no abort is signalled. -/
structure Streams (medium : SteadyMedium σ) (handle : Handle σ) : Prop where
  opened : ∃ session, handle.session = some session ∧ session.Steady medium
  running : handle.aborted = false
  whole : handle.errors = {}
  reachable : handle.cursor ≤ maxSeekOffset

/-- An outcome from which a stream goes on, with its result and the offset that it leaves. -/
structure GoesOn {α : Type} (medium : SteadyMedium σ) (handle : Handle σ)
    (outcome : Outcome σ (Handle σ) α) (result : Result α) (offset : Nat) : Prop where
  gives : outcome.result = result
  returned : result ≠ .pending
  streams : outcome.state.Streams medium
  leaves : outcome.state.cursor = offset
  options : outcome.state.options = handle.options

/-- The session of the handle answers what the description says. -/
def Tells (handle : Handle σ) (description : Description) : Prop :=
  ∀ session, handle.session = some session → session.Tells description

theorem Streams.exists_description (streams : handle.Streams medium) :
    ∃ description : Description, description.IsOf medium ∧ handle.Tells description := by
  obtain ⟨session, opened, steady⟩ := streams.opened
  obtain ⟨description, isOf, tells⟩ := steady.exists_description
  refine ⟨description, isOf, fun other known => ?_⟩
  obtain rfl := Option.some.inj (opened.symm.trans known)
  exact tells

theorem Streams.isOpen (streams : handle.Streams medium) : handle.isOpen = true := by
  obtain ⟨session, opened, _⟩ := streams.opened
  simp [Handle.isOpen, opened]

theorem Streams.moved (streams : handle.Streams medium) {target : Nat}
    (reachable : target ≤ maxSeekOffset) : Streams medium { handle with cursor := target } :=
  ⟨streams.opened, streams.running, streams.whole, reachable⟩

namespace GoesOn

variable {α β : Type} {outcome : Outcome σ (Handle σ) α} {result : Result α} {offset : Nat}

/-- A refused operation leaves a stream as it is. -/
theorem refuse (streams : handle.Streams medium) (cause : Error) :
    GoesOn medium handle (.refuse cause handle : Outcome σ (Handle σ) α) (.error cause)
      handle.cursor :=
  ⟨rfl, by rintro ⟨⟩, streams, rfl, rfl⟩

theorem answer (streams : handle.Streams medium) (value : α) :
    GoesOn medium handle (.answer value handle) (.ok value) handle.cursor :=
  ⟨rfl, by rintro ⟨⟩, streams, rfl, rfl⟩

theorem map (goesOn : GoesOn medium handle outcome result offset) (f : α → β) :
    GoesOn medium handle (outcome.map f) (result.map f) offset where
  gives := congrArg (Result.map f) goesOn.gives
  returned := by
    have returned := goesOn.returned
    cases result <;> simp_all [Result.map]
  streams := goesOn.streams
  leaves := goesOn.leaves
  options := goesOn.options

/-- A second operation goes on from what the first one left. -/
theorem andThen {value : α} {rest : α → Handle σ → Outcome σ (Handle σ) β} {final : Result β}
    {next : Nat} (first : GoesOn medium handle outcome (.ok value) offset)
    (second : GoesOn medium outcome.state (rest value outcome.state) final next) :
    GoesOn medium handle (outcome.andThen rest) final next := by
  rw [Outcome.andThen_of_ok first.gives]
  exact ⟨second.gives, second.returned, second.streams, second.leaves,
    second.options.trans first.options⟩

/-- A failure of the first operation is the end of both. -/
theorem andThen_error {cause : Error} {rest : α → Handle σ → Outcome σ (Handle σ) β}
    (first : GoesOn medium handle outcome (.error cause) offset) :
    GoesOn medium handle (outcome.andThen rest) (.error cause) offset := by
  simp only [Outcome.andThen, first.gives]
  exact ⟨rfl, by rintro ⟨⟩, first.streams, first.leaves, first.options⟩

end GoesOn

/-! ## Questions -/

/-- An operation on the session that keeps it steady keeps the stream. -/
theorem onSession_goesOn {α : Type} (streams : handle.Streams medium)
    {run : Session σ → Outcome σ (Session σ) α} {result : Result α}
    (steady : ∀ session, handle.session = some session → session.Steady medium →
      (run session).state.Steady medium)
    (calm : ∀ session, session.Steady medium → ∀ event ∈ (run session).events,
      event.raises = false)
    (answers : ∀ session, handle.session = some session → (run session).result = result)
    (returned : result ≠ .pending) :
    GoesOn medium handle (handle.onSession run) result handle.cursor := by
  obtain ⟨session, opened, before⟩ := streams.opened
  have after := steady session opened before
  simp only [onSession, opened]
  exact ⟨answers session opened, returned, ⟨⟨_, rfl, after⟩,
    (aborted_resume (calm session before) handle).trans streams.running, streams.whole,
    streams.reachable⟩, rfl, rfl⟩

theorem geometry_goesOn (streams : handle.Streams medium) (tells : handle.Tells description) :
    GoesOn medium handle handle.geometry (.ok description.geometry) handle.cursor :=
  onSession_goesOn streams (fun _ _ steady => steady.measure.2)
    (fun _ steady => steady.measure_calm) (fun session opened => (tells session opened).geometry) (by rintro ⟨⟩)

theorem mediaInformation_goesOn (streams : handle.Streams medium)
    (tells : handle.Tells description) :
    GoesOn medium handle handle.mediaInformation description.information handle.cursor := by
  obtain ⟨session, opened, _⟩ := streams.opened
  refine onSession_goesOn streams (fun _ _ steady => steady.identify.2)
    (fun _ steady => Session.mediaInformation_calm (medium.calm steady.tracks.obeys))
    (fun session opened => (tells session opened).information) ?_
  rw [← (tells session opened).information]
  exact session.mediaInformation_ne_pending

theorem tableOfContents_goesOn (streams : handle.Streams medium)
    (tells : handle.Tells description) :
    GoesOn medium handle handle.tableOfContents description.contents handle.cursor := by
  obtain ⟨session, opened, _⟩ := streams.opened
  refine onSession_goesOn streams (fun _ _ steady => steady.survey.2)
    (fun _ steady => Session.tableOfContents_calm (medium.calm steady.tracks.obeys))
    (fun session opened => (tells session opened).contents) ?_
  rw [← (tells session opened).contents]
  exact session.tableOfContents_ne_pending

/-- The media size is that of the medium. -/
theorem mediaSize_goesOn (streams : handle.Streams medium) :
    ∃ mediaSize : UInt64, mediaSize.toNat = medium.size ∧
      GoesOn medium handle handle.mediaSize (.ok mediaSize) handle.cursor := by
  obtain ⟨description, isOf, tells⟩ := streams.exists_description
  exact ⟨description.geometry.mediaSize, isOf.geometry.mediaSize,
    (geometry_goesOn streams tells).map _⟩

/-! ## Seeks -/

theorem seekFrom_goesOn (streams : handle.Streams medium) {base : Nat} (distance : Int)
    (origin : Origin) (reachable : base ≤ maxSeekOffset) :
    (0 ≤ base + distance ∧ base + distance ≤ maxSeekOffset →
      GoesOn medium handle (handle.seekFrom base distance origin) (.ok (base + distance).toNat)
        (base + distance).toNat) ∧
    (¬ (0 ≤ base + distance ∧ base + distance ≤ maxSeekOffset) →
      GoesOn medium handle (handle.seekFrom base distance origin)
        (.error (.outOfBounds distance origin)) handle.cursor) := by
  constructor
  · intro bounds
    simp only [seekFrom]
    rw [if_pos ⟨reachable, bounds⟩]
    exact ⟨rfl, by rintro ⟨⟩, streams.moved (by omega), rfl, rfl⟩
  · intro outside
    simp only [seekFrom]
    rw [if_neg fun bounds => outside bounds.2]
    exact .refuse streams _

/-- A seek goes to the distance from what its origin stands for, if it reaches there. -/
theorem seek_goesOn (streams : handle.Streams medium) (distance : Int) (origin : Origin) :
    let target := Ideal.base medium.content handle.cursor origin + distance
    (0 ≤ target ∧ target ≤ maxSeekOffset →
      GoesOn medium handle (handle.seek distance origin) (.ok target.toNat) target.toNat) ∧
    (¬ (0 ≤ target ∧ target ≤ maxSeekOffset) →
      GoesOn medium handle (handle.seek distance origin) (.error (.outOfBounds distance origin))
        handle.cursor) := by
  cases origin with
  | start =>
    simp only [seek, streams.isOpen, if_true]
    exact seekFrom_goesOn streams distance .start (Nat.zero_le _)
  | current =>
    simp only [seek, streams.isOpen, if_true]
    exact seekFrom_goesOn streams distance .current streams.reachable
  | mediaEnd =>
    obtain ⟨mediaSize, size, sized⟩ := mediaSize_goesOn streams
    have further := seekFrom_goesOn sized.streams distance .mediaEnd medium.size_le
    rw [← size, sized.leaves] at further
    have seeks : handle.seek distance .mediaEnd = handle.mediaSize.andThen fun size handle =>
        handle.seekFrom size.toNat distance .mediaEnd := rfl
    rw [seeks, Ideal.base, show medium.content.size = mediaSize.toNat from size.symm]
    exact ⟨fun inside => sized.andThen (further.1 inside),
      fun outside => sized.andThen (further.2 outside)⟩

theorem seekStart_goesOn (streams : handle.Streams medium) {target : Nat}
    (reachable : target ≤ maxSeekOffset) :
    GoesOn medium handle (handle.seekStart target) (.ok target) target := by
  rw [seekStart, if_pos reachable, seek_start_of_open streams.isOpen reachable]
  exact ⟨rfl, by rintro ⟨⟩, streams.moved reachable, rfl, rfl⟩

/-! ## Reads -/

/-- A read filled the front of a buffer with the bytes from an offset of the medium on. -/
structure Fills (medium : SteadyMedium σ) (handle : Handle σ) (bytes : Bytes) (offset : Nat)
    (read : BufferRead σ) : Prop where
  goesOn : GoesOn medium handle read.outcome (.ok (medium.content.slice offset bytes.size).length)
    (offset + (medium.content.slice offset bytes.size).length)
  buffer : read.buffer.toList = medium.content.slice offset bytes.size ++
    bytes.toList.drop (medium.content.slice offset bytes.size).length

omit [Device σ] in
private theorem slice_clamped [Device σ] {medium : SteadyMedium σ} {mediaSize : UInt64}
    (size : mediaSize.toNat = medium.size) (handle : Handle σ) (count : Nat) :
    medium.content.slice handle.cursor (handle.clampedSize mediaSize count) =
      medium.content.slice handle.cursor count := by
  simp only [Content.slice, SteadyMedium.content, clampedSize, size]
  congr 2
  omega

section ReadBuffer

variable {session : Session σ} {geometry : Geometry} {bytes : Bytes}

private theorem fills_outside (streams : handle.Streams medium)
    (opened : handle.session = some session) (steady : session.Steady medium)
    (found : session.geometry.result = .ok geometry)
    (none : handle.clampedSize geometry.mediaSize bytes.size = 0)
    (empty : medium.content.slice handle.cursor bytes.size = []) :
    ∃ read, Eventually (fun patience => handle.readBuffer patience bytes) read ∧
      Fills medium handle bytes handle.cursor read := by
  have reads (patience : Nat) : handle.readBuffer patience bytes =
      { buffer := bytes
        outcome :=
          { result := .ok 0
            state := handle.resume session.geometry
            events := session.geometry.events } } := by
    simp only [readBuffer, opened, found]
    exact if_pos none
  refine ⟨_, .of_forall reads, ⟨?_, by rintro ⟨⟩, ?_, ?_, rfl⟩, ?_⟩
  · rw [empty]
    rfl
  · exact ⟨⟨_, rfl, steady.measure.2⟩,
      (aborted_resume steady.measure_calm handle).trans streams.running, streams.whole,
      streams.reachable⟩
  · rw [empty]
    rfl
  · rw [empty]
    rfl

private theorem fills_inside (streams : handle.Streams medium)
    (opened : handle.session = some session) (steady : session.Steady medium)
    (found : session.geometry.result = .ok geometry)
    (size : geometry.mediaSize.toNat = medium.size)
    (some : 0 < handle.clampedSize geometry.mediaSize bytes.size) :
    ∃ read, Eventually (fun patience => handle.readBuffer patience bytes) read ∧
      Fills medium handle bytes handle.cursor read := by
  obtain ⟨taken, _, fits⟩ := clamped_bounds rfl some
  have slice := slice_clamped size handle bytes.size
  have length := Content.length_slice medium.content handle.cursor bytes.size
  have room : min bytes.size (medium.content.size - handle.cursor) =
      handle.clampedSize geometry.mediaSize bytes.size := by
    rw [clampedSize, size, Nat.min_comm]
    rfl
  rw [room] at length
  generalize clamped : handle.clampedSize geometry.mediaSize bytes.size = count at *
  rw [size] at fits
  rw [← taken] at fits
  obtain ⟨final, enough, ends, undisturbed, same, filled⟩ :=
    Transfer.read_completes steady.measure.2.tracks handle.options handle.cursor (bytes.take count)
      fits
  rw [taken] at ends filled fits
  have reads (patience : Nat) (bound : enough ≤ patience) : handle.readBuffer patience bytes =
      { buffer := final.buffer.bytes ++ bytes.drop count
        outcome :=
          { result := .ok count
            state := handle.afterTransfer final (.ok count)
            events := session.geometry.events ++ final.events.reverse } } := by
    have running := (aborted_resume steady.measure_calm handle).trans streams.running
    simp only [readBuffer, opened, found, clampedSize_resume, clamped, Nat.ne_of_gt some, if_false,
      running, options_resume, cursor_resume, ends patience bound, afterTransfer_resume]
  have onward : (handle.afterTransfer final (.ok count)).Streams medium := by
    refine ⟨⟨_, rfl, steady.measure.2.of_knowledge undisturbed.tracks.session same⟩,
      undisturbed.running, ?_, Nat.le_trans fits medium.size_le⟩
    rw [afterTransfer, undisturbed.whole, streams.whole]
    rfl
  refine ⟨_, ⟨enough, reads⟩, ⟨?_, by rintro ⟨⟩, onward, ?_, rfl⟩, ?_⟩
  · rw [length]
  · rw [length]
    rfl
  · rw [Bytes.toList_append, Bytes.toList_drop, filled, slice, length]

end ReadBuffer

theorem readBuffer_fills (streams : handle.Streams medium) (bytes : Bytes) :
    ∃ read, Eventually (fun patience => handle.readBuffer patience bytes) read ∧
      Fills medium handle bytes handle.cursor read := by
  obtain ⟨session, opened, steady⟩ := streams.opened
  obtain ⟨geometry, found, has⟩ := steady.measure.1
  have size : geometry.mediaSize.toNat = medium.size := has.mediaSize
  rcases Nat.eq_zero_or_pos (handle.clampedSize geometry.mediaSize bytes.size) with none | some
  · have empty := slice_clamped size handle bytes.size
    rw [none, Content.slice, Nat.zero_min] at empty
    exact fills_outside streams opened steady found none empty.symm
  · exact fills_inside streams opened steady found size some

/-- A read gave the bytes from an offset of the medium on. -/
def Reads (medium : SteadyMedium σ) (handle : Handle σ) (offset size : Nat)
    (outcome : Outcome σ (Handle σ) Bytes) : Prop :=
  ∃ value : Bytes, value.toList = medium.content.slice offset size ∧
    GoesOn medium handle outcome (.ok value)
      (offset + (medium.content.slice offset size).length)

theorem readUpTo_reads (streams : handle.Streams medium) (size : Nat) :
    ∃ outcome, Eventually (fun patience => handle.readUpTo patience size) outcome ∧
      Reads medium handle handle.cursor size outcome := by
  obtain ⟨mediaSize, whole, sized⟩ := mediaSize_goesOn streams
  obtain ⟨read, ⟨enough, reads⟩, fills⟩ := readBuffer_fills sized.streams
    (.replicate (handle.mediaSize.state.clampedSize mediaSize size) 0)
  have data := fills.buffer
  have goesOn := fills.goesOn.map fun count => read.buffer.take count
  rw [Bytes.size_replicate, slice_clamped whole, sized.leaves] at data goesOn
  refine ⟨handle.mediaSize.andThen fun _ _ => read.outcome.map fun count => read.buffer.take count,
    ⟨enough, fun patience bound => ?_⟩,
    read.buffer.take (medium.content.slice handle.cursor size).length, ?_, sized.andThen goesOn⟩
  · simp only [readUpTo, Outcome.andThen_of_ok sized.gives, reads patience bound]
  · rw [Bytes.toList_take, data, List.take_left]

theorem read_reads (streams : handle.Streams medium) {size : Int} {checked : Nat}
    (valid : checkReadSize size = .ok checked) :
    ∃ outcome, Eventually (fun patience => handle.read patience size) outcome ∧
      Reads medium handle handle.cursor checked outcome := by
  simp only [read, valid]
  exact readUpTo_reads streams checked

/-- A refused read leaves a stream as it is. -/
theorem read_refused {size : Int} {cause : Error} (invalid : checkReadSize size = .error cause)
    (patience : Nat) (handle : Handle σ) : handle.read patience size = .refuse cause handle := by
  simp only [read, invalid]

theorem readAt_reads (streams : handle.Streams medium) {size target : Int} {checked : Nat}
    (valid : checkReadSize size = .ok checked) (positive : 0 ≤ target)
    (reachable : target ≤ maxSeekOffset) :
    ∃ outcome, Eventually (fun patience => handle.readAt patience size target) outcome ∧
      Reads medium handle target.toNat checked outcome := by
  have sought : handle.seek target .start =
      .answer target.toNat { handle with cursor := target.toNat } := by
    have same := seek_start_of_open streams.isOpen (show target.toNat ≤ maxSeekOffset by omega)
    rwa [Int.toNat_of_nonneg positive] at same
  obtain ⟨outcome, ⟨enough, reads⟩, value, data, goesOn⟩ :=
    readUpTo_reads (streams.moved (show target.toNat ≤ maxSeekOffset by omega)) checked
  refine ⟨outcome, ⟨enough, fun patience bound => ?_⟩, value, data, goesOn.gives,
    goesOn.returned, goesOn.streams, goesOn.leaves, goesOn.options⟩
  simp only [readAt, valid, if_neg (Int.not_lt.mpr positive), sought, Outcome.andThen_answer]
  exact reads patience bound

theorem readBufferAt_fills (streams : handle.Streams medium) (bytes : Bytes) {target : Nat}
    (reachable : target ≤ maxSeekOffset) :
    ∃ read, Eventually (fun patience => handle.readBufferAt patience bytes target) read ∧
      Fills medium handle bytes target read := by
  have sought : handle.seekStart target = .answer target { handle with cursor := target } := by
    rw [seekStart, if_pos reachable]
    exact seek_start_of_open streams.isOpen reachable
  obtain ⟨read, ⟨enough, reads⟩, goesOn, buffer⟩ := readBuffer_fills (streams.moved reachable) bytes
  refine ⟨read, ⟨enough, fun patience bound => ?_⟩, ⟨goesOn.gives, goesOn.returned,
    goesOn.streams, goesOn.leaves, goesOn.options⟩, buffer⟩
  have same : Handle.readBuffer patience { handle with cursor := target } bytes = read :=
    reads patience bound
  simp only [readBufferAt, sought, Outcome.answer, same]
  rfl

/-! ## Filling a whole buffer -/

/-- A read that must fill its buffer gave the bytes from the offset of the handle on, and failed if
these are too few. -/
structure FillsWhole (medium : SteadyMedium σ) (handle : Handle σ) (bytes : Bytes)
    (after : Bytes × Outcome σ (Handle σ) Unit) : Prop where
  buffer : after.1.toList = medium.content.slice handle.cursor bytes.size ++
    bytes.toList.drop (medium.content.slice handle.cursor bytes.size).length
  goesOn : GoesOn medium handle after.2
    (if (medium.content.slice handle.cursor bytes.size).length = bytes.size then .ok ()
      else .error (.platform .fillingBuffer .unfilledBuffer))
    (handle.cursor + (medium.content.slice handle.cursor bytes.size).length)

section Fill

variable {patience calls : Nat} {filling : Filling} {events : List (Event σ)} {bytes : Bytes}
  {read second : BufferRead σ}

private theorem fill_of_full (full : filling.rest.size = 0) :
    handle.fill patience (calls + 1) filling events =
      (filling, { result := .ok (), state := handle, events }) := by
  rw [fill, if_pos full]

private theorem fill_of_end (some : filling.rest.size ≠ 0)
    (reads : handle.readBuffer patience filling.rest = read)
    (result : read.outcome.result = .ok 0) :
    handle.fill patience (calls + 1) filling events =
      ({ filling with rest := read.buffer },
        { result := .error (.platform .fillingBuffer .unfilledBuffer)
          state := read.outcome.state, events := events ++ read.outcome.events }) := by
  rw [fill, if_neg some, reads]
  simp only [result]

private theorem readExact_of_read {count : Nat} (some : bytes.size ≠ 0)
    (reads : handle.readBuffer patience bytes = read) (result : read.outcome.result = .ok count)
    (positive : count ≠ 0) :
    ∃ calls, handle.readExact patience bytes =
      ((read.outcome.state.fill patience (calls + 1) (.behind read.buffer count)
          read.outcome.events).1.bytes,
        (read.outcome.state.fill patience (calls + 1) (.behind read.buffer count)
          read.outcome.events).2) := by
  refine ⟨bytes.size - 1 + patience, ?_⟩
  simp only [readExact]
  rw [fill, if_neg some, reads, show bytes.size + patience = bytes.size - 1 + patience + 1 by omega]
  simp only [result, Filling.behind, Bytes.take, Bytes.drop, List.reverse_reverse, List.nil_append]

private theorem fillsWhole_of_empty (streams : handle.Streams medium) (empty : bytes.size = 0) :
    ∃ after, (∀ patience, handle.readExact patience bytes = after) ∧
      FillsWhole medium handle bytes after := by
  have none : medium.content.slice handle.cursor bytes.size = [] := by
    rw [empty, Content.slice, Nat.zero_min]
    rfl
  have ends (patience : Nat) : handle.readExact patience bytes =
      (Filling.bytes { rest := bytes }, { result := .ok (), state := handle, events := [] }) := by
    simp only [readExact]
    rw [fill_of_full empty]
  refine ⟨_, ends, by rw [none]; rfl, ?_⟩
  have fits : ([] : List UInt8).length = bytes.size := empty.symm
  rw [none, if_pos fits]
  exact .answer streams ()

private theorem fillsWhole_of_none (fills : Fills medium handle bytes handle.cursor read)
    (some : bytes.size ≠ 0) (none : medium.content.slice handle.cursor bytes.size = []) :
    ∃ after, (∀ patience, handle.readBuffer patience bytes = read →
        handle.readExact patience bytes = after) ∧
      FillsWhole medium handle bytes after := by
  obtain ⟨goesOn, buffer⟩ := fills
  have short : ([] : List UInt8).length ≠ bytes.size := some.symm
  rw [none] at goesOn buffer
  have ends (patience : Nat) (first : handle.readBuffer patience bytes = read) :
      handle.readExact patience bytes =
        (Filling.bytes { rest := read.buffer },
          { result := .error (.platform .fillingBuffer .unfilledBuffer)
            state := read.outcome.state, events := [] ++ read.outcome.events }) := by
    simp only [readExact]
    rw [fill_of_end some first goesOn.gives]
  refine ⟨_, ends, by rw [none]; exact buffer, ?_⟩
  rw [none, if_neg short]
  exact ⟨rfl, by rintro ⟨⟩, goesOn.streams, goesOn.leaves, goesOn.options⟩

private theorem fillsWhole_of_all (fills : Fills medium handle bytes handle.cursor read)
    (some : bytes.size ≠ 0)
    (all : (medium.content.slice handle.cursor bytes.size).length = bytes.size) :
    ∃ after, (∀ patience, handle.readBuffer patience bytes = read →
        handle.readExact patience bytes = after) ∧
      FillsWhole medium handle bytes after := by
  obtain ⟨goesOn, buffer⟩ := fills
  have full : (Filling.behind read.buffer bytes.size).rest.size = 0 := by
    have length := congrArg List.length buffer
    rw [List.length_append, List.length_drop, Bytes.length_toList, Bytes.length_toList] at length
    rw [Filling.behind, Bytes.size_drop]
    omega
  have ends (patience : Nat) (first : handle.readBuffer patience bytes = read) :
      handle.readExact patience bytes =
        ((Filling.behind read.buffer bytes.size).bytes,
          { result := .ok (), state := read.outcome.state, events := read.outcome.events }) := by
    obtain ⟨calls, onward⟩ := readExact_of_read some first (all ▸ goesOn.gives) some
    rw [onward, fill_of_full full]
  refine ⟨_, ends, ?_, ?_⟩
  · rw [← buffer, ← List.take_append_drop bytes.size read.buffer.toList, ← Bytes.toList_drop]
    exact Filling.toList_bytes_behind ..
  · rw [if_pos all]
    exact ⟨rfl, by rintro ⟨⟩, goesOn.streams, goesOn.leaves, goesOn.options⟩

private theorem fillsWhole_of_some (fills : Fills medium handle bytes handle.cursor read)
    {count : Nat} (length : (medium.content.slice handle.cursor bytes.size).length = count)
    (positive : count ≠ 0) (short : count < bytes.size)
    (further : Fills medium read.outcome.state (read.buffer.drop count) read.outcome.state.cursor
      second) :
    ∃ after, (∀ patience, handle.readBuffer patience bytes = read →
        read.outcome.state.readBuffer patience (read.buffer.drop count) = second →
        handle.readExact patience bytes = after) ∧
      FillsWhole medium handle bytes after := by
  obtain ⟨goesOn, buffer⟩ := fills
  obtain ⟨onward, same⟩ := further
  have outside : medium.content.slice read.outcome.state.cursor
      (read.buffer.drop count).size = [] := by
    apply List.eq_nil_of_length_eq_zero
    rw [Content.length_slice] at length ⊢
    rw [goesOn.leaves, Content.length_slice]
    omega
  rw [outside] at onward same
  have rest : (Filling.behind read.buffer count).rest.size ≠ 0 := by
    have size := congrArg List.length buffer
    rw [List.length_append, List.length_drop, Bytes.length_toList, Bytes.length_toList] at size
    rw [Filling.behind, Bytes.size_drop]
    omega
  have ends (patience : Nat) (first : handle.readBuffer patience bytes = read)
      (last : read.outcome.state.readBuffer patience (read.buffer.drop count) = second) :
      handle.readExact patience bytes =
        (Filling.bytes { Filling.behind read.buffer count with rest := second.buffer },
          { result := .error (.platform .fillingBuffer .unfilledBuffer)
            state := second.outcome.state
            events := read.outcome.events ++ second.outcome.events }) := by
    obtain ⟨calls, begins⟩ :=
      readExact_of_read (by omega) first (length ▸ goesOn.gives) positive
    rw [begins, fill_of_end rest last onward.gives]
  refine ⟨_, ends, ?_, ?_⟩
  · rw [← buffer, Filling.toList_bytes_behind, same, Bytes.toList_drop]
    exact List.take_append_drop count read.buffer.toList
  · rw [if_neg (by omega)]
    exact ⟨rfl, by rintro ⟨⟩, onward.streams, onward.leaves.trans goesOn.leaves,
      onward.options.trans goesOn.options⟩

end Fill

/-- A read that must fill its buffer ends after at most two reads, since a read stops short only at
the end. -/
theorem readExact_fills (streams : handle.Streams medium) (bytes : Bytes) :
    ∃ after, Eventually (fun patience => handle.readExact patience bytes) after ∧
      FillsWhole medium handle bytes after := by
  by_cases empty : bytes.size = 0
  · obtain ⟨after, ends, whole⟩ := fillsWhole_of_empty streams empty
    exact ⟨after, .of_forall ends, whole⟩
  obtain ⟨read, reads, fills⟩ := readBuffer_fills streams bytes
  by_cases none : medium.content.slice handle.cursor bytes.size = []
  · obtain ⟨after, ends, whole⟩ := fillsWhole_of_none fills empty none
    exact ⟨after, reads.imp ends, whole⟩
  by_cases all : (medium.content.slice handle.cursor bytes.size).length = bytes.size
  · obtain ⟨after, ends, whole⟩ := fillsWhole_of_all fills empty all
    exact ⟨after, reads.imp ends, whole⟩
  have short : (medium.content.slice handle.cursor bytes.size).length < bytes.size := by
    rw [Content.length_slice] at all ⊢
    omega
  obtain ⟨second, others, further⟩ := readBuffer_fills fills.goesOn.streams
    (read.buffer.drop (medium.content.slice handle.cursor bytes.size).length)
  obtain ⟨after, ends, whole⟩ := fillsWhole_of_some fills rfl
    (fun zero => none (List.eq_nil_of_length_eq_zero zero)) short further
  exact ⟨after, reads.combine others ends, whole⟩

end Handle

end StorageMedia
