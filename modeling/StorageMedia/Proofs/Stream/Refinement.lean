import StorageMedia.Proofs.Stream.Handle
import StorageMedia.Proofs.Stream.Scripted

/-! # Handles refine ideal streams

On a steady medium every operation of a stream, in any order, is answered exactly as the ideal
stream over the same bytes answers it. In how many pieces a device reads, where it is interrupted
and when the handle finds out the geometry does not show in any answer.
-/

namespace StorageMedia

variable {σ : Type} [Device σ] {medium : SteadyMedium σ} {handle : Handle σ}
  {description : Description}

open Handle

/-- A response to an operation on a handle gives the answer, and the stream goes on from it. -/
structure Response.Agrees (medium : SteadyMedium σ) (handle : Handle σ) (response : Response σ)
    (answer : Answer) : Prop where
  same : response.answer = answer
  returned : response.outcome.result ≠ .pending
  streams : response.outcome.state.Streams medium
  options : response.outcome.state.options = handle.options

namespace Response

variable {α : Type} {offset : Nat}

omit [Device σ] in
theorem of_map {β : Type} (outcome : Outcome σ (Handle σ) α) (f : α → β) (value : β → Value) :
    of (outcome.map f) value = of outcome fun element => value (f element) := by
  cases result : outcome.result <;> simp [of, Outcome.map, Result.map, result]

theorem agrees_of {outcome : Outcome σ (Handle σ) α} {result : Result α}
    (goesOn : GoesOn medium handle outcome result offset) (value : α → Value)
    (plain : ∀ element, (value element).plain = value element) :
    (of outcome value).Agrees medium handle { result := result.map value, offset } := by
  have mapped := goesOn.map value
  refine ⟨?_, ?_, goesOn.streams, goesOn.options⟩
  · have unchanged : (result.map value).map Value.plain = result.map value := by
      cases result <;> simp [Result.map, plain]
    simp only [answer, of, mapped.gives, unchanged, Outcome.map_state, goesOn.leaves,
      goesOn.streams.whole]
    rfl
  · exact mapped.gives ▸ mapped.returned

theorem agrees_refuse (streams : handle.Streams medium) (cause : Error) (value : α → Value) :
    (of (.refuse cause handle) value).Agrees medium handle
      { result := .error cause, offset := handle.cursor } := by
  refine ⟨?_, by rintro ⟨⟩, streams, rfl⟩
  simp only [answer, of, Outcome.map, Outcome.refuse, Result.map, streams.whole]
  rfl

theorem agrees_look (streams : handle.Streams medium) (value : Value)
    (plain : value.plain = value) :
    (look handle value).Agrees medium handle { result := .ok value, offset := handle.cursor } := by
  refine ⟨?_, by rintro ⟨⟩, streams, rfl⟩
  simp only [answer, look, Outcome.answer, Result.map, plain, streams.whole]
  rfl

theorem agrees_of_reads {outcome : Outcome σ (Handle σ) Bytes} {size : Nat}
    (reads : Reads medium handle offset size outcome) :
    (of outcome .bytes).Agrees medium handle (Ideal.readBytes medium.content offset size) := by
  obtain ⟨value, data, goesOn⟩ := reads
  have mapped := goesOn.map Value.bytes
  refine ⟨?_, mapped.gives ▸ mapped.returned, goesOn.streams, goesOn.options⟩
  simp only [answer, of, mapped.gives, Result.map, Value.plain, data, Outcome.map_state,
    goesOn.leaves, goesOn.streams.whole]
  rfl

theorem agrees_ofRead {read : BufferRead σ} {bytes : Bytes}
    (fills : Fills medium handle bytes offset read) :
    (ofRead read).Agrees medium handle (Ideal.fill medium.content offset bytes) := by
  have mapped := fills.goesOn.map Value.count
  refine ⟨?_, mapped.gives ▸ mapped.returned, fills.goesOn.streams, fills.goesOn.options⟩
  simp only [answer, ofRead, mapped.gives, Result.map, Value.plain, Option.map_some, fills.buffer,
    Outcome.map_state, fills.goesOn.leaves, fills.goesOn.streams.whole]
  rfl

end Response

namespace Operation

variable {host : Host σ} {answer : Answer}

/-- The operation gives the answer once enough interruptions are waited out. -/
def IsAnswered (host : Host σ) (medium : SteadyMedium σ) (handle : Handle σ)
    (operation : Operation σ) (answer : Answer) : Prop :=
  ∃ response, Eventually (fun patience => operation.apply host patience handle) response ∧
    response.Agrees medium handle answer

private theorem isAnswered_of {operation : Operation σ} {response : Response σ}
    (same : ∀ patience, operation.apply host patience handle = response)
    (agrees : response.Agrees medium handle answer) :
    operation.IsAnswered host medium handle answer :=
  ⟨response, .of_forall same, agrees⟩

/-! ## Questions -/

section Questions

variable (streams : handle.Streams medium) (tells : handle.Tells description)

include streams tells

private theorem geometry_isAnswered (value : Geometry → Value) {operation : Operation σ}
    (same : ∀ patience, operation.apply host patience handle = .of handle.geometry value)
    (plain : ∀ geometry, (value geometry).plain = value geometry) :
    operation.IsAnswered host medium handle
      { result := .ok (value description.geometry), offset := handle.cursor } :=
  isAnswered_of same (Response.agrees_of (geometry_goesOn streams tells) value plain)

private theorem mediaInformation_isAnswered {value : MediaInformation → Value}
    {operation : Operation σ}
    (same : ∀ patience, operation.apply host patience handle = .of handle.mediaInformation value)
    (plain : ∀ information, (value information).plain = value information) :
    operation.IsAnswered host medium handle
      { result := description.information.map value, offset := handle.cursor } :=
  isAnswered_of same (Response.agrees_of (mediaInformation_goesOn streams tells) value plain)

private theorem tableOfContents_isAnswered {value : TableOfContents → Value}
    {operation : Operation σ}
    (same : ∀ patience, operation.apply host patience handle = .of handle.tableOfContents value)
    (plain : ∀ contents, (value contents).plain = value contents) :
    operation.IsAnswered host medium handle
      { result := description.contents.map value, offset := handle.cursor } :=
  isAnswered_of same (Response.agrees_of (tableOfContents_goesOn streams tells) value plain)

private theorem informationValue_isAnswered (identifier : String) :
    (informationValue identifier : Operation σ).IsAnswered host medium handle
      { result :=
          if identifier = "" then .error (.invalidArgument .emptyIdentifier)
          else description.information.map (.optionalText <| ·.value? identifier)
        offset := handle.cursor } := by
  by_cases unnamed : identifier = ""
  · rw [if_pos unnamed]
    refine isAnswered_of (fun patience => ?_) (Response.agrees_refuse streams
      (.invalidArgument .emptyIdentifier) .optionalText)
    simp only [apply, Handle.informationValue, unnamed, if_true]
  · rw [if_neg unnamed]
    refine mediaInformation_isAnswered streams tells (fun patience => ?_) fun _ => rfl
    rw [apply, Handle.informationValue, if_neg unnamed, Response.of_map]

private theorem pick_isAnswered {α : Type} {elements : TableOfContents → List α} {index : Nat}
    {value : α → Value} {fault : ArgumentFault} {operation : Operation σ}
    {rest : TableOfContents → Handle σ → Outcome σ (Handle σ) α}
    (same : ∀ patience, operation.apply host patience handle =
      .of (handle.tableOfContents.andThen rest) value)
    (picks : ∀ contents handle, rest contents handle =
      match (elements contents)[index]? with
      | some element => .answer element handle
      | none => .refuse (.invalidArgument fault) handle)
    (plain : ∀ element, (value element).plain = value element) :
    operation.IsAnswered host medium handle
      { result := Ideal.pick (description.contents.map elements) index value fault
        offset := handle.cursor } := by
  have goesOn := tableOfContents_goesOn streams tells
  cases told : description.contents with
  | pending => exact absurd told goesOn.returned
  | error cause =>
    rw [told] at goesOn
    exact isAnswered_of same (Response.agrees_of goesOn.andThen_error value plain)
  | ok contents =>
    rw [told] at goesOn
    simp only [Result.map, Ideal.pick]
    cases found : (elements contents)[index]? with
    | some element =>
      have picked : rest contents handle.tableOfContents.state =
          .answer element handle.tableOfContents.state := by rw [picks, found]
      have answered := GoesOn.answer goesOn.streams element
      rw [goesOn.leaves, ← picked] at answered
      exact isAnswered_of same (Response.agrees_of (goesOn.andThen answered) value plain)
    | none =>
      have refused : GoesOn medium handle.tableOfContents.state
          (.refuse (.invalidArgument fault) handle.tableOfContents.state :
            Outcome σ (Handle σ) α) (.error (.invalidArgument fault)) _ := .refuse goesOn.streams _
      have picked : rest contents handle.tableOfContents.state =
          .refuse (.invalidArgument fault) handle.tableOfContents.state := by rw [picks, found]
      rw [goesOn.leaves, ← picked] at refused
      exact isAnswered_of same (Response.agrees_of (goesOn.andThen refused) value plain)

end Questions

/-! ## Seeks -/

section Seeks

variable (streams : handle.Streams medium)

include streams

private theorem seek_isAnswered (distance : Int) (origin : Origin) {operation : Operation σ}
    (same : ∀ patience, operation.apply host patience handle =
      .of (handle.seek distance origin) .nat) :
    operation.IsAnswered host medium handle
      (Ideal.seek medium.content handle.cursor distance origin) := by
  obtain ⟨inside, outside⟩ := seek_goesOn streams distance origin
  simp only [Ideal.seek]
  split
  · next bounds =>
    exact isAnswered_of same (Response.agrees_of (inside bounds) .nat fun _ => rfl)
  · next bounds =>
    exact isAnswered_of same (Response.agrees_of (outside bounds) .nat fun _ => rfl)

private theorem seekByCode_isAnswered (distance code : Int) :
    (seekByCode distance code : Operation σ).IsAnswered host medium handle
      (match Origin.ofCode code with
        | .ok origin => Ideal.seek medium.content handle.cursor distance origin
        | .error cause => { result := .error cause, offset := handle.cursor }) := by
  cases decoded : Origin.ofCode code with
  | ok origin =>
    refine seek_isAnswered streams distance origin fun patience => ?_
    simp only [apply, Handle.seekByCode, decoded]
  | error cause =>
    refine isAnswered_of (fun patience => ?_)
      (Response.agrees_refuse streams cause .nat)
    simp only [apply, Handle.seekByCode, decoded]

private theorem streamSeek_isAnswered (position : StreamPosition) :
    (streamSeek position : Operation σ).IsAnswered host medium handle
      (Ideal.reply medium.content handle.options description handle.cursor
        (streamSeek position : Operation σ)) := by
  cases position with
  | current distance => exact seek_isAnswered streams distance .current fun _ => rfl
  | streamEnd distance => exact seek_isAnswered streams distance .mediaEnd fun _ => rfl
  | start target =>
    simp only [Ideal.reply, Ideal.seekTo]
    split
    · next reachable =>
      exact isAnswered_of (fun _ => rfl)
        (Response.agrees_of (seekStart_goesOn streams reachable) .nat fun _ => rfl)
    · next outside =>
      refine isAnswered_of (fun patience => ?_)
        (Response.agrees_refuse streams (.invalidArgument .excessiveOffset) .nat)
      simp only [apply, Handle.streamSeek, Handle.seekStart, outside, if_false]

private theorem streamRewind_isAnswered :
    (streamRewind : Operation σ).IsAnswered host medium handle
      { result := .ok .unit, offset := 0 } :=
  isAnswered_of (fun _ => Response.of_map ..)
    (Response.agrees_of (seekStart_goesOn streams (Nat.zero_le _)) (fun _ => .unit) fun _ => rfl)

private theorem streamPosition_isAnswered :
    (streamPosition : Operation σ).IsAnswered host medium handle
      { result := .ok (.nat handle.cursor), offset := handle.cursor } := by
  have answered : (streamPosition : Operation σ).IsAnswered host medium handle
      (Ideal.seek medium.content handle.cursor 0 .current) :=
    seek_isAnswered streams 0 .current fun _ => rfl
  have reachable := streams.reachable
  rw [Ideal.seek, if_pos (by simp only [Ideal.base]; omega)] at answered
  simpa only [Ideal.base, Int.add_zero, Int.toNat_natCast] using answered

end Seeks

/-! ## Reads -/

section Reads

variable (streams : handle.Streams medium)

include streams

omit streams in
private theorem sized_eq (offset : Nat) (size : Int) (call : Nat → Answer) :
    Ideal.sized offset size call =
      match checkReadSize size with
      | .ok checked => call checked
      | .error cause => { result := .error cause, offset } := by
  simp only [Ideal.sized, checkReadSize]
  split
  · rfl
  · split <;> rfl

private theorem read_isAnswered (size : Int) {operation : Operation σ}
    (same : ∀ patience, operation.apply host patience handle =
      .of (handle.read patience size) .bytes) :
    operation.IsAnswered host medium handle
      (Ideal.sized handle.cursor size (Ideal.readBytes medium.content handle.cursor)) := by
  rw [sized_eq]
  cases checked : checkReadSize size with
  | ok count =>
    obtain ⟨outcome, reads, data⟩ := read_reads streams checked
    refine ⟨_, reads.imp fun patience once => ?_, Response.agrees_of_reads data⟩
    rw [same, once]
  | error cause =>
    refine isAnswered_of (fun patience => ?_) (Response.agrees_refuse streams cause .bytes)
    rw [same, Handle.read_refused checked]

private theorem readAt_isAnswered (size target : Int) :
    (readAt size target : Operation σ).IsAnswered host medium handle
      (Ideal.sized handle.cursor size (Ideal.readAt medium.content handle.cursor target)) := by
  rw [sized_eq]
  cases checked : checkReadSize size with
  | error cause =>
    refine isAnswered_of (fun patience => ?_) (Response.agrees_refuse streams cause .bytes)
    simp only [apply, Handle.readAt, checked]
  | ok count =>
    simp only [Ideal.readAt]
    split
    · next negative =>
      refine isAnswered_of (fun patience => ?_)
        (Response.agrees_refuse streams (.invalidArgument (.negativeOffset target)) .bytes)
      simp only [apply, Handle.readAt, checked, negative, if_true]
    next positive =>
    split
    · next far =>
      refine isAnswered_of (fun patience => ?_)
        (Response.agrees_refuse streams (.outOfBounds target .start) .bytes)
      have refused : handle.seek target .start = .refuse (.outOfBounds target .start) handle := by
        simp only [Handle.seek, streams.isOpen, if_true, Handle.seekFrom]
        rw [if_neg (by omega)]
      simp only [apply, Handle.readAt, checked, positive, if_false, refused,
        Outcome.andThen_refuse]
    · next near =>
      obtain ⟨outcome, reads, data⟩ := readAt_reads streams checked (Int.not_lt.mp positive)
        (Int.not_lt.mp near)
      refine ⟨_, reads.imp fun patience once => ?_, Response.agrees_of_reads data⟩
      rw [apply, once]

private theorem readBuffer_isAnswered (bytes : Bytes) {operation : Operation σ}
    (same : ∀ patience, operation.apply host patience handle =
      .ofRead (handle.readBuffer patience bytes)) :
    operation.IsAnswered host medium handle
      (Ideal.fill medium.content handle.cursor bytes) := by
  obtain ⟨read, reads, fills⟩ := readBuffer_fills streams bytes
  refine ⟨_, reads.imp fun patience once => ?_, Response.agrees_ofRead fills⟩
  rw [same, once]

private theorem readBufferAt_isAnswered (bytes : Bytes) (target : Nat) :
    (readBufferAt bytes target : Operation σ).IsAnswered host medium handle
      (Ideal.fillAt medium.content handle.cursor bytes target) := by
  simp only [Ideal.fillAt]
  split
  · next reachable =>
    obtain ⟨read, reads, fills⟩ := readBufferAt_fills streams bytes reachable
    refine ⟨_, reads.imp fun patience once => ?_, Response.agrees_ofRead fills⟩
    rw [apply, once]
  · next far =>
    have refused : handle.seekStart target =
        .refuse (.invalidArgument .excessiveOffset) handle := by
      rw [seekStart, if_neg far]
    have same (patience : Nat) : handle.readBufferAt patience bytes target =
        { buffer := bytes
          outcome := .refuse (.invalidArgument .excessiveOffset) handle } := by
      simp only [Handle.readBufferAt, refused]
      rfl
    have failed : ((.refuse (.invalidArgument .excessiveOffset) handle :
        Outcome σ (Handle σ) Nat).map Value.count).result ≠ .pending := by rintro ⟨⟩
    refine isAnswered_of (fun patience => by rw [apply, same]) ⟨?_, failed, streams, rfl⟩
    simp only [Response.answer, Response.ofRead, Outcome.map, Outcome.refuse, Result.map,
      streams.whole]
    rfl

private theorem readExact_isAnswered (bytes : Bytes) :
    (streamReadExact bytes : Operation σ).IsAnswered host medium handle
      (Ideal.fillWhole medium.content handle.cursor bytes) := by
  obtain ⟨after, reads, buffer, goesOn⟩ := readExact_fills streams bytes
  have mapped := goesOn.map fun _ => Value.unit
  refine ⟨{ outcome := after.2.map fun _ => .unit, buffer := some after.1 },
    reads.imp fun patience once => ?_, ?_, ?_, goesOn.streams, goesOn.options⟩
  · rw [apply, once]
  · simp only [Response.answer, mapped.gives, Outcome.map_state, goesOn.leaves,
      goesOn.streams.whole, Option.map_some, buffer, Ideal.fillWhole, Ideal.fill]
    split <;> rfl
  · exact mapped.gives ▸ mapped.returned

end Reads

/-! ## All operations -/

/-- Every operation of a stream is answered as the ideal stream answers it. -/
theorem isAnswered (host : Host σ) (streams : handle.Streams medium)
    (isOf : description.IsOf medium) (tells : handle.Tells description) {operation : Operation σ}
    (ofStream : operation.isOfStream = true) :
    operation.IsAnswered host medium handle
      (Ideal.reply medium.content handle.options description handle.cursor operation) := by
  cases operation with
  | isOpen =>
    refine isAnswered_of (fun _ => rfl) ?_
    rw [streams.isOpen]
    exact Response.agrees_look streams _ rfl
  | geometry => exact geometry_isAnswered streams tells .geometry (fun _ => rfl) fun _ => rfl
  | mediaSize =>
    have size : description.geometry.mediaSize.toNat = medium.content.size :=
      isOf.geometry.mediaSize
    rw [Ideal.reply, ← size]
    exact geometry_isAnswered streams tells (fun geometry => .nat geometry.mediaSize.toNat)
      (fun _ => Response.of_map ..) fun _ => rfl
  | bytesPerSector =>
    exact geometry_isAnswered streams tells
      (fun geometry => .optionalNat (geometry.bytesPerSector.map UInt32.toNat))
      (fun _ => Response.of_map ..) fun _ => rfl
  | maxTransferSize =>
    exact geometry_isAnswered streams tells
      (fun geometry => .optionalNat (geometry.maxTransferSize.map UInt32.toNat))
      (fun _ => Response.of_map ..) fun _ => rfl
  | numberOfSectors =>
    exact geometry_isAnswered streams tells (fun geometry => .sectorCount geometry.numberOfSectors)
      (fun _ => rfl) fun _ => rfl
  | mediaInformation =>
    exact mediaInformation_isAnswered streams tells (fun _ => rfl) fun _ => rfl
  | mediaType =>
    exact mediaInformation_isAnswered streams tells (fun _ => Response.of_map ..) fun _ => rfl
  | busType =>
    exact mediaInformation_isAnswered streams tells (fun _ => Response.of_map ..) fun _ => rfl
  | informationValue identifier => exact informationValue_isAnswered streams tells identifier
  | numberOfSessions =>
    exact tableOfContents_isAnswered streams tells (fun _ => Response.of_map ..) fun _ => rfl
  | numberOfTracks =>
    exact tableOfContents_isAnswered streams tells (fun _ => Response.of_map ..) fun _ => rfl
  | sessionAt index =>
    refine pick_isAnswered streams tells (fun _ => rfl) (fun contents handle => ?_) fun _ => rfl
    cases contents.sessions[index]? <;> rfl
  | trackAt index =>
    refine pick_isAnswered streams tells (fun _ => rfl) (fun contents handle => ?_) fun _ => rfl
    cases contents.tracks[index]? <;> rfl
  | offset =>
    refine isAnswered_of (fun patience => ?_)
      (Response.agrees_of (.answer streams handle.cursor) .nat fun _ => rfl)
    simp only [apply, Handle.offset, streams.isOpen, if_true]
  | seek distance origin => exact seek_isAnswered streams distance origin fun _ => rfl
  | seekByCode distance code => exact seekByCode_isAnswered streams distance code
  | streamSeek position => exact streamSeek_isAnswered streams position
  | streamRewind => exact streamRewind_isAnswered streams
  | streamPosition => exact streamPosition_isAnswered streams
  | read size => exact read_isAnswered streams size fun _ => rfl
  | readDefault => exact read_isAnswered streams handle.options.defaultReadSize fun _ => rfl
  | readAt size target => exact readAt_isAnswered streams size target
  | readBuffer bytes => exact readBuffer_isAnswered streams bytes fun _ => rfl
  | streamRead bytes => exact readBuffer_isAnswered streams bytes fun _ => rfl
  | readBufferAt bytes target => exact readBufferAt_isAnswered streams bytes target
  | streamReadExact bytes => exact readExact_isAnswered streams bytes
  | numberOfErrors =>
    refine isAnswered_of (fun _ => rfl) ?_
    rw [streams.whole]
    exact Response.agrees_look streams _ rfl
  | errorAt index =>
    refine isAnswered_of (fun _ => rfl) ?_
    rw [streams.whole]
    exact Response.agrees_look streams _ rfl
  | _ => simp [isOfStream] at ofStream

private theorem run_answers (host : Host σ) {operations : List (Operation σ)}
    (ofStream : ∀ operation ∈ operations, operation.isOfStream = true) {handle : Handle σ}
    (streams : handle.Streams medium) :
    ∃ descriptions : List Description,
      descriptions.length = operations.length ∧
      (∀ description ∈ descriptions, description.IsOf medium) ∧
      Eventually (fun patience => (run host patience handle operations).map Response.answer)
        (Ideal.run medium.content handle.options handle.cursor
          (operations.zip descriptions)) := by
  induction operations generalizing handle with
  | nil => exact ⟨[], rfl, by simp, .of_forall fun _ => rfl⟩
  | cons operation rest ih =>
    obtain ⟨description, isOf, tells⟩ := streams.exists_description
    obtain ⟨response, once, agrees⟩ :=
      isAnswered host streams isOf tells (ofStream operation List.mem_cons_self)
    obtain ⟨descriptions, length, all, later⟩ := ih
      (fun operation member => ofStream operation (List.mem_cons_of_mem _ member)) agrees.streams
    refine ⟨description :: descriptions, by simp [length], ?_, once.combine later ?_⟩
    · rintro other (_ | ⟨_, member⟩)
      · exact isOf
      · exact all other member
    · intro patience first others
      have first : operation.apply host patience handle = response := first
      have onward : (Ideal.reply medium.content handle.options description handle.cursor
          operation).offset = response.outcome.state.cursor :=
        congrArg Answer.offset agrees.same.symm
      have goesOn : run host patience handle (operation :: rest) =
          response :: run host patience response.outcome.state rest := by
        rw [run, first]
        split
        · next waiting => exact absurd waiting agrees.returned
        · rfl
      rw [goesOn, List.map_cons, others, agrees.same, agrees.options, List.zip_cons_cons, Ideal.run,
        onward]

omit [Device σ] in
private theorem zip_replicate (operations : List (Operation σ)) (description : Description) :
    operations.zip (List.replicate operations.length description) =
      operations.map (·, description) := by
  induction operations with
  | nil => rfl
  | cons operation rest ih =>
    rw [List.length_cons, List.replicate_succ, List.zip_cons_cons, ih, List.map_cons]

/-- A handle on a steady medium is an ideal stream. However a device cuts its reads and wherever it
is interrupted, once enough interruptions are waited out any operations of a stream are answered as
the ideal stream over the bytes of the medium answers them, with the offset where the ideal stream
has it and without unreadable ranges. What the device tells of its media besides their bytes is what
devices with this medium tell, and the same at any time if they all tell the same. -/
theorem handle_refines_ideal_stream (medium : SteadyMedium σ) {device : σ}
    (obeys : medium.Obeys device) (host : Host σ) (before : Handle σ) (path : String)
    {operations : List (Operation σ)}
    (ofStream : ∀ operation ∈ operations, operation.isOfStream = true) :
    (∃ descriptions : List Description,
      descriptions.length = operations.length ∧
      (∀ description ∈ descriptions, description.IsOf medium) ∧
      Eventually
        (fun patience =>
          (run host patience (before.startSession path device) operations).map Response.answer)
        (Ideal.run medium.content before.options 0 (operations.zip descriptions))) ∧
    ∀ description : Description, (∀ other : Description, other.IsOf medium → other = description) →
      Eventually
        (fun patience =>
          (run host patience (before.startSession path device) operations).map Response.answer)
        (Ideal.run medium.content before.options 0 (operations.map (·, description))) := by
  have fresh : Session.Steady medium ({ path, device } : Session σ) :=
    ⟨⟨obeys, by rintro _ ⟨⟩⟩, by rintro _ ⟨⟩, by rintro _ ⟨⟩, by rintro _ ⟨⟩⟩
  have streams : (before.startSession path device).Streams medium :=
    ⟨⟨_, rfl, fresh⟩, rfl, rfl, Nat.zero_le _⟩
  have described := run_answers host ofStream streams
  constructor
  · exact described
  · intro description unique
    obtain ⟨descriptions, length, all, answers⟩ := described
    have same : descriptions = List.replicate operations.length description := by
      refine List.eq_replicate_iff.mpr ⟨length, ?_⟩
      intro other member
      exact unique other (all other member)
    rw [same, zip_replicate] at answers
    exact answers

/-- What a hesitant device tells of its media besides their bytes. -/
def hesitantDescription : Description where
  geometry := { mediaSize := 10, bytesPerSector := some 2, maxTransferSize := none }
  information := .ok {}
  contents := .ok {}

theorem isOf_hesitantDescription :
    hesitantDescription.IsOf (ScriptedDevice.steadyMedium .hesitant (by decide)) where
  geometry := ⟨.hesitant, ScriptedDevice.isSteady_hesitant, rfl⟩
  information := ⟨{ path := "drive", device := .hesitant }, ScriptedDevice.isSteady_hesitant, rfl, rfl⟩
  contents := ⟨{ path := "drive", device := .hesitant }, ScriptedDevice.isSteady_hesitant, rfl, rfl⟩

/-- Reads, a question, a seek out of bounds and a read up to the end of ten bytes. -/
def stroll : List (Operation ScriptedDevice) :=
  [.read 5, .bytesPerSector, .seek (-100) .current, .streamRead (.replicate 8 0x55)]

/-- What an ideal stream answers on the way. -/
def strolled : List Answer :=
  [{ result := .ok (.bytes (.ofList [0, 1, 2, 3, 4])), offset := 5 },
    { result := .ok (.optionalNat (some 2)), offset := 5 },
    { result := .error (.outOfBounds (-100) .current), offset := 5 },
    { result := .ok (.count 5), buffer := some [5, 6, 7, 8, 9, 0x55, 0x55, 0x55], offset := 10 }]

theorem run_stroll :
    Ideal.run (.pattern 10) {} 0 (stroll.map (·, hesitantDescription)) = strolled := rfl

/-- Of the pieces and interruptions of a hesitant device nothing shows. -/
theorem hesitant_refines_ideal_stream :
    Eventually
      (fun patience =>
        (run Host.empty patience ((Handle.withOptions {}).startSession "drive" .hesitant)
          stroll).map Response.answer)
      strolled := by
  have ofStream : ∀ operation ∈ stroll, operation.isOfStream = true := by
    simp [stroll, isOfStream]
  have refines := handle_refines_ideal_stream
    (ScriptedDevice.steadyMedium .hesitant (by decide)) ScriptedDevice.isSteady_hesitant
    Host.empty (.withOptions {}) "drive" ofStream
  have answers := refines.2 hesitantDescription
    fun other => ScriptedDevice.description_unique isOf_hesitantDescription
  rw [← run_stroll]
  exact answers

end Operation

end StorageMedia
