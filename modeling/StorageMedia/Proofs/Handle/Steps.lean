import StorageMedia.Handle.Operation
import StorageMedia.Proofs.Device.Inquiry

/-! # What an operation does to a handle

An operation on an open handle is a sequence of a few kinds of steps: the offset moves, the session
asks its device something, or bytes that lie on the media are transferred. `Operation.Effect` adds
what begins, ends or steers a session, and `Operation.apply_effect` says that nothing else happens,
so that a property of handles is proved once for each kind of step.

`Operation.InSession` follows a handle from the moment it was opened on a device to any later moment
of the same session; every open handle that operations reach is in a session.
-/

namespace StorageMedia

variable {σ : Type} [Device σ]

namespace Handle

/-- One thing that an operation does to an open handle, with the events in which it shows. -/
inductive Step (patience : Nat) : Handle σ → List (Event σ) → Handle σ → Prop
  /-- The offset is moved. -/
  | move {handle : Handle σ} {target : Nat} (opened : handle.isOpen = true)
      (reachable : target ≤ maxSeekOffset) :
      Step patience handle [] { handle with cursor := target }
  /-- The session gives the geometry. -/
  | measure {handle : Handle σ} {session : Session σ} (opened : handle.session = some session) :
      Step patience handle session.geometry.events (handle.resume session.geometry)
  /-- The session gives the media information. -/
  | identify {handle : Handle σ} {session : Session σ} (opened : handle.session = some session) :
      Step patience handle session.mediaInformation.events
        (handle.resume session.mediaInformation)
  /-- The session gives the contents of the disc. -/
  | survey {handle : Handle σ} {session : Session σ} (opened : handle.session = some session) :
      Step patience handle session.tableOfContents.events
        (handle.resume session.tableOfContents)
  /-- Bytes that lie on the media are transferred, with or without success. -/
  | transfer {handle : Handle σ} {session : Session σ} {geometry : Geometry} (bytes : Bytes)
      (opened : handle.session = some session) (known : session.knownGeometry = some geometry)
      (positive : 0 < bytes.size)
      (fits : handle.cursor + bytes.size ≤ geometry.mediaSize.toNat) :
      Step patience handle
        (Transfer.read handle.options patience session handle.aborted handle.cursor
          bytes).1.events.reverse
        (handle.afterTransfer
          (Transfer.read handle.options patience session handle.aborted handle.cursor bytes).1
          (Transfer.read handle.options patience session handle.aborted handle.cursor bytes).2)

/-- Steps one after the other, with all their events. -/
inductive Steps (patience : Nat) : Handle σ → List (Event σ) → Handle σ → Prop
  | nil (handle : Handle σ) : Steps patience handle [] handle
  | cons {handle middle after : Handle σ} {events others : List (Event σ)}
      (step : Step patience handle events middle) (steps : Steps patience middle others after) :
      Steps patience handle (events ++ others) after

variable {patience : Nat} {handle middle after : Handle σ} {events others : List (Event σ)}

theorem Step.single (step : Step patience handle events after) :
    Steps patience handle events after := by
  simpa using Steps.cons step (.nil after)

/-- Steps go on where others ended. -/
theorem Steps.append (first : Steps patience handle events middle)
    (second : Steps patience middle others after) :
    Steps patience handle (events ++ others) after := by
  induction first with
  | nil => exact second
  | cons step _ ih =>
    rw [List.append_assoc]
    exact .cons step (ih second)

/-- What every step keeps holds after any number of steps. -/
theorem Steps.keep {Holds : Handle σ → Prop}
    (keeps : ∀ {handle events after}, Step patience handle events after →
      Holds handle → Holds after)
    (steps : Steps patience handle events after) (holds : Holds handle) : Holds after := by
  induction steps with
  | nil => exact holds
  | cons step _ ih => exact ih (keeps step holds)

/-- What the events of every step show, the events of all steps show. -/
theorem Steps.show {Holds : Handle σ → Prop} {Shows : Event σ → Prop}
    (keeps : ∀ {handle events after}, Step patience handle events after →
      Holds handle → Holds after)
    (shows : ∀ {handle events after}, Step patience handle events after →
      Holds handle → ∀ event ∈ events, Shows event)
    (steps : Steps patience handle events after) (holds : Holds handle) :
    ∀ event ∈ events, Shows event := by
  induction steps with
  | nil => simp
  | cons step _ ih =>
    intro event member
    rcases List.mem_append.mp member with first | later
    · exact shows step holds event first
    · exact ih (keeps step holds) event later

/-- No step closes a handle. -/
theorem Step.isOpen (step : Step patience handle events after) : after.isOpen = true := by
  cases step with
  | move opened => exact opened
  | measure => rfl
  | identify => rfl
  | survey => rfl
  | transfer => simp only [afterTransfer]; split <;> rfl

/-- No step changes the options. -/
theorem Step.options (step : Step patience handle events after) :
    after.options = handle.options := by
  cases step with
  | transfer => simp only [afterTransfer]; split <;> rfl
  | _ => rfl

theorem Steps.options (steps : Steps patience handle events after) :
    after.options = handle.options := by
  induction steps with
  | nil => rfl
  | cons step _ ih => exact ih.trans step.options

private theorem steps_andThen {α β : Type} {outcome : Outcome σ (Handle σ) α}
    (first : Steps patience handle outcome.events outcome.state)
    {rest : α → Handle σ → Outcome σ (Handle σ) β}
    (second : ∀ value, outcome.result = .ok value →
      Steps patience outcome.state (rest value outcome.state).events
        (rest value outcome.state).state) :
    Steps patience handle (outcome.andThen rest).events (outcome.andThen rest).state := by
  simp only [Outcome.andThen]
  split
  · next value succeeded => exact first.append (second value succeeded)
  · exact first
  · exact first

/-- The handle stays open when an operation on its session succeeds. -/
theorem isOpen_of_onSession_ok {α : Type} {run : Session σ → Outcome σ (Session σ) α} {value : α}
    (succeeded : (handle.onSession run).result = .ok value) :
    (handle.onSession run).state.isOpen = true := by
  cases opened : handle.session with
  | none => simp [onSession_closed opened, Outcome.refuse] at succeeded
  | some session => rw [onSession_state opened]; rfl

private theorem onSession_frame {α : Type} (run : Session σ → Outcome σ (Session σ) α) :
    (handle.onSession run).state.cursor = handle.cursor ∧
      (handle.onSession run).state.errors = handle.errors := by
  cases opened : handle.session with
  | none => simp [onSession_closed opened, Outcome.refuse]
  | some session => simp [onSession_state opened, resume]

@[simp] theorem cursor_mediaSize (handle : Handle σ) :
    handle.mediaSize.state.cursor = handle.cursor := (onSession_frame _).1

@[simp] theorem errors_mediaSize (handle : Handle σ) :
    handle.mediaSize.state.errors = handle.errors := (onSession_frame _).2

theorem mediaSize_inquires (handle : Handle σ) :
    ∀ event ∈ handle.mediaSize.events, event.isInquiry = true := by
  cases opened : handle.session with
  | none => simp [mediaSize, geometry, onSession_closed opened, Outcome.refuse]
  | some session =>
    simp only [mediaSize, geometry, onSession, opened, Outcome.map_events]
    exact session.geometry_inquires

private theorem steps_onSession {α : Type} {run : Session σ → Outcome σ (Session σ) α}
    (step : ∀ session, handle.session = some session →
      Step patience handle (run session).events (handle.resume (run session))) :
    Steps patience handle (handle.onSession run).events (handle.onSession run).state := by
  cases opened : handle.session with
  | none => simpa [onSession_closed opened, Outcome.refuse] using Steps.nil handle
  | some session =>
    simp only [onSession, opened, Outcome.mapState]
    exact (step session opened).single

theorem geometry_steps (patience : Nat) (handle : Handle σ) :
    Steps patience handle handle.geometry.events handle.geometry.state :=
  steps_onSession fun _ opened => .measure opened

theorem mediaSize_steps (patience : Nat) (handle : Handle σ) :
    Steps patience handle handle.mediaSize.events handle.mediaSize.state :=
  geometry_steps patience handle

theorem mediaInformation_steps (patience : Nat) (handle : Handle σ) :
    Steps patience handle handle.mediaInformation.events handle.mediaInformation.state :=
  steps_onSession fun _ opened => .identify opened

theorem tableOfContents_steps (patience : Nat) (handle : Handle σ) :
    Steps patience handle handle.tableOfContents.events handle.tableOfContents.state :=
  steps_onSession fun _ opened => .survey opened

theorem informationValue_steps (patience : Nat) (handle : Handle σ) (identifier : String) :
    Steps patience handle (handle.informationValue identifier).events
      (handle.informationValue identifier).state := by
  simp only [informationValue]
  split
  · exact .nil handle
  · exact mediaInformation_steps patience handle

theorem sessionAt_steps (patience : Nat) (handle : Handle σ) (index : Nat) :
    Steps patience handle (handle.sessionAt index).events (handle.sessionAt index).state := by
  refine steps_andThen (tableOfContents_steps patience handle) fun contents _ => ?_
  split <;> exact .nil _

theorem trackAt_steps (patience : Nat) (handle : Handle σ) (index : Nat) :
    Steps patience handle (handle.trackAt index).events (handle.trackAt index).state := by
  refine steps_andThen (tableOfContents_steps patience handle) fun contents _ => ?_
  split <;> exact .nil _

theorem offset_steps (patience : Nat) (handle : Handle σ) :
    Steps patience handle handle.offset.events handle.offset.state := by
  simp only [offset]
  split <;> exact .nil handle

theorem seekFrom_steps (opened : handle.isOpen = true) (base : Nat) (offset : Int)
    (origin : Origin) :
    Steps patience handle (handle.seekFrom base offset origin).events
      (handle.seekFrom base offset origin).state := by
  simp only [seekFrom]
  split
  · next bounds => exact (Step.move opened (by omega)).single
  · exact .nil handle

theorem seek_steps (patience : Nat) (handle : Handle σ) (offset : Int) (origin : Origin) :
    Steps patience handle (handle.seek offset origin).events
      (handle.seek offset origin).state := by
  cases origin with
  | start =>
    simp only [seek]
    split
    · next opened => exact seekFrom_steps opened _ _ _
    · exact .nil handle
  | current =>
    simp only [seek]
    split
    · next opened => exact seekFrom_steps opened _ _ _
    · exact .nil handle
  | mediaEnd =>
    refine steps_andThen (mediaSize_steps patience handle) fun size succeeded => ?_
    obtain ⟨found, geometry⟩ : ∃ found, handle.geometry.result = .ok found := by
      cases result : handle.geometry.result <;>
        simp [mediaSize, Outcome.map, Result.map, result] at succeeded ⊢
    exact seekFrom_steps (isOpen_of_onSession_ok geometry) _ _ _

theorem seekByCode_steps (patience : Nat) (handle : Handle σ) (offset code : Int) :
    Steps patience handle (handle.seekByCode offset code).events
      (handle.seekByCode offset code).state := by
  simp only [seekByCode]
  split
  · exact seek_steps ..
  · exact .nil handle

theorem seekStart_steps (patience : Nat) (handle : Handle σ) (offset : Nat) :
    Steps patience handle (handle.seekStart offset).events (handle.seekStart offset).state := by
  simp only [seekStart]
  split
  · exact seek_steps ..
  · exact .nil handle

theorem streamSeek_steps (patience : Nat) (handle : Handle σ) (position : StreamPosition) :
    Steps patience handle (handle.streamSeek position).events
      (handle.streamSeek position).state := by
  cases position with
  | start offset => exact seekStart_steps ..
  | current offset => exact seek_steps ..
  | streamEnd offset => exact seek_steps ..

/-- Everything that a read into a buffer can come to. -/
inductive ReadsTo (patience : Nat) (handle : Handle σ) (bytes : Bytes) : BufferRead σ → Prop
  | closed (closed : handle.session = none) :
      ReadsTo patience handle bytes { buffer := bytes, outcome := .refuse .notOpen handle }
  | unmeasured {session : Session σ} {cause : Error} (opened : handle.session = some session)
      (failed : session.geometry.result = .error cause) :
      ReadsTo patience handle bytes
        { buffer := bytes
          outcome :=
            { result := .error cause
              state := handle.resume session.geometry
              events := session.geometry.events } }
  /-- None of the bytes that were asked for lies on the media. -/
  | outside {session : Session σ} {geometry : Geometry} (opened : handle.session = some session)
      (found : session.geometry.result = .ok geometry)
      (none : handle.clampedSize geometry.mediaSize bytes.size = 0) :
      ReadsTo patience handle bytes
        { buffer := bytes
          outcome :=
            { result := .ok 0
              state := handle.resume session.geometry
              events := session.geometry.events } }
  /-- The bytes that lie on the media are transferred, with or without success. -/
  | transferred {session : Session σ} {geometry : Geometry} {size : Nat}
      {transfer : Transfer σ × Result Nat} (opened : handle.session = some session)
      (found : session.geometry.result = .ok geometry)
      (clamped : handle.clampedSize geometry.mediaSize bytes.size = size) (positive : 0 < size)
      (runs : Transfer.read handle.options patience session.geometry.state
        (handle.resume session.geometry).aborted handle.cursor (bytes.take size) = transfer) :
      ReadsTo patience handle bytes
        { buffer := transfer.1.buffer.bytes ++ bytes.drop size
          outcome :=
            { result := transfer.2
              state := handle.afterTransfer transfer.1 transfer.2
              events := session.geometry.events ++ transfer.1.events.reverse } }

/-- The list of what a read into a buffer can come to is complete. -/
theorem readBuffer_readsTo (patience : Nat) (handle : Handle σ) (bytes : Bytes) :
    ReadsTo patience handle bytes (handle.readBuffer patience bytes) := by
  cases opened : handle.session with
  | none =>
    rw [readBuffer_closed opened]
    exact .closed opened
  | some session =>
    simp only [readBuffer, opened]
    split
    · next failed => exact .unmeasured opened failed
    · next waiting => exact absurd waiting (Session.geometry_ne_pending session)
    · next found =>
      split
      · next none => exact .outside opened found none
      · next some => exact .transferred opened found rfl (Nat.pos_of_ne_zero some) rfl

omit [Device σ] in
/-- The front of a buffer that a read fills lies on the media. -/
theorem clamped_bounds {mediaSize : UInt64} {bytes : Bytes} {size : Nat}
    (clamped : handle.clampedSize mediaSize bytes.size = size) (positive : 0 < size) :
    (bytes.take size).size = size ∧ size ≤ bytes.size ∧
      handle.cursor + size ≤ mediaSize.toNat := by
  rw [clampedSize] at clamped
  rw [Bytes.size_take]
  omega

/-- A read asks for the geometry and transfers what lies on the media. -/
theorem readBuffer_steps (patience : Nat) (handle : Handle σ) (bytes : Bytes) :
    Steps patience handle (handle.readBuffer patience bytes).outcome.events
      (handle.readBuffer patience bytes).outcome.state := by
  have reads := readBuffer_readsTo patience handle bytes
  generalize handle.readBuffer patience bytes = read at reads
  cases reads with
  | closed => exact .nil handle
  | unmeasured opened => exact (Step.measure opened).single
  | outside opened => exact (Step.measure opened).single
  | @transferred session geometry size _ opened found clamped positive runs =>
    obtain ⟨taken, _, fits⟩ := clamped_bounds clamped positive
    rw [← taken] at positive fits
    subst runs
    exact .cons (.measure opened) (Step.single (.transfer _ rfl
      (Session.knownGeometry_of_geometry_ok found) positive fits))

theorem readBufferAt_steps (patience : Nat) (handle : Handle σ) (bytes : Bytes) (offset : Nat) :
    Steps patience handle (handle.readBufferAt patience bytes offset).outcome.events
      (handle.readBufferAt patience bytes offset).outcome.state := by
  have moved := seekStart_steps patience handle offset
  simp only [readBufferAt]
  split
  · exact moved.append (readBuffer_steps ..)
  · exact moved
  · exact moved

theorem readUpTo_steps (patience : Nat) (handle : Handle σ) (size : Nat) :
    Steps patience handle (handle.readUpTo patience size).events
      (handle.readUpTo patience size).state :=
  steps_andThen (mediaSize_steps patience handle) fun _ _ => readBuffer_steps ..

theorem read_steps (patience : Nat) (handle : Handle σ) (size : Int) :
    Steps patience handle (handle.read patience size).events
      (handle.read patience size).state := by
  simp only [read]
  split
  · exact readUpTo_steps ..
  · exact .nil handle

theorem readAt_steps (patience : Nat) (handle : Handle σ) (size offset : Int) :
    Steps patience handle (handle.readAt patience size offset).events
      (handle.readAt patience size offset).state := by
  simp only [readAt]
  split
  · exact .nil handle
  · split
    · exact .nil handle
    · exact steps_andThen (seek_steps ..) fun _ _ => readUpTo_steps ..

/-- Filling a buffer adds its own events to those that it is given. -/
theorem fill_steps (patience : Nat) (handle : Handle σ) (calls : Nat) (filling : Filling)
    (events : List (Event σ)) :
    ∃ more, (handle.fill patience calls filling events).2.events = events ++ more ∧
      Steps patience handle more (handle.fill patience calls filling events).2.state := by
  induction calls generalizing handle filling events with
  | zero => exact ⟨[], by simp [fill], .nil handle⟩
  | succ calls ih =>
    have read := readBuffer_steps patience handle filling.rest
    have further (filling : Filling) (before : List (Event σ)) (middle : Handle σ)
        (steps : Steps patience handle before middle) :
        ∃ more, (middle.fill patience calls filling (events ++ before)).2.events =
            events ++ more ∧
          Steps patience handle more
            (middle.fill patience calls filling (events ++ before)).2.state := by
      obtain ⟨more, all, later⟩ := ih middle filling (events ++ before)
      exact ⟨before ++ more, by rw [all, List.append_assoc], steps.append later⟩
    rw [fill]
    split
    · exact ⟨[], by simp, .nil handle⟩
    dsimp only
    split
    · exact ⟨_, rfl, read⟩
    · exact further _ _ _ read
    · split
      · exact further _ _ _ read
      · exact ⟨_, rfl, read⟩
    · exact ⟨_, rfl, read⟩

theorem readExact_steps (patience : Nat) (handle : Handle σ) (bytes : Bytes) :
    Steps patience handle (handle.readExact patience bytes).2.events
      (handle.readExact patience bytes).2.state := by
  obtain ⟨more, all, steps⟩ :=
    fill_steps patience handle (bytes.size + patience + 1) { rest := bytes } []
  simp only [readExact, all, List.nil_append]
  exact steps

end Handle

namespace Operation

open Handle

/-- Everything that an operation can do to a handle. -/
inductive Effect (patience : Nat) (handle : Handle σ) : List (Event σ) → Handle σ → Prop
  /-- The operation works on the session, if there is one. -/
  | works {events : List (Event σ)} {after : Handle σ}
      (steps : Steps patience handle events after) : Effect patience handle events after
  /-- The operation begins a session. -/
  | opens {events : List (Event σ)} {path : String} {device : σ} (closed : handle.session = none)
      (named : path ≠ "") (quiet : ∀ event ∈ events, event.isInquiry = true) :
      Effect patience handle events (handle.startSession path device)
  /-- The operation ends the session. -/
  | closes {session : Session σ} (opened : handle.session = some session) :
      Effect patience handle [.notice (.closing session.path)]
        { handle with session := none, cursor := 0, errors := {} }
  | configures (options : Options) : Effect patience handle [] (handle.setOptions options)
  | signals : Effect patience handle [] handle.signalAbort

variable {host : Host σ} {patience : Nat} {handle : Handle σ}

private theorem openPath_effect (host : Host σ) (patience : Nat) (handle : Handle σ)
    (path mode : String) :
    Effect patience handle (handle.openPath host path mode).events
      (handle.openPath host path mode).state := by
  simp only [Handle.openPath]
  split
  · exact .works (.nil handle)
  next named =>
  split
  · exact .works (.nil handle)
  split
  · exact .works (.nil handle)
  next closed =>
  split
  · exact .works (.nil handle)
  refine .opens (by simpa [Handle.isOpen] using closed) named ?_
  split
  · split <;> simp [Event.isInquiry, Notice.isOfTransfer]
  · simp [Event.isInquiry, Notice.isOfTransfer]

private theorem openDevice_effect (patience : Nat) (handle : Handle σ) (path : String)
    (device : σ) :
    Effect patience handle (handle.openDevice path device).events
      (handle.openDevice path device).state := by
  simp only [Handle.openDevice]
  split
  · exact .works (.nil handle)
  next named =>
  split
  · exact .works (.nil handle)
  next closed =>
  exact .opens (by simpa [Handle.isOpen] using closed) named
    (by simp [Event.isInquiry, Notice.isOfTransfer])

private theorem close_effect (patience : Nat) (handle : Handle σ) :
    Effect patience handle handle.close.events handle.close.state := by
  cases opened : handle.session with
  | none =>
    simp only [Handle.close, opened]
    exact .works (.nil handle)
  | some session =>
    simp only [Handle.close, opened]
    exact .closes opened

omit [Device σ] in
/-- Whether an operation neither begins, ends nor steers a session, but works in it. -/
def worksInSession : Operation σ → Bool
  | openPath .. | openDevice .. | close | setOptions _ | signalAbort => false
  | _ => true

/-- What works in a session does so in steps. -/
theorem apply_steps {operation : Operation σ} (works : operation.worksInSession = true) :
    Steps patience handle (operation.apply host patience handle).outcome.events
      (operation.apply host patience handle).outcome.state := by
  cases operation with
  | openPath | openDevice | close | setOptions | signalAbort => cases works
  | isOpen | filename | options | numberOfErrors | errorAt | describe => exact .nil handle
  | geometry | mediaSize | bytesPerSector | maxTransferSize | numberOfSectors =>
    exact geometry_steps patience handle
  | mediaInformation | mediaType | busType => exact mediaInformation_steps patience handle
  | informationValue identifier => exact informationValue_steps ..
  | numberOfSessions | numberOfTracks => exact tableOfContents_steps patience handle
  | sessionAt index => exact sessionAt_steps ..
  | trackAt index => exact trackAt_steps ..
  | offset => exact offset_steps ..
  | seek distance origin => exact seek_steps ..
  | seekByCode distance code => exact seekByCode_steps ..
  | read | readDefault => exact read_steps ..
  | readAt size target => exact readAt_steps ..
  | readBuffer | streamRead => exact readBuffer_steps ..
  | readBufferAt bytes target => exact readBufferAt_steps ..
  | streamReadExact bytes => exact readExact_steps ..
  | streamSeek | streamRewind | streamPosition => exact streamSeek_steps ..

/-- An operation does nothing but what `Effect` lists. -/
theorem apply_effect (host : Host σ) (patience : Nat) (handle : Handle σ)
    (operation : Operation σ) :
    Effect patience handle (operation.apply host patience handle).outcome.events
      (operation.apply host patience handle).outcome.state := by
  cases operation with
  | openPath path mode => exact openPath_effect host patience handle path mode
  | openDevice path device => exact openDevice_effect patience handle path device
  | close => exact close_effect patience handle
  | setOptions chosen => exact .configures chosen
  | signalAbort => exact .signals
  | _ => exact .works (apply_steps rfl)

/-- What inquiries and the events of every step show, all events of an operation show. -/
theorem apply_shows {Holds : Handle σ → Prop} {Shows : Event σ → Prop}
    (keeps : ∀ {handle events after}, Step patience handle events after →
      Holds handle → Holds after)
    (shows : ∀ {handle events after}, Step patience handle events after →
      Holds handle → ∀ event ∈ events, Shows event)
    (inquiries : ∀ event : Event σ, event.isInquiry = true → Shows event)
    (holds : Holds handle) (operation : Operation σ) :
    ∀ event ∈ (operation.apply host patience handle).outcome.events, Shows event := by
  have effect := apply_effect host patience handle operation
  generalize (operation.apply host patience handle).outcome.events = events at effect ⊢
  generalize (operation.apply host patience handle).outcome.state = after at effect
  cases effect with
  | works steps => exact steps.show keeps shows holds
  | opens _ _ quiet =>
    intro event member
    exact inquiries event (quiet event member)
  | closes =>
    intro event member
    obtain rfl := List.mem_singleton.mp member
    exact inquiries _ rfl
  | configures => simp
  | signals => simp

/-- Every response of a run is that of an operation on some handle. -/
theorem exists_of_mem_run {operations : List (Operation σ)} {response : Response σ}
    (member : response ∈ run host patience handle operations) :
    ∃ before operation, response = apply host patience before operation := by
  induction operations generalizing handle with
  | nil => simp [run] at member
  | cons operation rest ih =>
    rw [run] at member
    split at member
    · exact ⟨handle, operation, List.mem_singleton.mp member⟩
    · rcases List.mem_cons.mp member with first | later
      · exact ⟨handle, operation, first⟩
      · exact ih later

/-- Handles in a session that was opened on a device, as long as the session lasts. -/
inductive InSession (host : Host σ) (patience : Nat) (device : σ) : Handle σ → Prop
  | opened {handle : Handle σ} {path : String} (reached : Reachable host patience handle)
      (closed : handle.session = none) (named : path ≠ "") :
      InSession host patience device (handle.startSession path device)
  | step {handle : Handle σ} (operation : Operation σ)
      (within : InSession host patience device handle)
      (returned : (operation.apply host patience handle).outcome.result ≠ .pending)
      (stays : (operation.apply host patience handle).outcome.state.isOpen = true) :
      InSession host patience device (operation.apply host patience handle).outcome.state

theorem InSession.isOpen {device : σ} (within : InSession host patience device handle) :
    handle.isOpen = true := by
  cases within with
  | opened => rfl
  | step _ _ _ stays => exact stays

/-- Every open handle that operations reach is in a session. -/
theorem Reachable.inSession (reached : Reachable host patience handle)
    (opened : handle.isOpen = true) : ∃ device, InSession host patience device handle := by
  induction reached with
  | fresh => simp [Handle.isOpen, withOptions] at opened
  | @step handle operation reached returned ih =>
    by_cases before : handle.isOpen = true
    · obtain ⟨device, within⟩ := ih before
      exact ⟨device, .step operation within returned opened⟩
    · have closed : handle.session = none := by simpa [Handle.isOpen] using before
      have effect := apply_effect host patience handle operation
      generalize (operation.apply host patience handle).outcome.events = events at effect
      generalize (operation.apply host patience handle).outcome.state = after at effect opened ⊢
      cases effect with
      | works steps =>
        cases steps with
        | nil => exact absurd opened before
        | cons step _ => cases step <;> simp_all [Handle.isOpen]
      | opens closed named _ => exact ⟨_, .opened reached closed named⟩
      | closes => simp [Handle.isOpen] at opened
      | configures => exact absurd opened before
      | signals => exact absurd opened before

/-- What a new session has and every step keeps holds throughout a session. -/
theorem InSession.keep {device : σ} {Holds : Handle σ → Prop}
    (fresh : ∀ (handle : Handle σ) (path : String), Holds (handle.startSession path device))
    (keeps : ∀ {handle events after}, Step patience handle events after →
      Holds handle → Holds after)
    (configured : ∀ {handle} options, Holds handle → Holds (handle.setOptions options))
    (signalled : ∀ {handle}, Holds handle → Holds handle.signalAbort)
    (within : InSession host patience device handle) : Holds handle := by
  induction within with
  | opened => exact fresh _ _
  | @step handle operation within returned stays ih =>
    have opened := within.isOpen
    have effect := apply_effect host patience handle operation
    generalize (operation.apply host patience handle).outcome.events = events at effect
    generalize (operation.apply host patience handle).outcome.state = after at effect stays ⊢
    cases effect with
    | works steps => exact steps.keep keeps ih
    | opens closed => simp [Handle.isOpen, closed] at opened
    | closes => simp [Handle.isOpen] at stays
    | configures options => exact configured options ih
    | signals => exact signalled ih

end Operation

end StorageMedia
