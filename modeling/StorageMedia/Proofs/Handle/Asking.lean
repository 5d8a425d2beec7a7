import StorageMedia.Proofs.Handle.Consultation
import StorageMedia.Proofs.Handle.Openings

/-! # What operations ask about

The questions of an operation are about what it needs to know and about nothing else: to read, or to
seek from the end, takes the geometry alone, and what neither reads nor tells anything of the media
asks nothing. What an operation does not need therefore stays as unknown as it was.
-/

namespace StorageMedia

variable {σ : Type}

namespace Handle

/-- The device is asked about one topic at most, or about none. -/
structure AsksOnly {α : Type} (topic? : Option Topic) (outcome : Outcome σ (Handle σ) α) :
    Prop where
  about : ∀ event ∈ outcome.events, ∀ topic, event.Asks topic → topic? = some topic

variable {patience : Nat} {handle : Handle σ} {events : List (Event σ)} {topic? : Option Topic}
  {α β : Type}

namespace AsksOnly

variable {outcome : Outcome σ (Handle σ) α}

theorem refuse (topic? : Option Topic) (cause : Error) (handle : Handle σ) :
    AsksOnly topic? (.refuse cause handle : Outcome σ (Handle σ) α) := ⟨by simp [Outcome.refuse]⟩

theorem answer (topic? : Option Topic) (value : α) (handle : Handle σ) :
    AsksOnly topic? (.answer value handle : Outcome σ (Handle σ) α) := ⟨by simp [Outcome.answer]⟩

theorem reports (topic? : Option Topic)
    (notices : ∀ event ∈ outcome.events, ∃ fact, event = .notice fact) :
    AsksOnly topic? outcome := by
  refine ⟨fun event member topic asks => ?_⟩
  obtain ⟨fact, rfl⟩ := notices event member
  exact asks.elim

theorem map (asks : AsksOnly topic? outcome) (f : α → β) : AsksOnly topic? (outcome.map f) :=
  ⟨asks.about⟩

theorem andThen (first : AsksOnly topic? outcome) {rest : α → Handle σ → Outcome σ (Handle σ) β}
    (second : ∀ value handle, AsksOnly topic? (rest value handle)) :
    AsksOnly topic? (outcome.andThen rest) :=
  ⟨Outcome.andThen_events_of first.about fun value => (second value _).about⟩

/-- What asks nothing asks about no other topic. -/
theorem of_none (asks : AsksOnly none outcome) (topic? : Option Topic) :
    AsksOnly topic? outcome := by
  refine ⟨fun event member topic asked => ?_⟩
  cases asks.about event member topic asked

theorem find [Device σ] (topic : Topic) (handle : Handle σ) :
    AsksOnly (some topic) (handle.onSession (Session.find topic)) := by
  cases opened : handle.session with
  | none =>
    rw [onSession_closed opened]
    exact .refuse ..
  | some session =>
    simp only [onSession, opened, Outcome.mapState]
    refine ⟨fun event member other asks => ?_⟩
    rw [(session.find_about topic event member).eq_of_asks asks]

end AsksOnly

variable [Device σ]

theorem geometry_asksOnly (handle : Handle σ) : AsksOnly (some .geometry) handle.geometry :=
  .find .geometry handle

theorem mediaInformation_asksOnly (handle : Handle σ) :
    AsksOnly (some .information) handle.mediaInformation := .find .information handle

theorem tableOfContents_asksOnly (handle : Handle σ) :
    AsksOnly (some .contents) handle.tableOfContents := .find .contents handle

omit [Device σ] in
theorem seekFrom_asksOnly (handle : Handle σ) (base : Nat) (offset : Int) (origin : Origin) :
    AsksOnly topic? (handle.seekFrom base offset origin) := by
  simp only [seekFrom]
  split
  · exact .answer ..
  · exact .refuse ..

/-- Only a seek from the end asks anything. -/
theorem seek_asksOnly (handle : Handle σ) (offset : Int) (origin : Origin) :
    AsksOnly (Operation.seek offset origin : Operation σ).topic? (handle.seek offset origin) := by
  simp only [seek]
  cases origin with
  | start | current =>
    dsimp only
    split
    · exact seekFrom_asksOnly ..
    · exact .refuse ..
  | mediaEnd => exact ((geometry_asksOnly handle).map _).andThen fun _ _ => seekFrom_asksOnly ..

theorem seekStart_asksOnly (handle : Handle σ) (offset : Nat) :
    AsksOnly none (handle.seekStart offset) := by
  simp only [seekStart]
  split
  · exact seek_asksOnly handle offset .start
  · exact .refuse ..

theorem readBuffer_asksOnly (patience : Nat) (handle : Handle σ) (bytes : Bytes) :
    AsksOnly (some .geometry) (handle.readBuffer patience bytes).outcome := by
  have reads := readBuffer_readsTo patience handle bytes
  generalize handle.readBuffer patience bytes = read at reads ⊢
  have asked (session : Session σ) :
      ∀ event ∈ session.geometry.events, ∀ topic, event.Asks topic → some .geometry = some topic :=
    fun event member topic asks => by
      rw [(session.find_about .geometry event member).eq_of_asks asks]
  cases reads with
  | closed => exact .refuse ..
  | unmeasured => exact ⟨asked _⟩
  | outside => exact ⟨asked _⟩
  | @transferred session geometry size transfer opened found clamped positive runs =>
    have confined := Transfer.read_confined handle.options patience session.geometry.state
      (handle.resume session.geometry).aborted handle.cursor (bytes.take size)
    rw [runs] at confined
    refine ⟨fun event member topic asks => ?_⟩
    rcases List.mem_append.mp member with asking | moving
    · exact asked session event asking topic asks
    · exact absurd asks ((confined.events event (List.mem_reverse.mp moving)).unasked topic)

theorem readBufferAt_asksOnly (patience : Nat) (handle : Handle σ) (bytes : Bytes) (offset : Nat) :
    AsksOnly (some .geometry) (handle.readBufferAt patience bytes offset).outcome := by
  have moved := (seekStart_asksOnly handle offset).of_none (some .geometry)
  simp only [readBufferAt]
  split
  · refine ⟨fun event member => ?_⟩
    rcases List.mem_append.mp member with early | late
    · exact moved.about event early
    · exact (readBuffer_asksOnly ..).about event late
  · exact ⟨moved.about⟩
  · exact ⟨moved.about⟩

theorem readUpTo_asksOnly (patience : Nat) (handle : Handle σ) (size : Nat) :
    AsksOnly (some .geometry) (handle.readUpTo patience size) :=
  ((geometry_asksOnly handle).map _).andThen fun _ _ => (readBuffer_asksOnly ..).map _

theorem read_asksOnly (patience : Nat) (handle : Handle σ) (size : Int) :
    AsksOnly (some .geometry) (handle.read patience size) := by
  simp only [read]
  split
  · exact readUpTo_asksOnly ..
  · exact .refuse ..

private theorem seek_start_of_far {target : Int} (far : ¬ target ≤ maxSeekOffset)
    (handle : Handle σ) : ∃ cause, handle.seek target .start = .refuse cause handle := by
  simp only [seek, seekFrom]
  split
  · exact ⟨_, if_neg (by omega)⟩
  · exact ⟨_, rfl⟩

theorem readAt_asksOnly (patience : Nat) (handle : Handle σ) (size target : Int) :
    AsksOnly (Operation.readAt size target : Operation σ).topic?
      (handle.readAt patience size target) := by
  simp only [readAt]
  cases checkReadSize size with
  | error cause => exact .refuse ..
  | ok size =>
    dsimp only
    by_cases negative : target < 0
    · rw [if_pos negative]
      exact .refuse ..
    rw [if_neg negative]
    by_cases reachable : target ≤ maxSeekOffset
    · simp only [Operation.topic?, if_pos reachable]
      exact ((seek_asksOnly handle target .start).of_none _).andThen fun _ _ => readUpTo_asksOnly ..
    · obtain ⟨cause, refused⟩ := seek_start_of_far reachable handle
      rw [refused, Outcome.andThen_refuse]
      exact .refuse ..

private theorem fill_asksOnly {calls : Nat} {filling : Filling}
    (before : ∀ event ∈ events, ∀ topic, event.Asks topic → some .geometry = some topic) :
    AsksOnly (some .geometry) (handle.fill patience calls filling events).2 := by
  induction calls generalizing handle filling events with
  | zero => exact ⟨before⟩
  | succ calls ih =>
    have further : ∀ event ∈ events ++ (handle.readBuffer patience filling.rest).outcome.events,
        ∀ topic, event.Asks topic → some .geometry = some topic := by
      intro event member
      rcases List.mem_append.mp member with early | late
      · exact before event early
      · exact (readBuffer_asksOnly patience handle filling.rest).about event late
    rw [fill]
    split
    · exact ⟨before⟩
    dsimp only
    split
    · exact ⟨further⟩
    · exact ih further
    · split
      · exact ih further
      · exact ⟨further⟩
    · exact ⟨further⟩

theorem readExact_asksOnly (patience : Nat) (handle : Handle σ) (bytes : Bytes) :
    AsksOnly (Operation.streamReadExact bytes : Operation σ).topic?
      (handle.readExact patience bytes).2 := by
  simp only [Operation.topic?]
  by_cases full : bytes.size = 0
  · simp only [readExact, fill, if_pos full]
    exact .answer ..
  · simp only [if_neg full, readExact]
    exact fill_asksOnly (by simp)

end Handle

namespace Operation

variable [Device σ] {host : Host σ} {patience : Nat} {handle : Handle σ} {operation : Operation σ}

open Handle

/-- An operation asks about what it needs to know and about nothing else. -/
theorem apply_asksOnly (host : Host σ) (patience : Nat) (handle : Handle σ)
    (operation : Operation σ) :
    AsksOnly operation.topic? (operation.apply host patience handle).outcome := by
  cases operation with
  | openPath | openDevice => exact .reports _ (apply_opening host patience handle _ rfl).1
  | close =>
    refine .map ?_ _
    simp only [Handle.close]
    split
    · exact .refuse ..
    · exact .reports _ (by simp)
  | isOpen | filename | options | setOptions | numberOfErrors | errorAt | signalAbort | describe =>
    exact .answer ..
  | geometry | numberOfSectors => exact handle.geometry_asksOnly.map _
  | mediaSize | bytesPerSector | maxTransferSize => exact (handle.geometry_asksOnly.map _).map _
  | mediaInformation => exact handle.mediaInformation_asksOnly.map _
  | mediaType | busType => exact (handle.mediaInformation_asksOnly.map _).map _
  | informationValue identifier =>
    refine .map ?_ _
    simp only [Handle.informationValue]
    split
    · exact .refuse ..
    · exact handle.mediaInformation_asksOnly.map _
  | numberOfSessions | numberOfTracks => exact (handle.tableOfContents_asksOnly.map _).map _
  | sessionAt | trackAt =>
    refine .map (handle.tableOfContents_asksOnly.andThen fun contents _ => ?_) _
    split
    · exact .answer ..
    · exact .refuse ..
  | offset =>
    refine .map ?_ _
    simp only [Handle.offset]
    split
    · exact .answer ..
    · exact .refuse ..
  | seek distance origin => exact (handle.seek_asksOnly distance origin).map _
  | seekByCode distance code =>
    refine .map ?_ _
    simp only [Handle.seekByCode, Origin.ofCode, topic?]
    by_cases atEnd : code = 2
    · subst atEnd
      exact handle.seek_asksOnly distance .mediaEnd
    · simp only [if_neg atEnd]
      split
      · next origin coded =>
        split at coded
        · cases coded
          exact handle.seek_asksOnly distance .start
        · split at coded
          · cases coded
            exact handle.seek_asksOnly distance .current
          · cases coded
      · exact .refuse ..
  | read | readDefault => exact (handle.read_asksOnly ..).map _
  | readAt size target => exact (handle.readAt_asksOnly patience size target).map _
  | readBuffer bytes | streamRead bytes => exact (handle.readBuffer_asksOnly ..).map _
  | readBufferAt bytes target => exact (handle.readBufferAt_asksOnly patience bytes target).map _
  | streamReadExact bytes => exact (handle.readExact_asksOnly patience bytes).map _
  | streamSeek position =>
    cases position with
    | start target => exact (handle.seekStart_asksOnly target).map _
    | current distance => exact (handle.seek_asksOnly distance .current).map _
    | streamEnd distance => exact (handle.seek_asksOnly distance .mediaEnd).map _
  | streamRewind => exact ((handle.seekStart_asksOnly 0).map _).map _
  | streamPosition => exact ((handle.seek_asksOnly 0 .current)).map _

end Operation

end StorageMedia
