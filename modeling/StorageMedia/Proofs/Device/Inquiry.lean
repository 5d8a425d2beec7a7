import StorageMedia.Handle.Basic

/-! # What questions do to a device

Everything that a session finds out about its media it finds out by asking questions. A property of
devices that no question breaks is therefore kept by the resolution of the geometry, and the events
of a resolution are questions and notices, never a read or a seek to an offset. As long as the
devices that are asked are calm, nothing that is found out raises the abort signal.
-/

namespace StorageMedia

variable {σ : Type}

def Notice.isOfTransfer : Notice → Bool
  | aborted _ | readFailed .. | skipped .. => true
  | _ => false

/-- Whether an event neither reads nor moves the device for a transfer nor tells of one. -/
def Event.isInquiry : Event σ → Bool
  | query .. => true
  | notice fact => !fact.isOfTransfer
  | seek .. | read .. => false

/-- What a device can be asked about. -/
inductive Topic
  | geometry
  | information
  | contents
deriving DecidableEq

def Query.topic : Query → Topic
  | mediaSize | seekEnd | bytesPerSector | maxTransferSize => .geometry
  | mediaInformation => .information
  | tableOfContents => .contents

/-- Whether an event is a question about a topic or tells what came of one. -/
def Event.IsAbout (topic : Topic) : Event σ → Prop
  | query _ asked => asked.topic = topic
  | notice fact => fact.isOfTransfer = false
  | seek .. | read .. => False

theorem Event.IsAbout.isInquiry {topic : Topic} {event : Event σ} (about : event.IsAbout topic) :
    event.isInquiry = true := by
  cases event with
  | query => rfl
  | notice fact => simpa [Event.isInquiry, Event.IsAbout] using about
  | seek | read => exact about.elim

variable [Device σ]

def Device.afterQuery (query : Query) (device : σ) : σ :=
  match query with
  | .mediaSize => (Device.mediaSize device).1
  | .seekEnd => (Device.seekEnd device).1
  | .bytesPerSector => (Device.bytesPerSector device).1
  | .maxTransferSize => (Device.maxTransferSize device).1
  | .mediaInformation => (Device.mediaInformation device).1
  | .tableOfContents => (Device.tableOfContents device).1

/-- Nobody signals an abort during a call of the device. -/
structure Device.IsCalm (device : σ) : Prop where
  read (capacity : Nat) : (Device.read device capacity).abort = false
  seek (target : Nat) : Device.signalsInSeek device target = false
  query (asked : Query) : Device.signalsInQuery device asked = false

private def Event.Measures (device : σ) : Event σ → Prop
  | query other asked => other = device ∧ asked.topic = .geometry
  | notice fact => fact.isOfTransfer = false
  | seek .. | read .. => False

private theorem sizeFromMetadata_asks (device : σ) :
    (sizeFromMetadata device).state = Device.afterQuery .mediaSize device ∧
      ∀ event ∈ (sizeFromMetadata device).events, event.Measures device := by
  simp only [sizeFromMetadata]
  split
  · split <;> simp [Device.afterQuery, Event.Measures, Query.topic, Notice.isOfTransfer]
  · simp [Device.afterQuery, Event.Measures, Query.topic, Notice.isOfTransfer]
  · simp [Device.afterQuery, Event.Measures, Query.topic, Notice.isOfTransfer]

private theorem sizeFromEnd_asks (device : σ) :
    (sizeFromEnd device).state = Device.afterQuery .seekEnd device ∧
      ∀ event ∈ (sizeFromEnd device).events, event.Measures device := by
  simp only [sizeFromEnd]
  split <;> simp [Device.afterQuery, Event.Measures, Query.topic, Notice.isOfTransfer]

private theorem resolveBytesPerSector_asks (device : σ) :
    (resolveBytesPerSector device).state = Device.afterQuery .bytesPerSector device ∧
      ∀ event ∈ (resolveBytesPerSector device).events, event.Measures device := by
  simp only [resolveBytesPerSector]
  split <;> simp [Device.afterQuery, Event.Measures, Query.topic, Notice.isOfTransfer]

private theorem resolveMaxTransferSize_asks (device : σ) :
    (resolveMaxTransferSize device).state = Device.afterQuery .maxTransferSize device ∧
      ∀ event ∈ (resolveMaxTransferSize device).events, event.Measures device := by
  simp only [resolveMaxTransferSize]
  split <;> simp [Device.afterQuery, Event.Measures, Query.topic, Notice.isOfTransfer]

section Keeps

variable (Holds : σ → Prop)

/-- What no question breaks survives the resolution of the media size. -/
theorem resolveMediaSize_keeps
    (asked : ∀ device query, Holds device → Holds (Device.afterQuery query device))
    {device : σ} (holds : Holds device) : Holds (resolveMediaSize device).state := by
  have metadata : Holds (sizeFromMetadata device).state := by
    rw [(sizeFromMetadata_asks device).1]
    exact asked _ _ holds
  refine Outcome.andThen_state_of metadata fun size? => ?_
  cases size? with
  | some size => exact metadata
  | none =>
    rw [(sizeFromEnd_asks _).1]
    exact asked _ _ metadata

/-- What no question breaks survives the resolution of the geometry. -/
theorem resolveGeometry_keeps
    (asked : ∀ device query, Holds device → Holds (Device.afterQuery query device))
    {device : σ} (holds : Holds device) : Holds (resolveGeometry device).state := by
  have sized := resolveMediaSize_keeps Holds asked holds
  refine Outcome.andThen_state_of sized fun mediaSize => ?_
  have sectors : Holds (resolveBytesPerSector (resolveMediaSize device).state).state := by
    rw [(resolveBytesPerSector_asks _).1]
    exact asked _ _ sized
  refine Outcome.andThen_state_of sectors fun bytesPerSector => ?_
  rw [Outcome.map_state, (resolveMaxTransferSize_asks _).1]
  exact asked _ _ sectors

private theorem resolveGeometry_measures
    (asked : ∀ device query, Holds device → Holds (Device.afterQuery query device))
    {device : σ} (holds : Holds device) :
    ∀ event ∈ (resolveGeometry device).events, ∃ other, Holds other ∧ event.Measures other := by
  have sized := resolveMediaSize_keeps Holds asked holds
  refine Outcome.andThen_events_of ?_ fun mediaSize => ?_
  · refine Outcome.andThen_events_of
      (fun event member => ⟨_, holds, (sizeFromMetadata_asks device).2 event member⟩)
      fun size? => ?_
    cases size? with
    | some size => simp [Outcome.answer]
    | none =>
      have metadata : Holds (sizeFromMetadata device).state := by
        rw [(sizeFromMetadata_asks device).1]
        exact asked _ _ holds
      exact fun event member => ⟨_, metadata, (sizeFromEnd_asks _).2 event member⟩
  · refine Outcome.andThen_events_of
      (fun event member => ⟨_, sized, (resolveBytesPerSector_asks _).2 event member⟩)
      fun bytesPerSector => ?_
    have sectors : Holds (resolveBytesPerSector (resolveMediaSize device).state).state := by
      rw [(resolveBytesPerSector_asks _).1]
      exact asked _ _ sized
    exact fun event member => ⟨_, sectors, (resolveMaxTransferSize_asks _).2 event member⟩

end Keeps

/-- The geometry is found out by questions about it alone. -/
theorem resolveGeometry_isAbout (device : σ) :
    ∀ event ∈ (resolveGeometry device).events, event.IsAbout .geometry := by
  intro event member
  obtain ⟨_, _, measures⟩ :=
    resolveGeometry_measures (fun _ => True) (fun _ _ _ => trivial) trivial event member
  cases event with
  | query => exact measures.2
  | notice => exact measures
  | seek | read => exact measures.elim

/-- The first question is that for the size of the media. -/
theorem resolveGeometry_begins (device : σ) :
    [.query device .mediaSize] <+: (resolveGeometry device).events := by
  have first : [.query device .mediaSize] <+: (sizeFromMetadata device).events := by
    simp only [sizeFromMetadata]
    split
    · split <;> exact List.prefix_append _ _
    · exact List.prefix_append _ _
    · exact List.prefix_append _ _
  exact first.trans ((Outcome.events_andThen_begin ..).trans (Outcome.events_andThen_begin ..))

omit [Device σ] in
private theorem andThen_ne_pending {α β : Type} {outcome : Outcome σ σ α}
    {rest : α → σ → Outcome σ σ β} (first : outcome.result ≠ .pending)
    (second : ∀ value device, (rest value device).result ≠ .pending) :
    (outcome.andThen rest).result ≠ .pending := by
  simp only [Outcome.andThen]
  split
  · exact second _ _
  · rintro ⟨⟩
  · next waiting => exact absurd waiting first

private theorem resolveMediaSize_ne_pending (device : σ) :
    (resolveMediaSize device).result ≠ .pending := by
  refine andThen_ne_pending ?_ fun size? device => ?_
  · simp only [sizeFromMetadata]
    split
    · split <;> rintro ⟨⟩
    · rintro ⟨⟩
    · rintro ⟨⟩
  · cases size? with
    | some size => rintro ⟨⟩
    | none => simp only [sizeFromEnd]; split <;> rintro ⟨⟩

/-- A device answers its questions at once. -/
theorem resolveGeometry_ne_pending (device : σ) : (resolveGeometry device).result ≠ .pending := by
  refine andThen_ne_pending (resolveMediaSize_ne_pending device) fun mediaSize device => ?_
  refine andThen_ne_pending ?_ fun bytesPerSector device => ?_
  · simp only [resolveBytesPerSector]
    split <;> rintro ⟨⟩
  · simp only [Outcome.map, resolveMaxTransferSize]
    split <;> rintro ⟨⟩

/-- A device whose media size is found has a geometry with this size. -/
theorem resolveGeometry_of_mediaSize {device : σ} {mediaSize : UInt64}
    (found : (resolveMediaSize device).result = .ok mediaSize) :
    ∃ geometry, (resolveGeometry device).result = .ok geometry ∧
      geometry.mediaSize = mediaSize := by
  have sectors (device : σ) : ∃ size?, (resolveBytesPerSector device).result = .ok size? := by
    simp only [resolveBytesPerSector]
    split <;> exact ⟨_, rfl⟩
  have transfers (device : σ) : ∃ size?, (resolveMaxTransferSize device).result = .ok size? := by
    simp only [resolveMaxTransferSize]
    split <;> exact ⟨_, rfl⟩
  obtain ⟨bytesPerSector, sized⟩ := sectors (resolveMediaSize device).state
  obtain ⟨maxTransferSize, bounded⟩ :=
    transfers (resolveBytesPerSector (resolveMediaSize device).state).state
  refine ⟨{ mediaSize, bytesPerSector, maxTransferSize }, ?_, rfl⟩
  rw [resolveGeometry, Outcome.andThen_of_ok found, Outcome.andThen_of_ok sized]
  simp only [Outcome.map, bounded, Result.map]

private theorem sizeFromMetadata_answers (device : σ) :
    ∃ size?, (sizeFromMetadata device).result = .ok size? := by
  simp only [sizeFromMetadata]
  split
  · split <;> exact ⟨_, rfl⟩
  · exact ⟨_, rfl⟩
  · exact ⟨_, rfl⟩

private theorem sizeFromMetadata_none_iff (device : σ) :
    (sizeFromMetadata device).result = .ok none ↔
      ∀ size, (Device.mediaSize device).2 = .ok (some size) → size = 0 := by
  simp only [sizeFromMetadata]
  split
  · next size reported =>
    rw [reported]
    split
    · next positive =>
      have some : size ≠ 0 := fun none => absurd positive (by rw [none]; decide)
      simp [some]
    · next zero => simpa using UInt64.le_zero_iff.mp (UInt64.not_lt.mp zero)
  · next unreported => simp [unreported]
  · next failed => simp [failed]

private theorem sizeFromEnd_error_iff {device : σ} {cause : Error} :
    (sizeFromEnd device).result = .error cause ↔
      cause = .geometryUnavailable ∧ ∃ error, (Device.seekEnd device).2 = .error error := by
  simp only [sizeFromEnd]
  split
  · next found => simp [found]
  · next failed => simp [failed, eq_comm]

private theorem resolveMediaSize_error_iff {device : σ} {cause : Error} :
    (resolveMediaSize device).result = .error cause ↔
      (sizeFromMetadata device).result = .ok none ∧
        (sizeFromEnd (Device.mediaSize device).1).result = .error cause := by
  obtain ⟨size?, metadata⟩ := sizeFromMetadata_answers device
  rw [resolveMediaSize, Outcome.andThen_of_ok metadata, (sizeFromMetadata_asks device).1, metadata]
  cases size? <;> simp [Outcome.answer, Device.afterQuery]

/-- A geometry is missing only because the media size is, and the media size only because neither
the metadata gives a positive one nor a seek finds the end. -/
theorem resolveGeometry_error_iff {device : σ} {cause : Error} :
    (resolveGeometry device).result = .error cause ↔
      cause = .geometryUnavailable ∧
      (∀ size, (Device.mediaSize device).2 = .ok (some size) → size = 0) ∧
        ∃ error, (Device.seekEnd (Device.mediaSize device).1).2 = .error error := by
  have unsized : (resolveGeometry device).result = .error cause ↔
      (resolveMediaSize device).result = .error cause := by
    cases size : (resolveMediaSize device).result with
    | ok mediaSize =>
      obtain ⟨geometry, found, _⟩ := resolveGeometry_of_mediaSize size
      simp [found]
    | pending => exact absurd size (resolveMediaSize_ne_pending device)
    | error other => simp [resolveGeometry, Outcome.andThen, size]
  rw [unsized, resolveMediaSize_error_iff, sizeFromMetadata_none_iff, sizeFromEnd_error_iff]
  exact and_left_comm

namespace Session

theorem geometry_ne_pending (session : Session σ) : session.geometry.result ≠ .pending := by
  simp only [geometry]
  split
  · rintro ⟨⟩
  · exact resolveGeometry_ne_pending session.device

theorem geometry_error {session : Session σ} {cause : Error}
    (failed : session.geometry.result = .error cause) : cause = .geometryUnavailable := by
  simp only [geometry] at failed
  split at failed
  · cases failed
  · exact (resolveGeometry_error_iff.mp failed).1

/-- A geometry that was found is kept. -/
theorem knownGeometry_of_geometry_ok {session : Session σ} {found : Geometry}
    (succeeded : session.geometry.result = .ok found) :
    session.geometry.state.knownGeometry = some found := by
  cases known : session.knownGeometry with
  | some geometry =>
    rw [geometry_of_known known] at succeeded ⊢
    rw [Outcome.answer] at succeeded ⊢
    simp only [Result.ok.injEq] at succeeded
    rw [known, succeeded]
  | none =>
    simp only [geometry, known] at succeeded ⊢
    rw [succeeded]

theorem geometry_inquires (session : Session σ) :
    ∀ event ∈ session.geometry.events, event.isInquiry = true := by
  simp only [geometry]
  split
  · simp [Outcome.answer]
  · exact fun event member => (resolveGeometry_isAbout session.device event member).isInquiry

/-- Calm devices tell their geometry without an abort. -/
theorem geometry_calm {Holds : σ → Prop}
    (asked : ∀ device query, Holds device → Holds (Device.afterQuery query device))
    (calm : ∀ device, Holds device → Device.IsCalm device) {session : Session σ}
    (holds : Holds session.device) : ∀ event ∈ session.geometry.events, event.raises = false := by
  simp only [geometry]
  split
  · simp [Outcome.answer]
  · intro event member
    obtain ⟨device, obeys, measures⟩ := resolveGeometry_measures Holds asked holds event member
    cases event with
    | query => exact measures.1 ▸ (calm device obeys).query _
    | notice => rfl
    | seek | read => exact measures.elim

theorem mediaInformation_inquires (session : Session σ) :
    ∀ event ∈ session.mediaInformation.events, event.isInquiry = true := by
  simp only [mediaInformation]
  split
  · simp [Outcome.answer]
  · split <;> simp [Event.isInquiry, Notice.isOfTransfer]

theorem mediaInformation_calm {session : Session σ} (calm : Device.IsCalm session.device) :
    ∀ event ∈ session.mediaInformation.events, event.raises = false := by
  simp only [mediaInformation]
  split
  · simp [Outcome.answer]
  · split <;> simp [Event.raises, calm.query]

theorem tableOfContents_inquires (session : Session σ) :
    ∀ event ∈ session.tableOfContents.events, event.isInquiry = true := by
  simp only [tableOfContents]
  split
  · simp [Outcome.answer]
  · split <;> simp [Event.isInquiry, Notice.isOfTransfer]

theorem tableOfContents_calm {session : Session σ} (calm : Device.IsCalm session.device) :
    ∀ event ∈ session.tableOfContents.events, event.raises = false := by
  simp only [tableOfContents]
  split
  · simp [Outcome.answer]
  · split <;> simp [Event.raises, calm.query]

end Session

/-- What raises no signal leaves that of the handle as it is. -/
theorem Handle.aborted_resume {α : Type} {ran : Outcome σ (Session σ) α}
    (calm : ∀ event ∈ ran.events, event.raises = false) (handle : Handle σ) :
    (handle.resume ran).aborted = handle.aborted := by
  simp only [resume, Bool.or_eq_left_iff_imp, List.any_eq_true]
  rintro ⟨event, member, raised⟩
  exact absurd raised (by simp [calm event member])

end StorageMedia
