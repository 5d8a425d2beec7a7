import StorageMedia.Proofs.Handle.Knowledge
import StorageMedia.Proofs.Handle.Lifecycle
import StorageMedia.Proofs.Handle.Requests

/-! # What operations draw on

An operation that needs a fact consults the session about it before it does anything else. If the
fact is not found out, the operation fails with that and the fact stays unknown, so that the next
operation that needs it asks again. If it is found out, the operation asks no more, and what it
answers, how far it reads and where it seeks follow from the fact that the session keeps.
-/

namespace StorageMedia

variable {σ : Type} [Device σ]

/-- The outcome of an operation that consults the session about a topic first. -/
inductive Handle.Consults {α : Type} (topic : Topic) (session : Session σ)
    (outcome : Outcome σ (Handle σ) α) : Prop
  | failed {cause : Error} (failed : (session.find topic).result = .error cause)
      (result : outcome.result = .error cause) (unknown : outcome.state.known topic = none)
      (events : outcome.events = (session.find topic).events)
  | found {fact : topic.Fact} {rest : List (Event σ)}
      (found : (session.find topic).result = .ok fact)
      (known : outcome.state.known topic = some fact)
      (events : outcome.events = (session.find topic).events ++ rest)
      (unasked : ∀ event ∈ rest, ¬ event.Asks topic)

namespace Handle

variable {patience : Nat} {handle : Handle σ} {session : Session σ} {topic : Topic} {α β : Type}

namespace Consults

variable {outcome : Outcome σ (Handle σ) α}

/-- The consultation itself. -/
theorem find (opened : handle.session = some session) (topic : Topic) :
    Consults topic session (handle.onSession (Session.find topic)) := by
  simp only [onSession, opened, Outcome.mapState]
  cases result : (session.find topic).result with
  | pending => exact absurd result (session.find_returns topic)
  | error cause => exact .failed result rfl (Session.unknown_of_failed topic result).2 rfl
  | ok fact =>
    exact .found result (Session.known_of_found topic result) (List.append_nil _).symm (by simp)

theorem map (consults : Consults topic session outcome) (f : α → β) :
    Consults topic session (outcome.map f) := by
  cases consults with
  | failed failed result unknown events =>
    exact .failed failed (by simp [Outcome.map, result, Result.map]) unknown events
  | found found known events unasked => exact .found found known events unasked

/-- What follows on a success works on a session that knows the fact. -/
theorem andThen (consults : Consults topic session outcome) (patience : Nat)
    {rest : α → Handle σ → Outcome σ (Handle σ) β}
    (works : ∀ value, outcome.result = .ok value →
      Steps patience outcome.state (rest value outcome.state).events
        (rest value outcome.state).state) :
    Consults topic session (outcome.andThen rest) := by
  cases consults with
  | failed failed result unknown events =>
    simp only [Outcome.andThen, result]
    exact .failed failed rfl unknown events
  | @found fact before found known events unasked =>
    simp only [Outcome.andThen]
    split
    · next value succeeded =>
      have keeps := (works value succeeded).keeps known
      refine .found found keeps.known (by rw [events, List.append_assoc]) fun event member => ?_
      rcases List.mem_append.mp member with early | late
      · exact unasked event early
      · exact keeps.unasked event late
    · exact .found found known events unasked
    · exact .found found known events unasked

end Consults

theorem geometry_consults (opened : handle.session = some session) :
    Consults .geometry session handle.geometry := .find opened .geometry

theorem mediaSize_consults (opened : handle.session = some session) :
    Consults .geometry session handle.mediaSize := (geometry_consults opened).map _

theorem mediaInformation_consults (opened : handle.session = some session) :
    Consults .information session handle.mediaInformation := .find opened .information

theorem tableOfContents_consults (opened : handle.session = some session) :
    Consults .contents session handle.tableOfContents := .find opened .contents

theorem readBuffer_consults (opened : handle.session = some session) (patience : Nat)
    (bytes : Bytes) :
    Consults .geometry session (handle.readBuffer patience bytes).outcome := by
  have reads := readBuffer_readsTo patience handle bytes
  generalize handle.readBuffer patience bytes = read at reads ⊢
  cases reads with
  | closed closed => simp [opened] at closed
  | unmeasured other failed =>
    obtain rfl := Option.some.inj (opened.symm.trans other)
    have unknown : session.geometry.state.known .geometry = none :=
      (Session.unknown_of_failed .geometry failed).2
    exact .failed failed rfl unknown rfl
  | outside other found =>
    obtain rfl := Option.some.inj (opened.symm.trans other)
    have known : session.geometry.state.known .geometry = some _ :=
      Session.known_of_found .geometry found
    exact .found found known (List.append_nil _).symm (by simp)
  | @transferred _ geometry size _ other found clamped positive runs =>
    obtain rfl := Option.some.inj (opened.symm.trans other)
    obtain ⟨taken, _, fits⟩ := clamped_bounds clamped positive
    rw [← taken] at positive fits
    subst runs
    obtain ⟨measured, after⟩ : ∃ measured : Handle σ,
      measured = handle.resume session.geometry := ⟨_, rfl⟩
    have known : measured.known .geometry = some geometry := by
      rw [after]
      exact Session.known_of_found .geometry found
    have reopened : measured.session = some session.geometry.state := by rw [after]; rfl
    have transferred : Step patience measured _ _ := .transfer (bytes.take size) reopened
      (Session.knownGeometry_of_geometry_ok found) positive (by rw [after]; exact fits)
    have keeps := transferred.keeps known
    rw [after] at keeps
    exact .found found keeps.known rfl keeps.unasked

theorem readUpTo_consults (opened : handle.session = some session) (patience size : Nat) :
    Consults .geometry session (handle.readUpTo patience size) :=
  (mediaSize_consults opened).andThen patience fun _ _ => readBuffer_steps ..

theorem read_consults (opened : handle.session = some session) (patience : Nat) {size : Int}
    (formed : sizeFault? size = none) :
    Consults .geometry session (handle.read patience size) := by
  simp only [read, checkReadSize_eq, formed]
  exact readUpTo_consults opened patience size.toNat

/-- Filling a buffer begins with a read into it. -/
theorem readExact_consults (opened : handle.session = some session) (patience : Nat)
    {bytes : Bytes} (room : bytes.size ≠ 0) :
    Consults .geometry session (handle.readExact patience bytes).2 := by
  have read := readBuffer_consults opened patience bytes
  simp only [readExact, fill, if_neg room, List.nil_append]
  cases read with
  | failed failed result unknown events =>
    have cause : _ = Error.geometryUnavailable := Session.geometry_error failed
    subst cause
    simp only [result]
    rw [if_neg (by decide)]
    exact .failed failed rfl unknown events
  | @found fact before found known events unasked =>
    have goesOn (calls : Nat) (filling : Filling) : Consults .geometry session
        ((handle.readBuffer patience bytes).outcome.state.fill patience calls filling
          (handle.readBuffer patience bytes).outcome.events).2 := by
      obtain ⟨more, all, steps⟩ := fill_steps patience
        (handle.readBuffer patience bytes).outcome.state calls filling
        (handle.readBuffer patience bytes).outcome.events
      have keeps := steps.keeps known
      refine .found found keeps.known (by rw [all, events, List.append_assoc]) ?_
      intro event member
      rcases List.mem_append.mp member with early | late
      · exact unasked event early
      · exact keeps.unasked event late
    split
    · exact .found found known events unasked
    · exact goesOn ..
    · split
      · exact goesOn ..
      · exact .found found known events unasked
    · exact .found found known events unasked

theorem seekEnd_consults (opened : handle.session = some session) (distance : Int) :
    Consults .geometry session (handle.seek distance .mediaEnd) := by
  have isOpen : handle.mediaSize.state.isOpen = true := by
    rw [mediaSize, Outcome.map_state, geometry, onSession_state opened]
    rfl
  simp only [seek]
  exact (mediaSize_consults opened).andThen 0 fun _ _ => seekFrom_steps isOpen ..

end Handle

namespace Operation

omit [Device σ] in
/-- The topic that an operation needs to know something about, if its arguments pass. -/
def topic? : Operation σ → Option Topic
  | geometry | mediaSize | bytesPerSector | maxTransferSize | numberOfSectors
  | seek _ .mediaEnd | streamSeek (.streamEnd _)
  | read _ | readDefault | readBuffer _ | readBufferAt .. | streamRead _ => some .geometry
  | seekByCode _ code => if code = 2 then some .geometry else none
  | readAt _ target => if target ≤ maxSeekOffset then some .geometry else none
  | streamReadExact bytes => if bytes.size = 0 then none else some .geometry
  | mediaInformation | mediaType | busType | informationValue _ => some .information
  | numberOfSessions | sessionAt _ | numberOfTracks | trackAt _ => some .contents
  | _ => none

variable {host : Host σ} {patience : Nat} {handle : Handle σ} {session : Session σ}
  {operation : Operation σ} {topic : Topic}

open Handle

/-- What an operation needs to know it consults the session about first. -/
theorem apply_consults (opened : handle.session = some session)
    (formed : operation.fault? handle.options = none) (needs : operation.topic? = some topic) :
    Consults topic session (operation.apply host patience handle).outcome := by
  have isOpen : handle.isOpen = true := by simp [Handle.isOpen, opened]
  -- A handle that was moved has the same session.
  have moved (target : Nat) :
      ({ handle with cursor := target } : Handle σ).session = some session := opened
  cases operation with
  | openPath | openDevice | close | isOpen | filename | options | setOptions | offset | streamRewind
  | streamPosition | numberOfErrors | errorAt | signalAbort | describe => cases needs
  | geometry | numberOfSectors =>
    cases needs
    exact (geometry_consults opened).map _
  | mediaSize | bytesPerSector | maxTransferSize =>
    cases needs
    exact ((geometry_consults opened).map _).map _
  | mediaInformation =>
    cases needs
    exact (mediaInformation_consults opened).map _
  | mediaType | busType =>
    cases needs
    exact ((mediaInformation_consults opened).map _).map _
  | informationValue identifier =>
    cases needs
    simp only [fault?, ite_eq_right_iff, reduceCtorEq, imp_false] at formed
    simp only [apply, Response.of, Handle.informationValue, if_neg formed]
    exact ((mediaInformation_consults opened).map _).map _
  | numberOfSessions | numberOfTracks =>
    cases needs
    exact ((tableOfContents_consults opened).map _).map _
  | sessionAt index | trackAt index =>
    cases needs
    refine .map ((tableOfContents_consults opened).andThen patience fun contents _ => ?_) _
    split <;> exact .nil _
  | seek distance origin =>
    cases origin with
    | start | current => cases needs
    | mediaEnd =>
      cases needs
      exact (seekEnd_consults opened distance).map _
  | seekByCode distance code =>
    simp only [topic?] at needs
    split at needs
    · next code =>
      cases needs
      subst code
      exact (seekEnd_consults opened distance).map _
    · cases needs
  | read | readDefault =>
    cases needs
    exact (read_consults opened patience formed).map _
  | readAt size target =>
    simp only [topic?] at needs
    split at needs
    · next reachable =>
      cases needs
      simp only [fault?, Option.or_eq_none_iff, ite_eq_right_iff, reduceCtorEq, imp_false] at formed
      obtain ⟨sized, placed⟩ := formed
      obtain ⟨target, rfl⟩ := Int.eq_ofNat_of_zero_le (Int.not_lt.mp placed)
      have near : target ≤ maxSeekOffset := by omega
      simp only [apply, Handle.readAt, checkReadSize_eq, sized, if_neg placed,
        seek_start_of_open isOpen near, Outcome.andThen_answer]
      exact (readUpTo_consults (moved target) patience size.toNat).map _
    · cases needs
  | readBuffer bytes | streamRead bytes =>
    cases needs
    exact (readBuffer_consults opened patience bytes).map _
  | readBufferAt bytes target =>
    cases needs
    simp only [fault?, ite_eq_left_iff, reduceCtorEq, imp_false, Decidable.not_not] at formed
    simp only [apply, Handle.readBufferAt, Handle.seekStart, if_pos formed,
      seek_start_of_open isOpen formed, Outcome.answer, List.nil_append]
    exact (readBuffer_consults (moved target) patience bytes).map _
  | streamReadExact bytes =>
    simp only [topic?] at needs
    split at needs
    · cases needs
    · next room =>
      cases needs
      exact (readExact_consults opened patience room).map _
  | streamSeek position =>
    cases position with
    | start | current => cases needs
    | streamEnd distance =>
      cases needs
      exact (seekEnd_consults opened distance).map _

end Operation

omit [Device σ] in
def Geometry.seekEnd (geometry : Geometry) (distance : Int) : Result Value :=
  let target := (geometry.mediaSize.toNat : Int) + distance
  if geometry.mediaSize.toNat ≤ maxSeekOffset ∧ 0 ≤ target ∧ target ≤ maxSeekOffset then
    .ok (.nat target.toNat)
  else .error (.outOfBounds distance .mediaEnd)

/-- What an operation is answered if that follows from the geometry alone. -/
def Geometry.tells? (geometry : Geometry) : Operation σ → Option (Result Value)
  | .geometry => some (.ok (.geometry geometry))
  | .mediaSize => some (.ok (.nat geometry.mediaSize.toNat))
  | .bytesPerSector => some (.ok (.optionalNat (geometry.bytesPerSector.map (·.toNat))))
  | .maxTransferSize => some (.ok (.optionalNat (geometry.maxTransferSize.map (·.toNat))))
  | .numberOfSectors => some (.ok (.sectorCount geometry.numberOfSectors))
  | .seek distance .mediaEnd | .streamSeek (.streamEnd distance) => some (geometry.seekEnd distance)
  | .seekByCode distance code => if code = 2 then some (geometry.seekEnd distance) else none
  | _ => none

def MediaInformation.tells? (information : MediaInformation) : Operation σ → Option (Result Value)
  | .mediaInformation => some (.ok (.mediaInformation information))
  | .mediaType => some (.ok (.mediaType information.mediaType))
  | .busType => some (.ok (.busType information.busType))
  | .informationValue identifier => some (.ok (.optionalText (information.value? identifier)))
  | _ => none

def TableOfContents.tells? (contents : TableOfContents) : Operation σ → Option (Result Value)
  | .numberOfSessions => some (.ok (.nat contents.sessions.length))
  | .numberOfTracks => some (.ok (.nat contents.tracks.length))
  | .sessionAt index => some <|
    match contents.sessions[index]? with
    | some session => .ok (.session session)
    | none => .error (.invalidArgument (.sessionIndex index))
  | .trackAt index => some <|
    match contents.tracks[index]? with
    | some track => .ok (.track track)
    | none => .error (.invalidArgument (.trackIndex index))
  | _ => none

/-- What an operation is answered if that follows from a fact alone. -/
def Topic.tells? : (topic : Topic) → topic.Fact → Operation σ → Option (Result Value)
  | .geometry => Geometry.tells?
  | .information => MediaInformation.tells?
  | .contents => TableOfContents.tells?

namespace Operation

variable {host : Host σ} {patience : Nat} {handle : Handle σ} {session : Session σ}
  {operation : Operation σ} {topic : Topic}

open Handle

private theorem result_seekEnd {geometry : Geometry} (found : handle.geometry.result = .ok geometry)
    (distance : Int) :
    (handle.seek distance .mediaEnd).result.map Value.nat = geometry.seekEnd distance := by
  have sized : handle.mediaSize.result = .ok geometry.mediaSize := by
    simp only [Handle.mediaSize, Outcome.map, found, Result.map]
  simp only [Handle.seek, Outcome.andThen_of_ok sized, seekFrom, Geometry.seekEnd]
  split <;> rfl

private theorem geometry_tells {geometry : Geometry} (found : handle.geometry.result = .ok geometry)
    {told : Result Value} (tells : geometry.tells? operation = some told) :
    (operation.apply host patience handle).outcome.result = told := by
  cases operation with
  | geometry | mediaSize | bytesPerSector | maxTransferSize | numberOfSectors =>
    cases tells
    simp only [apply, Response.of, Handle.mediaSize, Handle.bytesPerSector, Handle.maxTransferSize,
      Outcome.map, found, Result.map]
  | seek distance origin =>
    cases origin with
    | start | current => cases tells
    | mediaEnd =>
      cases tells
      exact result_seekEnd found distance
  | seekByCode distance code =>
    simp only [Geometry.tells?] at tells
    split at tells
    · next code =>
      cases tells
      subst code
      exact result_seekEnd found distance
    · cases tells
  | streamSeek position =>
    cases position with
    | start | current => cases tells
    | streamEnd distance =>
      cases tells
      exact result_seekEnd found distance
  | _ => cases tells

private theorem information_tells {information : MediaInformation}
    (formed : operation.fault? handle.options = none)
    (found : handle.mediaInformation.result = .ok information) {told : Result Value}
    (tells : information.tells? operation = some told) :
    (operation.apply host patience handle).outcome.result = told := by
  cases operation with
  | mediaInformation | mediaType | busType =>
    cases tells
    simp only [apply, Response.of, Handle.mediaType, Handle.busType, Outcome.map, found, Result.map]
  | informationValue identifier =>
    cases tells
    simp only [fault?, ite_eq_right_iff, reduceCtorEq, imp_false] at formed
    simp only [apply, Response.of, Handle.informationValue, if_neg formed, Outcome.map, found,
      Result.map]
  | _ => cases tells

private theorem contents_tells {contents : TableOfContents}
    (found : handle.tableOfContents.result = .ok contents) {told : Result Value}
    (tells : contents.tells? operation = some told) :
    (operation.apply host patience handle).outcome.result = told := by
  cases operation with
  | numberOfSessions | numberOfTracks =>
    cases tells
    simp only [apply, Response.of, Handle.numberOfSessions, Handle.numberOfTracks, Outcome.map,
      found, Result.map]
  | sessionAt index =>
    cases tells
    simp only [apply, Response.of, Handle.sessionAt, Outcome.map, Outcome.andThen_of_ok found]
    cases contents.sessions[index]? <;> rfl
  | trackAt index =>
    cases tells
    simp only [apply, Response.of, Handle.trackAt, Outcome.map, Outcome.andThen_of_ok found]
    cases contents.tracks[index]? <;> rfl
  | _ => cases tells

/-- What follows from a fact that is found out is answered so. -/
theorem apply_tells (opened : handle.session = some session)
    (formed : operation.fault? handle.options = none) {fact : topic.Fact}
    (found : (session.find topic).result = .ok fact) {told : Result Value}
    (tells : topic.tells? fact operation = some told) :
    (operation.apply host patience handle).outcome.result = told := by
  have asked : (handle.onSession (Session.find topic)).result = .ok fact := by
    simp only [Handle.onSession, opened, Outcome.mapState, found]
  cases topic with
  | geometry => exact geometry_tells asked tells
  | information => exact information_tells formed asked tells
  | contents => exact contents_tells asked tells

end Operation

end StorageMedia
