import StorageMedia.Proofs.Handle.Position
import StorageMedia.Proofs.Transfer.Abort

/-! # Operations that fail leave the handle as it was

A read may have kept bytes and given up blocks before it fails, and it keeps neither: the offset,
the recorded ranges and everything that is known of the media stay. A seek that fails does not move
the offset. What may differ afterwards is the device with the position that is kept of it, a
geometry that was found on the way, and an abort that was signalled during a call of the device.
-/

namespace StorageMedia

variable {σ : Type}

/-- Two states of a session in which the same is known of the media, but for a geometry that was
found between them. -/
structure Session.Retains (before after : Session σ) : Prop where
  path : after.path = before.path
  information : after.knownInformation = before.knownInformation
  contents : after.knownContents = before.knownContents
  geometry : ∀ geometry, before.knownGeometry = some geometry →
    after.knownGeometry = some geometry

namespace Session

variable {session before middle after : Session σ}

theorem Retains.refl (session : Session σ) : session.Retains session :=
  ⟨rfl, rfl, rfl, fun _ known => known⟩

theorem Retains.trans (first : before.Retains middle) (second : middle.Retains after) :
    before.Retains after where
  path := second.path.trans first.path
  information := second.information.trans first.information
  contents := second.contents.trans first.contents
  geometry geometry known := second.geometry geometry (first.geometry geometry known)

/-- What is known for good is all that has to be retained. -/
theorem retains_of_knowledge (same : after.knowledge = before.knowledge) :
    before.Retains after := by
  simp only [knowledge, Prod.mk.injEq] at same
  obtain ⟨path, geometry, information, contents⟩ := same
  exact ⟨path, information, contents, fun _ known => geometry.trans known⟩

theorem geometry_retains [Device σ] (session : Session σ) :
    session.Retains session.geometry.state := by
  simp only [geometry]
  split
  · exact .refl session
  · next unknown => exact ⟨rfl, rfl, rfl, fun _ known => by simp [unknown] at known⟩

end Session

variable [Device σ]

namespace Handle

/-- What operations that failed leave of a handle: an abort is signalled if it was before or if it
was during one of the calls among the events. -/
structure Withstands (handle : Handle σ) (events : List (Event σ)) (after : Handle σ) :
    Prop where
  cursor : after.cursor = handle.cursor
  errors : after.errors = handle.errors
  options : after.options = handle.options
  session : Option.Rel Session.Retains handle.session after.session
  aborted : after.aborted = true ↔ handle.aborted = true ∨ ∃ event ∈ events, event.Raises

variable {handle middle after : Handle σ} {events others : List (Event σ)} {patience : Nat}
  {α β : Type}

namespace Withstands

/-- Nothing happened. -/
theorem refl (handle : Handle σ) : handle.Withstands [] handle where
  cursor := rfl
  errors := rfl
  options := rfl
  session := by
    cases handle.session with
    | none => exact .none
    | some session => exact .some (.refl session)
  aborted := by simp

theorem trans (first : handle.Withstands events middle) (second : middle.Withstands others after) :
    handle.Withstands (events ++ others) after where
  cursor := second.cursor.trans first.cursor
  errors := second.errors.trans first.errors
  options := second.options.trans first.options
  session := by
    have before := first.session
    have later := second.session
    generalize handle.session = held, middle.session = kept, after.session = left at before later ⊢
    cases before with
    | none => exact later
    | some retains =>
      cases later with
      | some further => exact .some (retains.trans further)
  aborted := by
    rw [second.aborted, first.aborted]
    simp only [List.mem_append, or_and_right, exists_or, or_assoc]

/-- Questions about the media change nothing but the session. -/
theorem asked {session : Session σ} {found : Outcome σ (Session σ) α}
    (opened : handle.session = some session) (retains : session.Retains found.state)
    (quiet : ∀ event ∈ found.events, event.isInquiry = true) :
    handle.Withstands found.events (handle.resume found) where
  cursor := rfl
  errors := rfl
  options := rfl
  session := by
    rw [opened]
    exact .some retains
  aborted := (heedsAbort_of_inquiries handle.aborted quiet).raised

/-- A transfer that fails leaves all of what it gathered behind. -/
theorem transferred {session : Session σ} {found : Outcome σ (Session σ) α} {bytes : Bytes}
    {transfer : Transfer σ} {cause : Error} (opened : handle.session = some session)
    (retains : session.Retains found.state)
    (quiet : ∀ event ∈ found.events, event.isInquiry = true)
    (runs : Transfer.read handle.options patience found.state (handle.resume found).aborted
      handle.cursor bytes = (transfer, .error cause)) :
    handle.Withstands (found.events ++ transfer.events.reverse)
      (handle.afterTransfer transfer (.error cause)) where
  cursor := rfl
  errors := rfl
  options := rfl
  session := by
    have kept := Transfer.knowledge_read handle.options patience found.state
      (handle.resume found).aborted handle.cursor bytes
    rw [runs] at kept
    rw [opened]
    exact .some (retains.trans (Session.retains_of_knowledge kept))
  aborted := by
    have heeds := Transfer.read_heedsAbort handle.options patience found.state
      (handle.resume found).aborted handle.cursor bytes
    rw [runs] at heeds
    exact ((heedsAbort_of_inquiries handle.aborted quiet).append heeds).raised

end Withstands

/-- An operation that leaves the handle as it was whenever it fails. -/
structure Atomic (handle : Handle σ) (outcome : Outcome σ (Handle σ) α) : Prop where
  withstands : ∀ cause, outcome.result = .error cause →
    handle.Withstands outcome.events outcome.state

namespace Atomic

variable {outcome : Outcome σ (Handle σ) α}

theorem refuse (cause : Error) : handle.Atomic (.refuse cause handle : Outcome σ (Handle σ) α) :=
  ⟨fun _ _ => .refl handle⟩

theorem map (atomic : handle.Atomic outcome) (f : α → β) : handle.Atomic (outcome.map f) := by
  refine ⟨fun cause failed => atomic.withstands cause ?_⟩
  cases result : outcome.result <;> simp_all [Outcome.map, Result.map]

/-- A question may be followed by an operation that keeps to what it left. -/
theorem andThen (asked : handle.Withstands outcome.events outcome.state)
    {rest : α → Handle σ → Outcome σ (Handle σ) β}
    (atomic : ∀ value, outcome.state.Atomic (rest value outcome.state)) :
    handle.Atomic (outcome.andThen rest) := by
  refine ⟨fun cause failed => ?_⟩
  simp only [Outcome.andThen] at failed ⊢
  split at failed
  · exact asked.trans ((atomic _).withstands cause failed)
  · exact asked
  · cases failed

end Atomic

/-- The media size can be asked for at any time. -/
theorem mediaSize_withstands (handle : Handle σ) :
    handle.Withstands handle.mediaSize.events handle.mediaSize.state := by
  cases opened : handle.session with
  | none =>
    simpa [mediaSize, geometry, onSession_closed opened, Outcome.refuse] using Withstands.refl handle
  | some session =>
    simp only [mediaSize, geometry, onSession, opened, Outcome.map_events, Outcome.map_state]
    exact .asked opened session.geometry_retains session.geometry_inquires

theorem readBuffer_atomic (patience : Nat) (handle : Handle σ) (bytes : Bytes) :
    handle.Atomic (handle.readBuffer patience bytes).outcome := by
  have reads := readBuffer_readsTo patience handle bytes
  generalize handle.readBuffer patience bytes = read at reads ⊢
  refine ⟨fun cause failed => ?_⟩
  cases reads with
  | closed => exact .refl handle
  | unmeasured opened =>
    exact .asked opened (Session.geometry_retains _) (Session.geometry_inquires _)
  | outside => cases failed
  | @transferred _ _ _ transfer opened _ _ _ runs =>
    obtain ⟨transfer, result⟩ := transfer
    obtain rfl : result = .error cause := failed
    exact .transferred opened (Session.geometry_retains _) (Session.geometry_inquires _) runs

theorem readUpTo_atomic (patience : Nat) (handle : Handle σ) (size : Nat) :
    handle.Atomic (handle.readUpTo patience size) :=
  .andThen handle.mediaSize_withstands fun _ => (readBuffer_atomic ..).map _

theorem read_atomic (patience : Nat) (handle : Handle σ) (size : Int) :
    handle.Atomic (handle.read patience size) := by
  simp only [read]
  split
  · exact readUpTo_atomic ..
  · exact .refuse _

theorem seekFrom_atomic (handle : Handle σ) (base : Nat) (offset : Int) (origin : Origin) :
    handle.Atomic (handle.seekFrom base offset origin) := by
  simp only [seekFrom]
  split
  · exact ⟨by rintro _ ⟨⟩⟩
  · exact .refuse _

theorem seek_atomic (handle : Handle σ) (offset : Int) (origin : Origin) :
    handle.Atomic (handle.seek offset origin) := by
  simp only [seek]
  cases origin with
  | start | current =>
    dsimp only
    split
    · exact seekFrom_atomic ..
    · exact .refuse _
  | mediaEnd => exact .andThen handle.mediaSize_withstands fun _ => seekFrom_atomic ..

theorem seekByCode_atomic (handle : Handle σ) (offset code : Int) :
    handle.Atomic (handle.seekByCode offset code) := by
  simp only [seekByCode]
  split
  · exact seek_atomic ..
  · exact .refuse _

theorem streamSeek_atomic (handle : Handle σ) (position : StreamPosition) :
    handle.Atomic (handle.streamSeek position) := by
  cases position with
  | start offset =>
    simp only [streamSeek, seekStart]
    split
    · exact seek_atomic ..
    · exact .refuse _
  | current offset => exact seek_atomic handle offset .current
  | streamEnd offset => exact seek_atomic handle offset .mediaEnd

end Handle

/-- A buffer of the same size that differs at most in its first `room` bytes. -/
structure Bytes.AgreesFrom (room : Nat) (before after : Bytes) : Prop where
  size : after.size = before.size
  same : ∀ index, room ≤ index → after.toList[index]? = before.toList[index]?

namespace Operation

omit [Device σ] in
/-- Buffer that an operation is given by its caller. -/
def buffer? : Operation σ → Option Bytes
  | readBuffer bytes | readBufferAt bytes _ | streamRead bytes | streamReadExact bytes => some bytes
  | _ => none

omit [Device σ] in
/-- Whether an operation reads once from the offset of the handle, or only moves this offset. -/
def isAtomic : Operation σ → Bool
  | read _ | readDefault | readBuffer _ | streamRead _ => true
  | seek .. | seekByCode .. | streamSeek _ | streamRewind | streamPosition => true
  | _ => false

variable {host : Host σ} {patience : Nat} {handle : Handle σ}

/-- A read or a seek that fails, for whatever reason and after whatever it did, leaves the handle as
it was. Of the buffer that it was given it changed at most the bytes that lie on the media. -/
theorem failure_leaves_handle {operation : Operation σ} (atomic : operation.isAtomic = true)
    {cause : Error}
    (failed : (operation.apply host patience handle).outcome.result = .error cause) :
    handle.Withstands (operation.apply host patience handle).outcome.events
        (operation.apply host patience handle).outcome.state ∧
      Option.Rel
        (Bytes.AgreesFrom
          ((operation.apply host patience handle).outcome.state.knownSize - handle.cursor))
        operation.buffer? (operation.apply host patience handle).buffer := by
  have buffered (bytes : Bytes) :
      Option.Rel
        (Bytes.AgreesFrom
          ((handle.readBuffer patience bytes).outcome.state.knownSize - handle.cursor))
        (some bytes) (some (handle.readBuffer patience bytes).buffer) := by
    have stays := Handle.readBuffer_staysWithin patience handle bytes
    exact .some ⟨stays.size, fun index behind => stays.outside index (by omega)⟩
  cases operation with
  | read size => exact ⟨((Handle.read_atomic patience handle size).map _).withstands _ failed, .none⟩
  | readDefault => exact ⟨((Handle.read_atomic patience handle _).map _).withstands _ failed, .none⟩
  | readBuffer bytes | streamRead bytes =>
    exact ⟨((Handle.readBuffer_atomic patience handle bytes).map _).withstands _ failed,
      buffered bytes⟩
  | seek offset origin =>
    exact ⟨((Handle.seek_atomic handle offset origin).map _).withstands _ failed, .none⟩
  | seekByCode offset code =>
    exact ⟨((Handle.seekByCode_atomic handle offset code).map _).withstands _ failed, .none⟩
  | streamSeek position =>
    exact ⟨((Handle.streamSeek_atomic handle position).map _).withstands _ failed, .none⟩
  | streamRewind =>
    exact ⟨(((Handle.streamSeek_atomic handle _).map _).map _).withstands _ failed, .none⟩
  | streamPosition =>
    exact ⟨((Handle.streamSeek_atomic handle _).map _).withstands _ failed, .none⟩
  | _ => cases atomic

/-- Twelve bytes with two damaged places. Its ninth read signals an abort. -/
def faltering : ScriptedDevice where
  content := .pattern 12
  surface := [{ start := 3, stop := 5, code := 5 }, { start := 8, stop := 9, code := 5 }]
  script := List.replicate 8 {} ++ [{ action := .short 1, abort := true }]
  mediaSize := .ok (some 12)
  seekEnd := .ok 12

/-- A read that is aborted after it kept bytes and gave up a block leaves the ranges of the read
before it and the offset behind that one. -/
theorem faltering_leaves_handle :
    let handle := (apply Host.empty 0 (tolerantHandle.startSession "drive" faltering)
      (.readBuffer (.replicate 6 0x77))).outcome.state
    let response := apply Host.empty 0 handle (.readBuffer (.replicate 6 0x77))
    handle.cursor = 6 ∧ handle.errors = ⟨[⟨2, 4⟩]⟩ ∧
      response.outcome.result = .error .aborted ∧
      response.buffer.map Bytes.toList = some [6, 7, 0, 0, 10, 0x77] ∧
      response.outcome.state.aborted = true ∧
      handle.Withstands response.outcome.events response.outcome.state := by
  refine ⟨rfl, by decide, rfl, by decide, rfl, ?_⟩
  exact (failure_leaves_handle rfl rfl).1

end Operation

end StorageMedia
