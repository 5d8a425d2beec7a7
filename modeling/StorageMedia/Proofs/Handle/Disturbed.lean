import StorageMedia.Proofs.Handle.Delivery
import StorageMedia.Proofs.Handle.Position
import StorageMedia.Proofs.Handle.Requests
import StorageMedia.Proofs.Transfer.Disturbed

/-! # Reads on disturbed devices

A read on a disturbed device comes to what it comes to without the faults, as long as the options
let these pass: it gives as many bytes or fails with the same error, the offset moves as far, and
nothing is recorded for the faults. The bytes are the same too, unless the device reports bytes that
it did not store: there the buffer shows what it held before, which may be what a fault left.
-/

namespace StorageMedia

variable {σ τ : Type} [Device σ] [Device τ] {disturbance : Disturbance σ τ}
  {faults : List (Option IoError)}

/-- Finding out the geometry of a disturbed device shows no difference. -/
theorem Session.Disturbed.measured {session : Session σ} {other : Session τ}
    (disturbed : session.Disturbed disturbance faults other)
    (known : other.knownGeometry = session.knownGeometry) :
    other.geometry.result = session.geometry.result ∧
      other.geometry.events.any Event.raises = session.geometry.events.any Event.raises ∧
      session.geometry.state.Disturbed disturbance faults other.geometry.state := by
  simp only [geometry, known]
  split
  · exact ⟨rfl, rfl, disturbed⟩
  · have alike := (disturbance.answers faults).resolveGeometry disturbed.inStep
    exact ⟨alike.result, alike.signal, rfl, alike.state, by rintro _ ⟨⟩⟩

namespace Handle

/-- Two handles differ at most in their devices, one of which is disturbed. -/
structure Disturbed (disturbance : Disturbance σ τ) (faults : List (Option IoError))
    (handle : Handle σ) (other : Handle τ) : Prop where
  options : other.options = handle.options
  cursor : other.cursor = handle.cursor
  errors : other.errors = handle.errors
  aborted : other.aborted = handle.aborted
  sessions : Option.Rel (fun session other => other.knownGeometry = session.knownGeometry ∧
    session.Disturbed disturbance faults other) handle.session other.session

/-- A read into a buffer and one on a disturbed device come to the same, and neither records
anything. The buffers agree where the reads of the first one delivered bytes, and unless it fails
they reported all bytes that it counts. -/
structure Unaffected (handle : Handle σ) (read : BufferRead σ) (other : BufferRead τ) : Prop where
  result : other.outcome.result = read.outcome.result
  cursor : other.outcome.state.cursor = read.outcome.state.cursor
  unrecorded : read.outcome.state.errors = handle.errors
  errors : other.outcome.state.errors = handle.errors
  bytes : ∀ index, (∃ event ∈ read.outcome.events, event.Delivers (handle.cursor + index)) →
    other.buffer.toList[index]? = read.buffer.toList[index]?
  reported : ∀ count, read.outcome.result = .ok count → ∀ index < count,
    ∃ event ∈ read.outcome.events, event.Reports (handle.cursor + index)

variable {handle : Handle σ} {other : Handle τ} {patience longer : Nat} {bytes : Bytes}

omit [Device σ] [Device τ] in
private theorem errors_afterTransfer {transfer : Transfer σ} (whole : transfer.skipped = {})
    (result : Result Nat) : (handle.afterTransfer transfer result).errors = handle.errors := by
  cases result with
  | ok count =>
    simp only [afterTransfer, whole]
    exact ErrorRanges.merge_empty _
  | error | pending => rfl

omit [Device σ] [Device τ] in
private theorem cursor_afterTransfer (cursor : other.cursor = handle.cursor)
    (transfer : Transfer σ) (following : Transfer τ) (result : Result Nat) :
    (other.afterTransfer following result).cursor =
      (handle.afterTransfer transfer result).cursor := by
  cases result with
  | ok count => simp only [afterTransfer, cursor]
  | error | pending => exact cursor

omit [Device σ] [Device τ] in
private theorem getElem?_append_alike {first second rest : List UInt8} {index : Nat}
    (length : second.length = first.length) (same : second[index]? = first[index]?) :
    (second ++ rest)[index]? = (first ++ rest)[index]? := by
  rw [List.getElem?_append, List.getElem?_append, length, same]

omit [Device τ] in
private theorem exists_delivers {inquiries events : List (Event σ)} {byte : Nat}
    (quiet : ∀ event ∈ inquiries, event.isInquiry = true)
    (delivered : ∃ event ∈ inquiries ++ events.reverse, event.Delivers byte) :
    ∃ event ∈ events, event.Delivers byte := by
  obtain ⟨event, member, delivers⟩ := delivered
  rcases List.mem_append.mp member with asked | shown
  · exact absurd delivers (event.not_delivers_of_isInquiry (quiet event asked))
  · exact ⟨event, List.mem_reverse.mp shown, delivers⟩

/-- A read on a disturbed device comes to the same. -/
theorem Disturbed.readBuffer (disturbed : handle.Disturbed disturbance faults other)
    (allows : handle.options.Allows 0 faults)
    (ended : (handle.readBuffer patience bytes).outcome.result ≠ .pending)
    (unfailing : handle.options.tolerateErrors = true →
      ∀ event ∈ (handle.readBuffer patience bytes).outcome.events,
        event.isRetryableFailure = false)
    (enough : patience + faults.countP (·.isSome) ≤ longer) :
    handle.Unaffected (handle.readBuffer patience bytes) (other.readBuffer longer bytes) := by
  obtain ⟨options, cursor, errors, aborted, sessions⟩ := disturbed
  cases opened : handle.session with
  | none =>
    rw [opened] at sessions
    have also : other.session = none := by
      generalize other.session = following at sessions
      cases sessions
      rfl
    rw [readBuffer_closed opened, readBuffer_closed also]
    exact ⟨rfl, cursor, rfl, errors, fun _ _ => rfl, by rintro _ ⟨⟩⟩
  | some session =>
    obtain ⟨following, also, known, disturbed⟩ : ∃ following, other.session = some following ∧
        following.knownGeometry = session.knownGeometry ∧
        session.Disturbed disturbance faults following := by
      rw [opened] at sessions
      generalize other.session = held at sessions
      cases sessions with
      | some related => exact ⟨_, rfl, related⟩
    obtain ⟨measured, signal, disturbed⟩ := disturbed.measured known
    have signalled : (other.resume following.geometry).aborted =
        (handle.resume session.geometry).aborted := by
      simp only [resume, aborted, signal]
    cases found : session.geometry.result with
    | pending => exact absurd found (Session.geometry_ne_pending session)
    | error cause =>
      simp only [Handle.readBuffer, opened, also, found, measured]
      exact ⟨rfl, cursor, rfl, errors, fun _ _ => rfl, by rintro _ ⟨⟩⟩
    | ok geometry =>
      obtain ⟨_, same, _, reads⟩ :=
        readBuffer_readsMeasured ((result_geometry opened).trans found) patience bytes
      obtain rfl := Option.some.inj (opened.symm.trans same)
      obtain ⟨_, same, _, follows⟩ := readBuffer_readsMeasured
        ((result_geometry also).trans (measured.trans found)) longer bytes
      obtain rfl := Option.some.inj (also.symm.trans same)
      have clamps : other.clampedSize geometry.mediaSize bytes.size =
          handle.clampedSize geometry.mediaSize bytes.size := by
        simp only [clampedSize, cursor]
      generalize handle.readBuffer patience bytes = read at reads ended unfailing ⊢
      generalize other.readBuffer longer bytes = second at follows ⊢
      cases reads with
      | outside none =>
        cases follows with
        | outside =>
          exact ⟨rfl, cursor, rfl, errors, fun _ _ => rfl, by rintro _ ⟨⟩ index below; omega⟩
        | transferred => omega
      | @transferred size transfer clamped positive runs =>
        cases follows with
        | outside => omega
        | @transferred also transferred equally _ follows =>
          obtain rfl : size = also := by omega
          rw [options, cursor, signalled] at follows
          have unfailing : handle.options.tolerateErrors = true → ∀ event ∈ transfer.1.events,
              event.isRetryableFailure = false := fun tolerant event member =>
            unfailing tolerant event (List.mem_append_right _ (List.mem_reverse.mpr member))
          subst runs follows
          obtain ⟨result, ends⟩ := Transfer.read_matches disturbed allows ended unfailing enough
          constructor
          case result => exact result
          case cursor =>
            simp only [result]
            exact cursor_afterTransfer cursor _ _ _
          case unrecorded => exact errors_afterTransfer ends.whole _
          case errors => exact (errors_afterTransfer ends.unspoiled _).trans errors
          case bytes =>
            intro index delivered
            have inside := ends.bytes index (exists_delivers session.geometry_inquires delivered)
            rw [Bytes.toList_append, Bytes.toList_append]
            exact getElem?_append_alike (by simp only [Bytes.length_toList, Transfer.size_read])
              inside
          case reported =>
            intro count succeeded index below
            obtain ⟨event, member, reports⟩ := Transfer.reported_of_whole
              (clamped_fits clamped positive) ends.whole succeeded (handle.cursor + index)
              (Nat.le_add_right _ _) (Nat.add_lt_add_left below _)
            exact ⟨event, List.mem_append_right _ (List.mem_reverse.mpr member), reports⟩

end Handle

namespace ScriptedDevice

end ScriptedDevice

namespace Handle

end Handle

end StorageMedia
