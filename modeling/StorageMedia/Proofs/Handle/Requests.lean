import StorageMedia.Proofs.Handle.Bounds

/-! # What a read asks for

Reads differ in how they are told what to read and in where they put it. `Operation.Requests` says
which offset and how many bytes a read is for, and `Operation.Requests.performs` that each of them,
but for the one that reads until a buffer is full, is one read into a buffer, on a handle that
stands at this offset, of as many bytes as lie on the media.
-/

namespace StorageMedia

variable {σ : Type}

/-- A read whose arguments pass, with the offset that it starts from and the number of bytes that it
asks for. -/
inductive Operation.Requests (handle : Handle σ) : Operation σ → Nat → Nat → Prop
  | read {size : Nat} (valid : size ≤ maximumReadSize) :
      Requests handle (.read size) handle.cursor size
  | readDefault (valid : handle.options.defaultReadSize ≤ maximumReadSize) :
      Requests handle .readDefault handle.cursor handle.options.defaultReadSize
  | readAt {size offset : Nat} (valid : size ≤ maximumReadSize)
      (reachable : offset ≤ maxSeekOffset) : Requests handle (.readAt size offset) offset size
  | readBuffer (bytes : Bytes) : Requests handle (.readBuffer bytes) handle.cursor bytes.size
  | readBufferAt (bytes : Bytes) {offset : Nat} (reachable : offset ≤ maxSeekOffset) :
      Requests handle (.readBufferAt bytes offset) offset bytes.size
  | streamRead (bytes : Bytes) : Requests handle (.streamRead bytes) handle.cursor bytes.size
  | streamReadExact (bytes : Bytes) :
      Requests handle (.streamReadExact bytes) handle.cursor bytes.size

/-- Number of bytes that a read gives. -/
def Value.amount : Value → Nat
  | .bytes value => value.size
  | .count value => value
  | _ => 0

variable [Device σ]

/-- A response to a read of `size` bytes from `start` on, on media of a known geometry, is that of
the read into a buffer that is made on the handle `before`. -/
structure Response.Performs (patience : Nat) (handle : Handle σ) (found : Geometry)
    (start size : Nat) (response : Response σ) (before : Handle σ) (bytes : Bytes) : Prop where
  cursor : before.cursor = start
  errors : before.errors = handle.errors
  options : before.options = handle.options
  geometry : before.geometry.result = .ok found
  clamped : before.clampedSize found.mediaSize bytes.size =
    min (found.mediaSize.toNat - start) size
  result : response.outcome.result.map Value.amount =
    (before.readBuffer patience bytes).outcome.result
  state : response.outcome.state = (before.readBuffer patience bytes).outcome.state
  /-- Questions may have come before the read, and an abort may have been signalled meanwhile. -/
  events : ∃ inquiries, (∀ event ∈ inquiries, event.isInquiry = true) ∧
    before.aborted = (handle.aborted || inquiries.any Event.raises) ∧
    response.outcome.events = inquiries ++ (before.readBuffer patience bytes).outcome.events

namespace Handle

variable {patience : Nat} {handle : Handle σ} {geometry : Geometry}

/-- The geometry of an open handle is that of its session. -/
theorem result_geometry {session : Session σ} (opened : handle.session = some session) :
    handle.geometry.result = session.geometry.result := by
  simp only [Handle.geometry, onSession, opened, Outcome.mapState]

/-- A handle whose geometry was found is open and knows it from then on. -/
theorem geometry_of_found (found : handle.geometry.result = .ok geometry) :
    ∃ session, handle.session = some session ∧ session.geometry.result = .ok geometry ∧
      handle.geometry.state = handle.resume session.geometry := by
  cases opened : handle.session with
  | none => simp [Handle.geometry, onSession_closed opened, Outcome.refuse] at found
  | some session =>
    exact ⟨session, rfl, (result_geometry opened).symm.trans found, onSession_state opened _⟩

theorem geometry_again (found : handle.geometry.result = .ok geometry) :
    handle.geometry.state.geometry.result = .ok geometry := by
  obtain ⟨session, _, measured, after⟩ := geometry_of_found found
  have known := Session.knownGeometry_of_geometry_ok measured
  rw [after, result_geometry rfl, Session.geometry_of_known known]
  rfl

/-- Everything that a read into a buffer can come to on media of a known geometry. -/
inductive ReadsMeasured (patience : Nat) (handle : Handle σ) (session : Session σ)
    (geometry : Geometry) (bytes : Bytes) : BufferRead σ → Prop
  | outside (none : handle.clampedSize geometry.mediaSize bytes.size = 0) :
      ReadsMeasured patience handle session geometry bytes
        { buffer := bytes
          outcome :=
            { result := .ok 0
              state := handle.resume session.geometry
              events := session.geometry.events } }
  | transferred {size : Nat} {transfer : Transfer σ × Result Nat}
      (clamped : handle.clampedSize geometry.mediaSize bytes.size = size) (positive : 0 < size)
      (runs : Transfer.read handle.options patience session.geometry.state
        (handle.resume session.geometry).aborted handle.cursor (bytes.take size) = transfer) :
      ReadsMeasured patience handle session geometry bytes
        { buffer := transfer.1.buffer.bytes ++ bytes.drop size
          outcome :=
            { result := transfer.2
              state := handle.afterTransfer transfer.1 transfer.2
              events := session.geometry.events ++ transfer.1.events.reverse } }

theorem readBuffer_readsMeasured (found : handle.geometry.result = .ok geometry) (patience : Nat)
    (bytes : Bytes) :
    ∃ session, handle.session = some session ∧ session.geometry.result = .ok geometry ∧
      ReadsMeasured patience handle session geometry bytes (handle.readBuffer patience bytes) := by
  obtain ⟨session, opened, measured, _⟩ := geometry_of_found found
  refine ⟨session, opened, measured, ?_⟩
  have reads := readBuffer_readsTo patience handle bytes
  generalize handle.readBuffer patience bytes = read at reads ⊢
  cases reads with
  | closed closed => simp [opened] at closed
  | unmeasured other failed =>
    obtain rfl := Option.some.inj (opened.symm.trans other)
    simp [measured] at failed
  | outside other again none =>
    obtain rfl := Option.some.inj (opened.symm.trans other)
    obtain rfl : geometry = _ := by simpa [measured] using again
    exact .outside none
  | transferred other again clamped positive runs =>
    obtain rfl := Option.some.inj (opened.symm.trans other)
    obtain rfl : geometry = _ := by simpa [measured] using again
    exact .transferred clamped positive runs

/-- A handle that keeps a geometry has found it. -/
theorem geometry_of_knownGeometry (known : handle.knownGeometry = some geometry) :
    handle.geometry.result = .ok geometry := by
  obtain ⟨session, opened, kept⟩ := Option.bind_eq_some_iff.mp known
  rw [result_geometry opened, Session.geometry_of_known kept]
  rfl

/-- A read keeps the geometry. -/
theorem knownGeometry_after_readBuffer (found : handle.geometry.result = .ok geometry)
    (patience : Nat) (bytes : Bytes) :
    (handle.readBuffer patience bytes).outcome.state.knownGeometry = some geometry := by
  obtain ⟨session, opened, measured, reads⟩ := readBuffer_readsMeasured found patience bytes
  have known := Session.knownGeometry_of_geometry_ok measured
  generalize handle.readBuffer patience bytes = read at reads ⊢
  cases reads with
  | outside => exact known
  | transferred _ _ runs =>
    rw [← runs]
    exact (known_transferred .geometry ..).trans known

theorem geometry_after_readBuffer (found : handle.geometry.result = .ok geometry) (patience : Nat)
    (bytes : Bytes) :
    (handle.readBuffer patience bytes).outcome.state.geometry.result = .ok geometry :=
  geometry_of_knownGeometry (knownGeometry_after_readBuffer found patience bytes)

theorem found_moved (found : handle.geometry.result = .ok geometry) (offset : Nat) :
    ({ handle with cursor := offset } : Handle σ).geometry.result = .ok geometry := by
  obtain ⟨session, opened, measured, _⟩ := geometry_of_found found
  have still : ({ handle with cursor := offset } : Handle σ).session = some session := opened
  exact (result_geometry still).trans measured

private theorem readBuffer_performs (found : handle.geometry.result = .ok geometry)
    (bytes : Bytes) :
    (Response.ofRead (handle.readBuffer patience bytes)).Performs patience handle geometry
      handle.cursor bytes.size handle bytes where
  cursor := rfl
  errors := rfl
  options := rfl
  geometry := found
  clamped := rfl
  result := by
    simp only [Response.ofRead, Outcome.map]
    cases (handle.readBuffer patience bytes).outcome.result <;> simp [Result.map, Value.amount]
  state := rfl
  events := ⟨[], by simp, by simp, rfl⟩

private theorem amount_take (handle : Handle σ) (bytes : Bytes) :
    (((handle.readBuffer patience bytes).outcome.result.map
      fun count => (handle.readBuffer patience bytes).buffer.take count).map Value.bytes).map
        Value.amount = (handle.readBuffer patience bytes).outcome.result := by
  have stays := readBuffer_staysWithin patience handle bytes
  cases result : (handle.readBuffer patience bytes).outcome.result with
  | error | pending => rfl
  | ok count =>
    have given := stays.given count result
    simp only [Result.map, Value.amount, Bytes.size_take, stays.size, Result.ok.injEq]
    omega

private theorem readUpTo_performs (found : handle.geometry.result = .ok geometry) (patience : Nat)
    (size : Nat) :
    ∃ before bytes, (Response.of (handle.readUpTo patience size) .bytes).Performs patience handle
      geometry handle.cursor size before bytes := by
  obtain ⟨session, opened, _, after⟩ := geometry_of_found found
  have again := geometry_again found
  have sized : handle.mediaSize.result = .ok geometry.mediaSize := by
    simp [mediaSize, Outcome.map, found, Result.map]
  refine ⟨handle.geometry.state, .replicate (handle.geometry.state.clampedSize geometry.mediaSize
    size) 0, ?_⟩
  rw [readUpTo, Outcome.andThen_of_ok sized]
  constructor
  case geometry => exact again
  case clamped =>
    simp only [after, cursor_resume, clampedSize, Bytes.size_replicate]
    omega
  case result => exact amount_take ..
  case state => rfl
  case events =>
    refine ⟨handle.mediaSize.events, mediaSize_inquires handle, ?_, rfl⟩
    rw [after, mediaSize, Outcome.map_events, Handle.geometry, onSession, opened]
    rfl
  all_goals rw [after]; rfl

end Handle

namespace Response

variable {patience : Nat} {handle before : Handle σ} {found : Geometry} {start size : Nat}
  {response : Response σ} {bytes : Bytes}

private theorem Performs.of_moved (offset : Nat)
    (performs : response.Performs patience { handle with cursor := offset } found start size before
      bytes) : response.Performs patience handle found start size before bytes :=
  ⟨performs.cursor, performs.errors, performs.options, performs.geometry, performs.clamped,
     performs.result, performs.state, performs.events⟩

end Response

namespace Operation

variable {handle : Handle σ} {geometry : Geometry} {operation : Operation σ} {start size : Nat}

/-- On media of a known geometry a read with arguments that pass is one read into a buffer, unless
it reads until the buffer is full. -/
theorem Requests.performs (requests : Requests handle operation start size)
    (once : ∀ bytes, operation ≠ .streamReadExact bytes)
    (found : handle.geometry.result = .ok geometry) (host : Host σ) (patience : Nat) :
    ∃ before bytes, (operation.apply host patience handle).Performs patience handle geometry start
      size before bytes := by
  obtain ⟨session, opened, _, _⟩ := Handle.geometry_of_found found
  have isOpen : handle.isOpen = true := by simp [Handle.isOpen, opened]
  have passes {size : Nat} (valid : size ≤ maximumReadSize) : checkReadSize size = .ok size :=
    Handle.checkReadSize_eq_ok_iff.mpr ⟨rfl, valid⟩
  cases requests with
  | read valid =>
    simp only [apply, Handle.read, passes valid]
    exact Handle.readUpTo_performs found patience size
  | readDefault valid =>
    simp only [apply, Handle.readDefault, Handle.read, passes valid]
    exact Handle.readUpTo_performs found patience _
  | readAt valid reachable =>
    simp only [apply, Handle.readAt, passes valid]
    rw [if_neg (by omega), Handle.seek_start_of_open isOpen reachable, Outcome.andThen_answer]
    obtain ⟨before, bytes, performs⟩ :=
      Handle.readUpTo_performs (Handle.found_moved found start) patience size
    exact ⟨before, bytes, performs.of_moved start⟩
  | readBuffer bytes => exact ⟨handle, bytes, Handle.readBuffer_performs found bytes⟩
  | streamRead bytes => exact ⟨handle, bytes, Handle.readBuffer_performs found bytes⟩
  | streamReadExact bytes => exact absurd rfl (once bytes)
  | readBufferAt bytes reachable =>
    simp only [apply, Handle.readBufferAt, Handle.seekStart, if_pos reachable,
      Handle.seek_start_of_open isOpen reachable, Outcome.answer]
    exact ⟨_, bytes, (Handle.readBuffer_performs (Handle.found_moved found start) bytes).of_moved
      start⟩

end Operation

end StorageMedia
