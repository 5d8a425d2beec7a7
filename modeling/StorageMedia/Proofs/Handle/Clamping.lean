import StorageMedia.Proofs.Handle.Consultation

/-! # Reads are clamped to the media

A read asks its device for what lies on the media of the bytes that it was asked for, no less and no
more: every device read goes from its offset up to where the request or the media ends. The media is
that of the geometry which the session keeps, so that a device cannot move the end of the media by
another answer.
-/

namespace StorageMedia

variable {σ : Type}

/-- The event is no device read, or one on media of some size for everything that is left of a
request. -/
def Event.Serves (mediaSize start size : Nat) : Event σ → Prop
  | read _ offset capacity _ =>
    start ≤ offset ∧ 0 < capacity ∧ offset + capacity = start + min (mediaSize - start) size
  | _ => True

theorem Event.serves_of_isInquiry {event : Event σ} (mediaSize start size : Nat)
    (inquiry : event.isInquiry = true) : event.Serves mediaSize start size := by
  cases event with
  | read => simp [isInquiry] at inquiry
  | query | seek | notice => trivial

/-- Nothing is read of media without bytes. -/
theorem Event.Serves.of_empty {event : Event σ} {start size : Nat}
    (serves : event.Serves 0 start size) (mediaSize : Nat) : event.Serves mediaSize start size := by
  cases event with
  | read =>
    simp only [Serves] at serves
    omega
  | query | seek | notice => trivial

/-- A later part of a request ends where the request ends. -/
theorem Event.Serves.of_part {event : Event σ} {mediaSize start size next left : Nat}
    (serves : event.Serves mediaSize next left) (le : start ≤ next)
    (ends : next + left = start + size) : event.Serves mediaSize start size := by
  cases event with
  | read =>
    simp only [Serves] at serves ⊢
    omega
  | query | seek | notice => trivial

namespace Handle

variable {patience : Nat} {handle middle after : Handle σ} {events : List (Event σ)}
  {start size : Nat}

/-- Media whose size is kept is kept as it is. -/
theorem knownSize_of_keeps
    (keeps : ∀ geometry, handle.known .geometry = some geometry →
      after.known .geometry = some geometry) :
    handle.knownSize = 0 ∨ handle.knownSize = after.knownSize := by
  cases known : handle.known .geometry with
  | none => exact .inl (by simp [knownSize, show handle.knownGeometry = none from known])
  | some geometry =>
    exact .inr ((knownSize_eq known).trans (knownSize_eq (keeps geometry known)).symm)

theorem serves_of_keeps {event : Event σ}
    (keeps : ∀ geometry, handle.known .geometry = some geometry →
      after.known .geometry = some geometry)
    (serves : event.Serves handle.knownSize start size) :
    event.Serves after.knownSize start size := by
  rcases knownSize_of_keeps keeps with unknown | same
  · rw [unknown] at serves
    exact serves.of_empty _
  · rwa [← same]

variable [Device σ]

theorem readBuffer_serves (patience : Nat) (handle : Handle σ) (bytes : Bytes) :
    ∀ event ∈ (handle.readBuffer patience bytes).outcome.events,
      event.Serves (handle.readBuffer patience bytes).outcome.state.knownSize handle.cursor
        bytes.size := by
  have reads := readBuffer_readsTo patience handle bytes
  generalize handle.readBuffer patience bytes = read at reads ⊢
  have asked (session : Session σ) (size : Nat) :
      ∀ event ∈ session.geometry.events, event.Serves size handle.cursor bytes.size :=
    fun event member => event.serves_of_isInquiry _ _ _ (session.geometry_inquires event member)
  cases reads with
  | closed => simp [Outcome.refuse]
  | unmeasured => exact asked _ _
  | outside => exact asked _ _
  | @transferred session geometry size transfer opened found clamped positive runs =>
    have kept : (handle.afterTransfer transfer.1 transfer.2).known .geometry = some geometry := by
      rw [← runs, known_transferred]
      exact Session.known_of_found .geometry found
    have confined := Transfer.read_confined handle.options patience session.geometry.state
      (handle.resume session.geometry).aborted handle.cursor (bytes.take size)
    obtain ⟨taken, _, _⟩ := clamped_bounds clamped positive
    rw [runs, taken] at confined
    rw [clampedSize] at clamped
    intro event member
    rcases List.mem_append.mp member with asking | moving
    · exact asked session _ event asking
    · have pursues := confined.events event (List.mem_reverse.mp moving)
      cases event with
      | read =>
        simp only [Event.Pursues] at pursues
        simp only [Event.Serves, knownSize_eq kept]
        omega
      | query | seek | notice => trivial

private theorem cursor_readBuffer (patience : Nat) (handle : Handle σ) (bytes : Bytes) :
    (∀ count, (handle.readBuffer patience bytes).outcome.result = .ok count →
      (handle.readBuffer patience bytes).outcome.state.cursor = handle.cursor + count ∧
        count ≤ bytes.size) ∧
    ∀ cause, (handle.readBuffer patience bytes).outcome.result = .error cause →
      (handle.readBuffer patience bytes).outcome.state.cursor = handle.cursor := by
  refine ⟨fun count succeeded => ?_, fun cause failed =>
    ((readBuffer_atomic patience handle bytes).withstands cause failed).cursor⟩
  have given := (readBuffer_staysWithin patience handle bytes).given count succeeded
  refine ⟨?_, by omega⟩
  have reads := readBuffer_readsTo patience handle bytes
  generalize handle.readBuffer patience bytes = read at reads succeeded ⊢
  cases reads with
  | closed | unmeasured => cases succeeded
  | outside =>
    cases succeeded
    rfl
  | @transferred _ _ _ transfer =>
    obtain ⟨transfer, result⟩ := transfer
    obtain rfl : result = .ok count := succeeded
    rfl

private theorem size_shift (count : Nat) (filled : List Stretch) (bytes : Bytes) :
    (Bytes.mk (Bytes.shift count filled bytes.stretches).2).size = bytes.size - count := by
  rw [← Bytes.length_toList, Bytes.toList, (Bytes.flatMap_shift ..).2, List.length_drop,
    ← Bytes.toList, Bytes.length_toList]

private theorem fill_serves (patience : Nat) {calls : Nat} {filling : Filling}
    (before : ∀ event ∈ events, event.Serves handle.knownSize start size)
    (le : start ≤ handle.cursor) (ends : handle.cursor + filling.rest.size = start + size) :
    ∀ event ∈ (handle.fill patience calls filling events).2.events,
      event.Serves (handle.fill patience calls filling events).2.state.knownSize start size := by
  induction calls generalizing handle filling events with
  | zero => exact before
  | succ calls ih =>
    have steps := readBuffer_steps patience handle filling.rest
    have reads := readBuffer_serves patience handle filling.rest
    have further : ∀ event ∈ events ++ (handle.readBuffer patience filling.rest).outcome.events,
        event.Serves (handle.readBuffer patience filling.rest).outcome.state.knownSize start
          size := by
      intro event member
      rcases List.mem_append.mp member with early | late
      · exact serves_of_keeps (fun _ known => (steps.keeps known).known) (before event early)
      · exact (reads event late).of_part le ends
    obtain ⟨moved, stood⟩ := cursor_readBuffer patience handle filling.rest
    have kept := (readBuffer_staysWithin patience handle filling.rest).size
    rw [fill]
    split
    · exact before
    dsimp only
    split
    · exact further
    · next count succeeded =>
      obtain ⟨cursor, few⟩ := moved _ succeeded
      refine ih further (by omega) ?_
      rw [size_shift, kept, cursor]
      omega
    · next cause failed =>
      have cursor := stood cause failed
      split
      · exact ih further (by omega) (by simp only [kept, cursor, ends])
      · exact further
    · exact further

theorem readExact_serves (patience : Nat) (handle : Handle σ) (bytes : Bytes) :
    ∀ event ∈ (handle.readExact patience bytes).2.events,
      event.Serves (handle.readExact patience bytes).2.state.knownSize handle.cursor
        bytes.size := by
  simp only [readExact]
  exact fill_serves patience (by simp) (Nat.le_refl _) rfl

end Handle

namespace Operation

variable [Device σ] {host : Host σ} {patience : Nat} {handle : Handle σ}
  {operation : Operation σ} {start size : Nat}

open Handle

omit [Device σ] in
private theorem sizeFault?_valid {size : Nat} (valid : size ≤ maximumReadSize) :
    sizeFault? size = none := by
  simp only [sizeFault?]
  rw [if_neg (by omega), if_neg (by omega)]

omit [Device σ] in
theorem Requests.formed (requests : Requests handle operation start size) :
    operation.fault? handle.options = none := by
  cases requests with
  | read valid | readDefault valid => exact sizeFault?_valid valid
  | readAt valid => simp [fault?, sizeFault?_valid valid]
  | readBufferAt bytes reachable => simp [fault?, reachable]
  | readBuffer | streamRead | streamReadExact => rfl

omit [Device σ] in
private theorem Requests.needs (requests : Requests handle operation start size)
    (once : ∀ bytes, operation ≠ .streamReadExact bytes) :
    operation.topic? = some .geometry ∧ operation.needsSession = true := by
  cases requests with
  | read | readDefault | readBufferAt | readBuffer | streamRead => exact ⟨rfl, rfl⟩
  | readAt valid reachable => simp [topic?, needsSession, Int.ofNat_le.mpr reachable]
  | streamReadExact bytes => exact absurd rfl (once bytes)

private theorem Requests.serves_once (requests : Requests handle operation start size)
    (once : ∀ bytes, operation ≠ .streamReadExact bytes) (host : Host σ) (patience : Nat) :
    (∀ event ∈ (operation.apply host patience handle).outcome.events,
      event.Serves (operation.apply host patience handle).outcome.state.knownSize start size) ∧
    ∀ value, (operation.apply host patience handle).outcome.result = .ok value →
      value.amount ≤
        min ((operation.apply host patience handle).outcome.state.knownSize - start) size := by
  obtain ⟨needs, needsSession⟩ := requests.needs once
  cases opened : handle.session with
  | none =>
    rw [apply_of_closed requests.formed needsSession opened]
    exact ⟨by simp [Operation.refused, Outcome.refuse], by rintro _ ⟨⟩⟩
  | some session =>
    have consults : Consults .geometry session (operation.apply host patience handle).outcome :=
      apply_consults opened requests.formed needs
    cases consults with
    | failed failed result unknown events =>
      rw [events, result]
      refine ⟨fun event member => ?_, by rintro _ ⟨⟩⟩
      exact event.serves_of_isInquiry _ _ _ (session.find_about .geometry event member).isInquiry
    | @found geometry rest found known events unasked =>
      have measured : handle.geometry.result = .ok geometry :=
        (result_geometry opened).trans found
      obtain ⟨before, bytes, performs⟩ := requests.performs once measured host patience
      have reads := readBuffer_serves patience before bytes
      have given := (readBuffer_staysWithin patience before bytes).given
      rw [← performs.state, knownSize_eq known, performs.cursor] at reads given
      rw [knownSize_eq known]
      have clamped := performs.clamped
      simp only [clampedSize, performs.cursor] at clamped
      constructor
      · obtain ⟨inquiries, quiet, _, all⟩ := performs.events
        rw [all]
        intro event member
        rcases List.mem_append.mp member with asking | reading
        · exact event.serves_of_isInquiry _ _ _ (quiet event asking)
        · have serves := reads event reading
          cases event with
          | read =>
            simp only [Event.Serves] at serves ⊢
            omega
          | query | seek | notice => trivial
      · intro value succeeded
        have result := performs.result
        rw [succeeded] at result
        have few := given _ result.symm
        omega

/-- The device reads of a read go from their offsets up to where the request or the media ends, and
no more is given than what lies on the media. -/
theorem Requests.serves (requests : Requests handle operation start size) (host : Host σ)
    (patience : Nat) :
    (∀ event ∈ (operation.apply host patience handle).outcome.events,
      event.Serves (operation.apply host patience handle).outcome.state.knownSize start size) ∧
    ∀ value, (operation.apply host patience handle).outcome.result = .ok value →
      value.amount ≤
        min ((operation.apply host patience handle).outcome.state.knownSize - start) size := by
  by_cases exact : ∃ bytes, operation = .streamReadExact bytes
  · obtain ⟨bytes, rfl⟩ := exact
    cases requests
    refine ⟨readExact_serves patience handle bytes, fun value succeeded => ?_⟩
    obtain ⟨_, _, rfl⟩ := Outcome.ok_of_map succeeded
    exact Nat.zero_le _
  · exact requests.serves_once (fun bytes same => exact ⟨bytes, same⟩) host patience

end Operation

end StorageMedia
