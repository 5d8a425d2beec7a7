import StorageMedia.Proofs.Device.Medium
import StorageMedia.Proofs.Handle.Knowledge

/-! # Devices are read on their media

A handle calls its device only for offsets below the media size that its session keeps, whatever the
device answered before, and it never asks for no bytes at all. A read leaves the buffer alone behind
the last byte that lies on the media, also when it fails.
-/

namespace StorageMedia

variable {σ : Type}

namespace Handle

/-- Geometry that the session of a handle keeps. -/
def knownGeometry (handle : Handle σ) : Option Geometry :=
  handle.session.bind (·.knownGeometry)

/-- Media size that the session of a handle keeps. As long as none is kept, no byte is known to lie
on the media. -/
def knownSize (handle : Handle σ) : Nat :=
  (handle.knownGeometry.map (·.mediaSize.toNat)).getD 0

theorem knownSize_eq {handle : Handle σ} {geometry : Geometry}
    (known : handle.knownGeometry = some geometry) :
    handle.knownSize = geometry.mediaSize.toNat := by
  simp [knownSize, known]

variable [Device σ] {patience : Nat} {handle after : Handle σ} {events : List (Event σ)}

/-- A geometry that is kept is never replaced. -/
theorem Step.keepsGeometry (step : Step patience handle events after) {geometry : Geometry}
    (known : handle.knownGeometry = some geometry) : after.knownGeometry = some geometry := by
  have keeps : Keeps .geometry geometry events after := step.keeps known
  exact keeps.known

theorem Step.knownSize_le (step : Step patience handle events after) :
    handle.knownSize ≤ after.knownSize := by
  cases known : handle.knownGeometry with
  | none => simp [knownSize, known]
  | some geometry =>
    have same : after.knownSize = handle.knownSize := by
      rw [knownSize_eq known, knownSize_eq (step.keepsGeometry known)]
    exact Nat.le_of_eq same.symm

/-- The calls of a step stay on the media that it leaves known. -/
theorem Step.within (step : Step patience handle events after) :
    ∀ event ∈ events, event.Within after.knownSize := by
  have size := step.knownSize_le
  cases step with
  | move => simp
  | measure =>
    intro event member
    exact event.within_of_isInquiry _ (Session.geometry_inquires _ event member)
  | identify =>
    intro event member
    exact event.within_of_isInquiry _ (Session.mediaInformation_inquires _ event member)
  | survey =>
    intro event member
    exact event.within_of_isInquiry _ (Session.tableOfContents_inquires _ event member)
  | @transfer session geometry bytes opened known positive fits =>
    have before : handle.knownGeometry = some geometry := by
      simp [knownGeometry, opened, known]
    rw [knownSize_eq before] at size
    have confined := Transfer.read_confined handle.options patience session handle.aborted
      handle.cursor bytes
    intro event member
    exact (confined.events event (List.mem_reverse.mp member)).within.mono (Nat.le_trans fits size)

theorem Steps.knownSize_le (steps : Steps patience handle events after) :
    handle.knownSize ≤ after.knownSize := by
  induction steps with
  | nil => exact Nat.le_refl _
  | cons step _ ih => exact Nat.le_trans step.knownSize_le ih

theorem Steps.within (steps : Steps patience handle events after) :
    ∀ event ∈ events, event.Within after.knownSize := by
  induction steps with
  | nil => simp
  | cons step rest ih =>
    intro event member
    rcases List.mem_append.mp member with first | later
    · exact (step.within event first).mono rest.knownSize_le
    · exact ih event later

end Handle

/-- What a read into a buffer may change of it: at most `room` bytes at its front. -/
structure BufferRead.StaysWithin (read : BufferRead σ) (bytes : Bytes) (room : Nat) : Prop where
  size : read.buffer.size = bytes.size
  outside : ∀ index, room ≤ index → read.buffer.toList[index]? = bytes.toList[index]?
  /-- A read that succeeds gives at most so many bytes. -/
  given : ∀ count, read.outcome.result = .ok count → count ≤ room

namespace Handle

variable [Device σ] {patience : Nat} {handle : Handle σ}

/-- The bytes that a transfer is for are those that lie on the media that it leaves known. -/
theorem min_knownSize_transferred {session : Session σ} {geometry : Geometry} {bytes : Bytes}
    {size : Nat} {transfer : Transfer σ × Result Nat}
    (found : session.geometry.result = .ok geometry)
    (clamped : handle.clampedSize geometry.mediaSize bytes.size = size)
    (runs : Transfer.read handle.options patience session.geometry.state
      (handle.resume session.geometry).aborted handle.cursor (bytes.take size) = transfer) :
    min bytes.size ((handle.afterTransfer transfer.1 transfer.2).knownSize - handle.cursor) =
      size := by
  have kept : (handle.afterTransfer transfer.1 transfer.2).knownGeometry = some geometry := by
    rw [← runs]
    exact (known_transferred .geometry ..).trans (Session.knownGeometry_of_geometry_ok found)
  rw [knownSize_eq kept, ← clamped, clampedSize, Nat.min_comm]

/-- A read leaves the buffer alone behind the last byte that lies on the media. -/
theorem readBuffer_staysWithin (patience : Nat) (handle : Handle σ) (bytes : Bytes) :
    (handle.readBuffer patience bytes).StaysWithin bytes
      (min bytes.size
        ((handle.readBuffer patience bytes).outcome.state.knownSize - handle.cursor)) := by
  have reads := readBuffer_readsTo patience handle bytes
  generalize handle.readBuffer patience bytes = read at reads ⊢
  cases reads with
  | closed => exact ⟨rfl, fun _ _ => rfl, by rintro _ ⟨⟩⟩
  | unmeasured => exact ⟨rfl, fun _ _ => rfl, by rintro _ ⟨⟩⟩
  | outside =>
    refine ⟨rfl, fun _ _ => rfl, ?_⟩
    rintro _ ⟨⟩
    exact Nat.zero_le _
  | @transferred session geometry size transfer opened found clamped positive runs =>
    obtain ⟨taken, le, _⟩ := clamped_bounds clamped positive
    have room := min_knownSize_transferred found clamped runs
    have filled := Transfer.size_read handle.options patience session.geometry.state
      (handle.resume session.geometry).aborted handle.cursor (bytes.take size)
    rw [runs, taken] at filled
    rw [room]
    constructor
    case size =>
      rw [Bytes.size_append, filled, Bytes.size_drop]
      omega
    case outside =>
      intro index behind
      rw [Bytes.toList_append, List.getElem?_append_right (by simpa [filled] using behind),
        Bytes.toList_drop, List.getElem?_drop, Bytes.length_toList, filled]
      congr 1
      omega
    case given =>
      intro count succeeded
      have done := Transfer.read_done (runs ▸ succeeded)
      exact taken ▸ done.2

private theorem geometry_ok_of_knownGeometry {session : Session σ} {geometry : Geometry}
    (kept : session.geometry.state.knownGeometry = some geometry) :
    ∃ found, session.geometry.result = .ok found := by
  simp only [Session.geometry] at kept ⊢
  split
  · exact ⟨_, rfl⟩
  · cases found : (resolveGeometry session.device).result <;> simp_all

/-- A read at the end of the media or behind it gives no bytes and at most finds out the
geometry. -/
theorem readBuffer_outside {bytes : Bytes} {geometry : Geometry}
    (known : (handle.readBuffer patience bytes).outcome.state.knownGeometry = some geometry)
    (outside : geometry.mediaSize.toNat ≤ handle.cursor) :
    (handle.readBuffer patience bytes).outcome.result = .ok 0 ∧
      ∀ event ∈ (handle.readBuffer patience bytes).outcome.events, event.isInquiry = true := by
  have reads := readBuffer_readsTo patience handle bytes
  generalize handle.readBuffer patience bytes = read at reads known ⊢
  cases reads with
  | closed closed => simp [Outcome.refuse, knownGeometry, closed] at known
  | unmeasured _ failed =>
    obtain ⟨found, succeeded⟩ := geometry_ok_of_knownGeometry known
    rw [failed] at succeeded
    cases succeeded
  | outside => exact ⟨rfl, Session.geometry_inquires _⟩
  | @transferred session found size transfer opened measured clamped positive runs =>
    subst runs
    have kept := (known_transferred .geometry ..).symm.trans known
    obtain rfl := Option.some.inj ((Session.knownGeometry_of_geometry_ok measured).symm.trans kept)
    rw [clampedSize] at clamped
    omega

end Handle

namespace Operation

variable [Device σ] {host : Host σ} {patience : Nat} {handle : Handle σ}

open Handle

/-- A geometry that is kept stays until the session ends. -/
theorem apply_keepsGeometry (operation : Operation σ) {geometry : Geometry}
    (known : handle.knownGeometry = some geometry)
    (stays : (operation.apply host patience handle).outcome.state.isOpen = true) :
    (operation.apply host patience handle).outcome.state.knownGeometry = some geometry := by
  have keeps : Keeps .geometry geometry (operation.apply host patience handle).outcome.events
      (operation.apply host patience handle).outcome.state := apply_keeps known stays
  exact keeps.known

/-- The calls of an operation stay on the media that it leaves known. -/
theorem apply_within (host : Host σ) (patience : Nat) (handle : Handle σ)
    (operation : Operation σ) :
    ∀ event ∈ (operation.apply host patience handle).outcome.events,
      event.Within (operation.apply host patience handle).outcome.state.knownSize := by
  have effect := apply_effect host patience handle operation
  generalize (operation.apply host patience handle).outcome.events = events at effect ⊢
  generalize (operation.apply host patience handle).outcome.state = after at effect ⊢
  cases effect with
  | works steps => exact steps.within
  | opens _ _ quiet =>
    intro event member
    exact event.within_of_isInquiry _ (quiet event member)
  | closes =>
    intro event member
    obtain rfl := List.mem_singleton.mp member
    trivial
  | configures => simp
  | signals => simp

/-- Devices are never called outside their media. Whatever a device answers, every call of a run is
for offsets below the media size that the session keeps, which it keeps until it ends, and every
read asks for at least one byte. A read into a buffer changes and gives no more than the bytes that
lie on the media from its offset on, and at the end of the media or behind it gives no bytes and
calls the device neither to read nor to seek. -/
theorem devices_called_on_media (host : Host σ) (patience : Nat) (handle : Handle σ) :
    (∀ operations, ∀ response ∈ run host patience handle operations,
      ∀ event ∈ response.outcome.events, event.Within response.outcome.state.knownSize) ∧
    (∀ operation geometry, handle.knownGeometry = some geometry →
      (apply host patience handle operation).outcome.state.isOpen = true →
      (apply host patience handle operation).outcome.state.knownGeometry = some geometry) ∧
    ∀ bytes, let read := handle.readBuffer patience bytes
      read.StaysWithin bytes (min bytes.size (read.outcome.state.knownSize - handle.cursor)) ∧
      ∀ geometry, read.outcome.state.knownGeometry = some geometry →
        geometry.mediaSize.toNat ≤ handle.cursor →
        read.outcome.result = .ok 0 ∧ ∀ event ∈ read.outcome.events, event.isInquiry = true := by
  refine ⟨?_, ?_, ?_⟩
  · intro operations response member
    obtain ⟨before, operation, rfl⟩ := exists_of_mem_run member
    exact apply_within host patience before operation
  · intro operation geometry known stays
    exact apply_keepsGeometry operation known stays
  · intro bytes read
    constructor
    · exact readBuffer_staysWithin patience handle bytes
    · intro geometry known outside
      exact readBuffer_outside known outside

/-- A read of a boastful device fails, and the device is not called beyond its end. -/
theorem boastful_called_on_media :
    let handle := (withOptions {}).startSession "drive" ScriptedDevice.boastful
    let read := handle.readBuffer 0 (.replicate 16 7)
    read.outcome.result = .error (.platform .countingRead (.excessiveCount 11)) ∧
      read.outcome.state.knownSize = 10 ∧ read.StaysWithin (.replicate 16 7) 10 ∧
      ∀ response ∈ run Host.empty 0 handle [.readBuffer (.replicate 16 7)],
        ∀ event ∈ response.outcome.events, event.Within response.outcome.state.knownSize := by
  obtain ⟨within, _, reads⟩ := devices_called_on_media Host.empty 0
    ((withOptions {}).startSession "drive" ScriptedDevice.boastful)
  exact ⟨rfl, rfl, (reads (.replicate 16 7)).1, within _⟩

end Operation

end StorageMedia
