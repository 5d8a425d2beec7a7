import StorageMedia.Proofs.Handle.Bounds
import StorageMedia.Proofs.Transfer.Seeking

/-! # The position that a handle keeps of its device

An open handle remembers where its device stands, as long as that is certain, and leaves out the
seek before a read that goes on there. What it remembers is true in every state of a session,
whatever the operations on it succeeded or failed at, and so every device read happens exactly where
its bytes belong.
-/

namespace StorageMedia

variable {σ : Type} [Device σ] {rules : Positioned σ}

namespace Handle

variable {patience : Nat} {handle after : Handle σ} {events : List (Event σ)}

/-- The session of a handle, if it is open, knows where its device stands. -/
def Tracks (rules : Positioned σ) (handle : Handle σ) : Prop :=
  ∀ session, handle.session = some session → session.Tracks rules

theorem tracks_some {session : Session σ} (tracks : session.Tracks rules) (handle : Handle σ) :
    Tracks rules { handle with session := some session } := by
  rintro _ ⟨⟩
  exact tracks

/-- No step loses track of the device without knowing it. -/
theorem Step.tracks (step : Step patience handle events after) (tracks : handle.Tracks rules) :
    after.Tracks rules := by
  cases step with
  | move => exact tracks
  | measure opened => exact tracks_some (tracks _ opened).geometry handle
  | identify opened => exact tracks_some (tracks _ opened).mediaInformation handle
  | survey opened => exact tracks_some (tracks _ opened).tableOfContents handle
  | transfer bytes opened =>
    intro session known
    rw [session_afterTransfer] at known
    cases known
    exact ((tracks _ opened).read _ _ _ _ bytes).session

/-- The device reads of a step happen in place. -/
theorem Step.inPlace (step : Step patience handle events after) (tracks : handle.Tracks rules) :
    ∀ event ∈ events, event.InPlace rules := by
  cases step with
  | move => simp
  | measure =>
    intro event member
    exact event.inPlace_of_isInquiry (Session.geometry_inquires _ event member)
  | identify =>
    intro event member
    exact event.inPlace_of_isInquiry (Session.mediaInformation_inquires _ event member)
  | survey =>
    intro event member
    exact event.inPlace_of_isInquiry (Session.tableOfContents_inquires _ event member)
  | transfer bytes opened =>
    intro event member
    exact ((tracks _ opened).read _ _ _ _ bytes).events event (List.mem_reverse.mp member)

end Handle

namespace Operation

variable {host : Host σ} {patience : Nat} {device : σ} {handle : Handle σ}

/-- A session that was opened on a device that obeys the laws never loses track of it. -/
theorem InSession.tracks (obeys : rules.Obeys device)
    (within : InSession host patience device handle) : handle.Tracks rules := by
  refine within.keep ?_ Handle.Step.tracks ?_ ?_
  · rintro handle path session ⟨⟩
    exact ⟨obeys, by rintro _ ⟨⟩⟩
  · intro handle options tracks
    exact tracks
  · intro handle tracks
    exact tracks

/-- In every state of a session the position that is kept of the device is true, and every operation
reads the device only while it stands at the offset that the read is for. That seeks are left out
where the device stands already does not show in what a transfer delivers. -/
theorem device_stands_where_believed (rules : Positioned σ) (obeys : rules.Obeys device)
    (within : InSession host patience device handle) :
    (∀ session, handle.session = some session →
      ∀ offset, session.position = some offset → rules.position session.device = offset) ∧
    (∀ operation : Operation σ, ∀ event ∈ (operation.apply host patience handle).outcome.events,
      event.InPlace rules) ∧
    ∀ session, handle.session = some session →
      ∀ options start bytes, start + bytes.size ≤ maxOffset →
        Transfer.SeeksUnseen rules
          (Transfer.read options patience session handle.aborted start bytes)
          (Transfer.readSeeking options patience session handle.aborted start bytes) start := by
  have tracks := within.tracks obeys
  refine ⟨?_, ?_, ?_⟩
  · intro session opened
    exact (tracks session opened).stands
  · intro operation
    exact apply_shows Handle.Step.tracks Handle.Step.inPlace
      (fun event => event.inPlace_of_isInquiry) tracks operation
  · intro session opened options start bytes fits
    exact Transfer.seeksUnseen (tracks session opened) options patience handle.aborted start bytes
      fits

/-- A handle that tolerates errors in steps of two bytes. -/
def tolerantHandle : Handle ScriptedDevice :=
  .withOptions
    { tolerateErrors := true, errorRetries := 1, errorGranularity := 2, zeroOnError := true }

theorem inSession_damaged :
    InSession Host.empty 0 .damaged (tolerantHandle.startSession "drive" .damaged) :=
  .opened (.fresh _) rfl (by decide)

/-- After a read around damage the device stands where the handle believes. -/
theorem damaged_stands_where_believed :
    let handle := tolerantHandle.startSession "drive" .damaged
    let after := (apply Host.empty 0 handle (.readBuffer (.replicate 8 0x77))).outcome.state
    ∃ session, after.session = some session ∧ session.position = some 8 ∧
      session.device.position = 8 := by
  have within := inSession_damaged.step (.readBuffer (.replicate 8 0x77)) (by rintro ⟨⟩) rfl
  have believed := device_stands_where_believed (ScriptedDevice.medium (.pattern 12)).toPositioned
    ScriptedDevice.obeys_damaged within
  exact ⟨_, rfl, rfl, believed.1 _ rfl 8 rfl⟩

end Operation

end StorageMedia
