import StorageMedia.Proofs.Transfer.Delivery

/-! # Seeks that are left out

A transfer leaves out the seek to a place where it knows its device to stand. `Transfer.runSeeking`
trusts no position and tells the device to go to the place of the next byte before every read. On
devices that stay as they are when they are told to go where they stand both give the same bytes,
the same ranges that were given up and the same result. On any other device one seek more may have
a price, but both still deliver bytes of the same medium.

Two transfers are compared by their essence, which leaves out what one seek more or less changes:
the position that the session believes in and the events.
-/

namespace StorageMedia

variable {σ : Type}

def Session.forget (session : Session σ) : Session σ := { session with position := none }

/-- The transfer without the position of its device and without its events. -/
def Transfer.essence (transfer : Transfer σ) : Transfer σ :=
  { transfer with session := transfer.session.forget, events := [] }

def TransferStep.essence : TransferStep σ → TransferStep σ
  | more transfer => more transfer.essence
  | ended transfer result => ended transfer.essence result

variable [Device σ] {rules : Positioned σ}

/-- The devices stay as they are when they are told to go where they stand, and nobody signals an
abort meanwhile. -/
def Positioned.IsSettled (rules : Positioned σ) : Prop :=
  ∀ device, rules.Obeys device →
    (∃ answer, Device.seek device (rules.position device) = (device, .ok answer)) ∧
      Device.signalsInSeek device (rules.position device) = false

private theorem moveTo_forget (settled : rules.IsSettled) {session : Session σ}
    (tracks : session.Tracks rules) (offset : Nat) :
    (session.forget.moveTo offset).result = (session.moveTo offset).result ∧
      (session.forget.moveTo offset).state.forget = (session.moveTo offset).state.forget ∧
      (session.forget.moveTo offset).events.any Event.raises =
        (session.moveTo offset).events.any Event.raises := by
  by_cases known : session.position = some offset
  · obtain ⟨⟨answer, stays⟩, calm⟩ := settled session.device tracks.obeys
    rw [tracks.stands offset known] at stays calm
    simp [Session.moveTo, Session.forget, known, stays, calm, Outcome.answer, Event.raises]
  · simp only [Session.moveTo, Session.forget, known, if_false, reduceCtorEq]
    split <;> exact ⟨rfl, rfl, rfl⟩

namespace Transfer

variable {options : Options} {start : Nat} {transfer : Transfer σ}

/-- Run a transfer for a number of steps, each of which tells the device where to go. -/
def runSeeking (options : Options) (start : Nat) : Nat → Transfer σ → Transfer σ × Result Nat
  | 0, transfer => (transfer, .pending)
  | steps + 1, transfer =>
    match transfer.loseTrack.step options start with
    | .more transfer => transfer.runSeeking options start steps
    | .ended transfer result => (transfer, result)

/-- Fill a buffer from the media with a seek before every read. -/
def readSeeking (options : Options) (patience : Nat) (session : Session σ) (aborted : Bool)
    (start : Nat) (bytes : Bytes) : Transfer σ × Result Nat :=
  ({ session, aborted, buffer := .ofBytes bytes } : Transfer σ).runSeeking options start
    (steps options patience bytes.size)

section Essence

omit [Device σ] in
@[simp] private theorem buffer_essence : transfer.essence.buffer = transfer.buffer := rfl

omit [Device σ] in
@[simp] private theorem aborted_essence : transfer.essence.aborted = transfer.aborted := rfl

omit [Device σ] in
@[simp] private theorem failures_essence : transfer.essence.failures = transfer.failures := rfl

omit [Device σ] in
private theorem essence_tolerate (transfer : Transfer σ) (error : IoError) :
    (transfer.tolerate options start error).essence =
      (transfer.essence.tolerate options start error).essence := by
  by_cases spent : options.errorRetries.toNat < transfer.failures + 1
  · simp only [tolerate, failures_essence, spent, if_true]
    rfl
  · simp only [tolerate, failures_essence, spent, if_false]
    rfl

omit [Device σ] in
private theorem essence_settle (transfer : Transfer σ) (outcome : Except IoError Nat) :
    (transfer.settle options start outcome).essence =
      (transfer.essence.settle options start outcome).essence := by
  cases outcome with
  | ok count =>
    by_cases ended : count = 0
    · simp only [settle, ended, if_true]
      rfl
    by_cases exceeds : transfer.buffer.free < count
    · simp only [settle, buffer_essence, ended, exceeds, if_true, if_false]
      rfl
    · simp only [settle, buffer_essence, ended, exceeds, if_false]
      rfl
  | error error =>
    by_cases interrupted : error.isInterrupted = true
    · simp only [settle, interrupted, if_true]
      rfl
    by_cases tolerable : (options.tolerateErrors && error.isRetryable) = true
    · simp only [settle, interrupted, tolerable, if_true, if_false, Bool.false_eq_true]
      exact congrArg TransferStep.more (essence_tolerate transfer.loseTrack error)
    · simp only [settle, interrupted, tolerable, if_false, Bool.false_eq_true]
      rfl

private theorem essence_readDevice (start : Nat) {other : Transfer σ}
    (same : transfer.essence = other.essence) :
    (transfer.readDevice start).1.essence = (other.readDevice start).1.essence ∧
      (transfer.readDevice start).2 = (other.readDevice start).2 := by
  have first : (transfer.essence.readDevice start).1.essence =
      (other.essence.readDevice start).1.essence := by rw [same]
  have second : (transfer.essence.readDevice start).2 = (other.essence.readDevice start).2 := by
    rw [same]
  exact ⟨first, second⟩

private theorem essence_step (settled : rules.IsSettled)
    (tracks : transfer.session.Tracks rules) :
    (transfer.step options start).essence = (transfer.essence.step options start).essence := by
  by_cases full : transfer.buffer.free = 0
  · rw [step_of_full full, step_of_full (show transfer.essence.buffer.free = 0 from full)]
    rfl
  cases running : transfer.aborted with
  | true =>
    simp only [step, buffer_essence, aborted_essence, full, running, if_true, if_false]
    rfl
  | false =>
    obtain ⟨sameResult, sameSession, sameSignal⟩ :=
      moveTo_forget settled tracks (start + transfer.buffer.done)
    have brought : (transfer.brought start).essence = (transfer.essence.brought start).essence := by
      simp only [essence, Transfer.brought, sameSession, sameSignal]
    obtain ⟨fetched, reported⟩ := essence_readDevice start brought
    rw [step_of_room full running,
      step_of_room (show transfer.essence.buffer.free ≠ 0 from full) running]
    simp only [show transfer.essence.session = transfer.session.forget from rfl, buffer_essence,
      sameResult, ← reported]
    cases (transfer.session.moveTo (start + transfer.buffer.done)).result with
    | ok =>
      dsimp only
      rw [essence_settle, essence_settle (transfer.essence.fetched start)]
      exact congrArg (fun transfer => (settle options start transfer _).essence) fetched
    | error cause => exact congrArg (TransferStep.ended · _) brought
    | pending => exact congrArg (TransferStep.ended · _) brought

end Essence

/-- A transfer that keeps track of its device gives what one gives that seeks before every read. -/
theorem runSeeking_eq (settled : rules.IsSettled) (options : Options) (start count : Nat)
    {transfer seeking : Transfer σ} (tracks : transfer.Tracks rules)
    (same : seeking.essence = transfer.essence) :
    (seeking.runSeeking options start count).2 = (transfer.run options start count).2 ∧
      (seeking.runSeeking options start count).1.essence =
        (transfer.run options start count).1.essence := by
  induction count generalizing transfer seeking with
  | zero => exact ⟨rfl, same⟩
  | succ count ih =>
    have device : seeking.session.device = transfer.session.device :=
      show seeking.essence.session.device = transfer.essence.session.device by rw [same]
    have forgetful : seeking.loseTrack.session.Tracks rules :=
      ⟨device ▸ tracks.session.obeys, by rintro _ ⟨⟩⟩
    have steps : (seeking.loseTrack.step options start).essence =
        (transfer.step options start).essence := by
      rw [essence_step settled forgetful, essence_step settled tracks.session, ← same]
      rfl
    have next : (transfer.step options start).transfer.Tracks rules := tracks.step
    rw [runSeeking, run]
    generalize seeking.loseTrack.step options start = sought at steps ⊢
    generalize transfer.step options start = plain at steps next ⊢
    cases sought with
    | more seeking =>
      cases plain with
      | more transfer => exact ih next (TransferStep.more.inj steps)
      | ended => cases steps
    | ended seeking result =>
      cases plain with
      | more => cases steps
      | ended transfer other =>
        obtain ⟨same, rfl⟩ := TransferStep.ended.inj steps
        exact ⟨rfl, same⟩

/-- Leaving out seeks changes no byte, no range that is given up and no result. -/
theorem readSeeking_eq (settled : rules.IsSettled) {session : Session σ}
    (tracks : session.Tracks rules) (options : Options) (patience : Nat) (aborted : Bool)
    (start : Nat) (bytes : Bytes) :
    (readSeeking options patience session aborted start bytes).2 =
        (read options patience session aborted start bytes).2 ∧
      (readSeeking options patience session aborted start bytes).1.essence =
        (read options patience session aborted start bytes).1.essence := by
  have started : ({ session, aborted, buffer := .ofBytes bytes } : Transfer σ).Tracks rules :=
    ⟨tracks, by simp⟩
  exact runSeeking_eq settled options start _ started rfl

private theorem runSeeking_keeps (Holds : Transfer σ → Prop)
    (keeps : ∀ transfer, Holds transfer → Holds (transfer.loseTrack.step options start).transfer)
    (count : Nat) {transfer : Transfer σ} (holds : Holds transfer) :
    Holds (transfer.runSeeking options start count).1 := by
  induction count generalizing transfer with
  | zero => exact holds
  | succ count ih =>
    have next := keeps transfer holds
    rw [runSeeking]
    split
    · next more => rw [more] at next; exact ih next
    · next ended => rw [ended] at next; exact next

/-- A transfer with a seek before every read counts only bytes of the media as done. -/
theorem readSeeking_faithful {medium : Medium σ} {session : Session σ}
    (tracks : session.Tracks medium.toPositioned) (options : Options) (patience : Nat)
    (aborted : Bool) (start : Nat) (bytes : Bytes) (fits : start + bytes.size ≤ maxOffset) :
    Faithful medium.byteAt start (readSeeking options patience session aborted start bytes).1.buffer
      (readSeeking options patience session aborted start bytes).1.skipped
      (readSeeking options patience session aborted start bytes).1.events := by
  have sound : (readSeeking options patience session aborted start bytes).1.Sound medium start
      (start + bytes.size) :=
    runSeeking_keeps _ (fun _ sound => sound.loseTrack.step fits) _
      (.begins tracks aborted start bytes)
  exact sound.faithful

/-- Whether a transfer leaves out seeks does not show in what it delivers. -/
structure SeeksUnseen (rules : Positioned σ) (plain seeking : Transfer σ × Result Nat)
    (start : Nat) : Prop where
  /-- Where a seek in place does nothing, all is the same. -/
  same : rules.IsSettled → seeking.2 = plain.2 ∧ seeking.1.buffer = plain.1.buffer ∧
    seeking.1.skipped = plain.1.skipped
  /-- On every medium both deliver its bytes, apart from zeros in ranges that they give up. -/
  faithful : ∀ medium : Medium σ, medium.toPositioned = rules →
    Faithful medium.byteAt start plain.1.buffer plain.1.skipped plain.1.events ∧
      Faithful medium.byteAt start seeking.1.buffer seeking.1.skipped seeking.1.events

theorem seeksUnseen {session : Session σ} (tracks : session.Tracks rules) (options : Options)
    (patience : Nat) (aborted : Bool) (start : Nat) (bytes : Bytes)
    (fits : start + bytes.size ≤ maxOffset) :
    SeeksUnseen rules (read options patience session aborted start bytes)
      (readSeeking options patience session aborted start bytes) start where
  same settled := by
    obtain ⟨result, essence⟩ := readSeeking_eq settled tracks options patience aborted start bytes
    have fields (transfer : Transfer σ) : transfer.essence.buffer = transfer.buffer ∧
        transfer.essence.skipped = transfer.skipped := ⟨rfl, rfl⟩
    refine ⟨result, ?_, ?_⟩
    · rw [← (fields _).1, essence, (fields _).1]
    · rw [← (fields _).2, essence, (fields _).2]
  faithful := by
    rintro medium rfl
    exact ⟨read_faithful tracks options patience aborted start bytes fits,
      readSeeking_faithful tracks options patience aborted start bytes fits⟩

end Transfer

end StorageMedia
