import StorageMedia.Proofs.Transfer.Bounds

/-! # Transfers that are aborted

A transfer looks at the abort signal before it brings its device to the place of the next byte and
not again before it reads there. Once the signal is raised the transfer calls the device no more,
unless it was raised during a seek: then the read which that seek precedes is still made. The read
may be the one that ends the transfer, as may a seek that fails; in every other case the transfer
fails as aborted.
-/

namespace StorageMedia

variable {σ : Type}

/-- Whether an event reads the device or moves it to an offset. -/
def Event.isCall : Event σ → Bool
  | read .. | seek .. => true
  | query .. | notice _ => false

theorem Event.isCall_of_isInquiry {event : Event σ} (inquiry : event.isInquiry = true) :
    event.isCall = false := by
  cases event with
  | read | seek => simp [isInquiry] at inquiry
  | query | notice => rfl

variable [Device σ]

/-- The event is a call during which an abort was signalled. -/
def Event.Raises (event : Event σ) : Prop := event.raises = true

instance (event : Event σ) : Decidable event.Raises :=
  inferInstanceAs (Decidable (event.raises = true))

/-- What happened after an event calls the device no more, unless the event is a seek that
succeeded: then it begins with the read which that seek precedes. -/
inductive Event.EndsCalls : Event σ → List (Event σ) → Prop
  | silent {event : Event σ} {later : List (Event σ)}
      (stranded : ∀ device target, event = .seek device target →
        ∃ error, (Device.seek device target).2 = .error error)
      (uncalled : ∀ other ∈ later, other.isCall = false) : EndsCalls event later
  | sought {device : σ} {target reached capacity : Nat} {outcome : Except IoError Nat}
      {later : List (Event σ)} (arrived : (Device.seek device target).2 = .ok reached)
      (uncalled : ∀ other ∈ later, other.isCall = false) :
      EndsCalls (.seek device target)
        (.read (Device.seek device target).1 target capacity outcome :: later)

theorem Event.EndsCalls.append {event : Event σ} {later others : List (Event σ)}
    (ends : event.EndsCalls later) (uncalled : ∀ other ∈ others, other.isCall = false) :
    event.EndsCalls (later ++ others) := by
  cases ends with
  | silent stranded before =>
    exact .silent stranded (List.forall_mem_append.mpr ⟨before, uncalled⟩)
  | sought arrived before =>
    exact .sought arrived (List.forall_mem_append.mpr ⟨before, uncalled⟩)

/-- Events, in the order in which they happened, respect the abort signal: afterwards it is raised
exactly when it was before or became so during one of the calls, and no call came after that but the
read that a seek precedes during which the signal was raised, which did come. -/
structure HeedsAbort (before after : Bool) (events : List (Event σ)) : Prop where
  raised : after = true ↔ before = true ∨ ∃ event ∈ events, event.Raises
  silent : ∀ earlier event later, events = earlier ++ event :: later → event.Raises →
    event.EndsCalls later
  idle : before = true → ∀ event ∈ events, event.isCall = false

namespace HeedsAbort

variable {before middle after : Bool} {events others : List (Event σ)}

/-- Events without a read or a seek may come at any time. -/
theorem uncalled (before : Bool) (uncalled : ∀ event ∈ events, event.isCall = false) :
    HeedsAbort before (before || events.any Event.raises) events where
  raised := by simp [Event.Raises]
  silent := by
    rintro earlier event later rfl _
    refine .silent ?_ fun other member => uncalled other (by simp [member])
    rintro device target rfl
    cases uncalled (.seek device target) (by simp)
  idle _ := uncalled

/-- Facts that are reported leave the signal as it is. -/
theorem notices (before : Bool) (told : ∀ event ∈ events, ∃ fact, event = .notice fact) :
    HeedsAbort before before events := by
  have calm : events.any Event.raises = false := by
    rw [List.any_eq_false]
    intro event member
    obtain ⟨fact, rfl⟩ := told event member
    exact Bool.false_ne_true
  have heeds := uncalled before fun event member => by
    obtain ⟨fact, rfl⟩ := told event member
    rfl
  rwa [calm, Bool.or_false] at heeds

/-- A single call that is no seek or a seek that fails may happen unless the signal is raised, and
may raise it. -/
theorem call {event : Event σ} (stranded : ∀ device target, event = .seek device target →
      ∃ error, (Device.seek device target).2 = .error error)
    (raises : after = true ↔ event.Raises) : HeedsAbort false after [event] where
  raised := by simpa using raises
  silent := by
    intro earlier other later split _
    obtain ⟨rfl, rfl, rfl⟩ : earlier = [] ∧ event = other ∧ later = [] := by
      cases earlier <;> simp_all
    exact .silent stranded (by simp)
  idle := by simp

/-- A seek that succeeds and the read that it precedes may happen unless the signal is raised, and
either may raise it. -/
theorem sought {device : σ} {target reached capacity : Nat} {outcome : Except IoError Nat}
    (arrived : (Device.seek device target).2 = .ok reached)
    (raises : after = true ↔ (Event.seek device target).Raises ∨
      (Event.read (Device.seek device target).1 target capacity outcome).Raises) :
    HeedsAbort false after
      [.seek device target, .read (Device.seek device target).1 target capacity outcome] where
  raised := by simpa using raises
  silent := by
    intro earlier event later split _
    rcases List.cons_eq_append_iff.mp split with ⟨rfl, rest⟩ | ⟨earlier, rfl, rest⟩
    · cases rest
      exact .sought arrived (by simp)
    · obtain ⟨rfl, rfl⟩ : .read (Device.seek device target).1 target capacity outcome = event ∧
          later = [] := by
        cases earlier <;> simp_all
      exact .silent (by rintro _ _ ⟨⟩) (by simp)
  idle := by simp

/-- Events that respect the signal may follow each other. -/
theorem append (first : HeedsAbort before middle events) (second : HeedsAbort middle after others) :
    HeedsAbort before after (events ++ others) where
  raised := by
    rw [second.raised, first.raised]
    simp only [List.mem_append, or_and_right, exists_or, or_assoc]
  silent := by
    intro earlier event later split raises
    rcases List.append_eq_append_iff.mp split with ⟨between, rfl, rest⟩ | ⟨between, rfl, rest⟩
    · exact second.silent between event later rest raises
    · rcases List.cons_eq_append_iff.mp rest with ⟨rfl, rest⟩ | ⟨between, rfl, rfl⟩
      · exact second.silent [] event later rest.symm raises
      · have raised := first.raised.mpr (.inr ⟨event, by simp, raises⟩)
        exact (first.silent earlier event between rfl raises).append (second.idle raised)
  idle raised := by
    intro event member
    rcases List.mem_append.mp member with early | late
    · exact first.idle raised event early
    · exact second.idle (first.raised.mpr (.inl raised)) event late

end HeedsAbort

/-- Questions may come at any time. -/
theorem heedsAbort_of_inquiries {events : List (Event σ)} (signalled : Bool)
    (quiet : ∀ event ∈ events, event.isInquiry = true) :
    HeedsAbort signalled (signalled || events.any Event.raises) events :=
  .uncalled signalled fun event member => event.isCall_of_isInquiry (quiet event member)

namespace Session

variable {session : Session σ} {offset : Nat}

/-- A session that arrives stood there or made one seek, which succeeded. -/
theorem moveTo_arrived (arrived : (session.moveTo offset).result = .ok ()) :
    session.moveTo offset = .answer () session ∨
      ∃ reached, (Device.seek session.device offset).2 = .ok reached ∧
        (session.moveTo offset).events = [.seek session.device offset] ∧
        (session.moveTo offset).state.device = (Device.seek session.device offset).1 := by
  simp only [moveTo] at arrived ⊢
  split at arrived
  · next stands => exact .inl (if_pos stands)
  · next moves =>
    rw [if_neg moves]
    split at arrived
    · next reached sought => exact .inr ⟨reached, sought, rfl, rfl⟩
    · cases arrived

/-- A session that does not arrive has a device that refused to seek. -/
theorem moveTo_error {cause : Error} (failed : (session.moveTo offset).result = .error cause) :
    ∃ error, cause = .platform .seeking error ∧
      (Device.seek session.device offset).2 = .error error := by
  simp only [moveTo] at failed
  split at failed
  · cases failed
  · split at failed
    · cases failed
    · next error refused =>
      cases failed
      exact ⟨error, rfl, refused⟩

/-- A session that does not arrive made one seek, which failed. -/
theorem moveTo_heedsAbort {cause : Error} (failed : (session.moveTo offset).result = .error cause) :
    HeedsAbort false ((session.moveTo offset).events.any Event.raises)
      (session.moveTo offset).events := by
  obtain ⟨error, _, refused⟩ := moveTo_error failed
  have moves : session.position ≠ some offset := by
    intro stands
    simp [moveTo, stands, Outcome.answer] at failed
  have sought : (session.moveTo offset).events = [.seek session.device offset] := by
    simp only [moveTo, if_neg moves, refused]
  rw [sought]
  refine .call ?_ (by simp [Event.Raises])
  rintro _ _ ⟨⟩
  exact ⟨error, refused⟩

end Session

namespace Transfer

variable {options : Options} {start stop : Nat} {transfer : Transfer σ} {signalled : Bool}

/-- A transfer that began with a signal or without one has respected it so far. -/
def Heeds (signalled : Bool) (transfer : Transfer σ) : Prop :=
  HeedsAbort signalled transfer.aborted transfer.events.reverse

/-- The calls of a step are made while no signal is raised. -/
theorem Fetches.heedsAbort {outcome : Except IoError Nat}
    (fetches : transfer.Fetches start outcome) :
    HeedsAbort false (transfer.fetched start).aborted
      ((transfer.session.moveTo (start + transfer.buffer.done)).events ++
        [.read (transfer.brought start).session.device (start + transfer.buffer.done)
          transfer.buffer.free outcome]) := by
  rcases Session.moveTo_arrived fetches.arrived with stays | ⟨_, arrived, sought, device⟩
  · rw [stays]
    refine .call (by rintro _ _ ⟨⟩) ?_
    simp [Transfer.fetched, Transfer.brought, readDevice, fetches.running, stays, Outcome.answer,
      Event.Raises, Event.raises]
  · have brought : (transfer.brought start).session.device =
        (Device.seek transfer.session.device (start + transfer.buffer.done)).1 := device
    rw [sought, brought]
    refine .sought arrived ?_
    simp [Transfer.fetched, readDevice, brought, Event.Raises, Event.raises]
    simp [Transfer.brought, fetches.running, sought, Event.raises]

private theorem StepsTo.fetches {next : Transfer σ}
    (cases : StepsTo options start transfer (.more next)) :
    ∃ outcome, transfer.Fetches start outcome ∧
      ∀ event ∈ next.events, event.Raises → event ∈ (transfer.fetched start).events := by
  cases cases with
  | kept fetches => exact ⟨_, fetches, fun _ member _ => member⟩
  | interrupted fetches => exact ⟨_, fetches, fun _ member _ => member⟩
  | tolerated fetches =>
    refine ⟨_, fetches, fun event member raises => ?_⟩
    rcases tolerate_cases options start (transfer.fetched start).loseTrack _ with
      ⟨_, same⟩ | ⟨_, same⟩
    · rw [same] at member
      rcases member with _ | ⟨_, _ | ⟨_, before⟩⟩
      · cases raises
      · cases raises
      · exact before
    · rw [same] at member
      rcases member with _ | ⟨_, before⟩
      · cases raises
      · exact before

namespace Heeds

theorem report (heeds : transfer.Heeds signalled) (fact : Notice) :
    (transfer.report fact).Heeds signalled := by
  have noticed := HeedsAbort.append heeds
    (.notices transfer.aborted (show ∀ event ∈ [Event.notice fact], _ by simp))
  rwa [← List.reverse_cons] at noticed

theorem tolerate (heeds : transfer.Heeds signalled) (error : IoError) :
    (transfer.tolerate options start error).Heeds signalled := by
  have counted : Heeds signalled { transfer with failures := transfer.failures + 1 } := heeds
  rcases tolerate_cases options start transfer error with ⟨_, same⟩ | ⟨_, same⟩
  · rw [same]
    exact (counted.report _).report _
  · rw [same]
    exact counted.report _

/-- A seek that fails may raise the signal. -/
theorem brought {cause : Error} (heeds : transfer.Heeds signalled)
    (running : transfer.aborted = false)
    (failed : (transfer.session.moveTo (start + transfer.buffer.done)).result = .error cause) :
    (transfer.brought start).Heeds signalled := by
  have moved := Session.moveTo_heedsAbort failed
  simp only [Heeds, running] at heeds
  have further := heeds.append moved
  simpa [Heeds, Transfer.brought, running] using further

/-- The seek and the device read of a step may raise the signal. -/
theorem fetched {outcome : Except IoError Nat} (heeds : transfer.Heeds signalled)
    (fetches : transfer.Fetches start outcome) : (transfer.fetched start).Heeds signalled := by
  have calls := fetches.heedsAbort
  simp only [Heeds, fetches.running] at heeds
  have further := heeds.append calls
  simpa [Heeds, fetches.events_fetched, Transfer.brought] using further

theorem step (heeds : transfer.Heeds signalled) :
    (transfer.step options start).transfer.Heeds signalled := by
  have cases := step_stepsTo options start transfer
  generalize transfer.step options start = outcome at cases ⊢
  cases cases with
  | full => exact heeds
  | aborted => exact heeds.report _
  | astray _ running failed => exact heeds.brought running failed
  | drained fetches => exact heeds.fetched fetches
  | overrun fetches => exact heeds.fetched fetches
  | kept fetches => exact heeds.fetched fetches
  | interrupted fetches => exact heeds.fetched fetches
  | tolerated fetches =>
    have lost : (transfer.fetched start).loseTrack.Heeds signalled := heeds.fetched fetches
    exact lost.tolerate _
  | failed fetches => exact heeds.fetched fetches

/-- No call has raised the signal as long as it is not raised. -/
theorem calm (heeds : transfer.Heeds signalled) (running : transfer.aborted = false) :
    ∀ event ∈ transfer.events, ¬ event.Raises := by
  intro event member raises
  have raised := heeds.raised.mpr (.inr ⟨event, List.mem_reverse.mpr member, raises⟩)
  rw [running] at raised
  cases raised

end Heeds

/-- How a read of `size` bytes from `start` on may end when a signal was raised during a call of the
device: there was nothing to read, or this call ended it, or it fails as aborted. A device read ends
it by filling the request, finding the end of the data, reporting too much or failing for good, a
seek by failing or by the read that it precedes, and a question does not end it. -/
inductive EndsAfter (options : Options) (start size : Nat) : Event σ → Result Nat → Prop
  | empty (event : Event σ) (nothing : size = 0) : EndsAfter options start size event (.ok 0)
  | aborted (event : Event σ) : EndsAfter options start size event (.error .aborted)
  | filled (device : σ) (offset capacity : Nat) (outcome : Except IoError Nat) :
      EndsAfter options start size (.read device offset capacity outcome) (.ok size)
  | drained (device : σ) (offset capacity : Nat) :
      EndsAfter options start size (.read device offset capacity (.ok 0)) (.ok (offset - start))
  | overrun {device : σ} {offset capacity count : Nat} (exceeds : capacity < count) :
      EndsAfter options start size (.read device offset capacity (.ok count))
        (.error (.platform .countingRead (.excessiveCount count)))
  | failed {device : σ} {offset capacity : Nat} {error : IoError}
      (counted : error.isInterrupted = false)
      (fatal : (options.tolerateErrors && error.isRetryable) = false) :
      EndsAfter options start size (.read device offset capacity (.error error))
        (.error (.platform .reading error))
  | astray {device : σ} {offset : Nat} {error : IoError}
      (refused : (Device.seek device offset).2 = .error error) :
      EndsAfter options start size (.seek device offset) (.error (.platform .seeking error))
  | sought {device : σ} {offset capacity : Nat} {outcome : Except IoError Nat} {result : Result Nat}
      (ends : EndsAfter options start size
        (.read (Device.seek device offset).1 offset capacity outcome) result) :
      EndsAfter options start size (.seek device offset) result

/-- A whole transfer respects the signal. -/
theorem read_heedsAbort (options : Options) (patience : Nat) (session : Session σ) (aborted : Bool)
    (start : Nat) (bytes : Bytes) :
    HeedsAbort aborted (read options patience session aborted start bytes).1.aborted
      (read options patience session aborted start bytes).1.events.reverse := by
  have started : ({ session, aborted, buffer := .ofBytes bytes } : Transfer σ).Heeds aborted :=
    .notices aborted (by simp)
  exact run_keeps (Heeds aborted) (fun _ => Heeds.step) _ started

/-- A transfer of bytes that begins with a signal fails at once. -/
theorem read_of_raised (options : Options) (patience : Nat) (session : Session σ) (start : Nat)
    {bytes : Bytes} (positive : 0 < bytes.size) :
    read options patience session true start bytes =
      ((({ session, aborted := true, buffer := .ofBytes bytes } : Transfer σ).report
        (.aborted start)).loseTrack, .error .aborted) := by
  have room : ¬ (Buffer.ofBytes bytes).free = 0 := Nat.ne_of_gt positive
  rw [read, steps, run, step, if_neg room, if_pos rfl]
  rfl

/-- Only a signal makes a transfer fail as aborted. -/
theorem raised_of_run_aborted {count : Nat}
    (failed : (transfer.run options start count).2 = .error .aborted) :
    (transfer.run options start count).1.aborted = true := by
  induction count generalizing transfer with
  | zero => cases failed
  | succ count ih =>
    have cases := step_stepsTo options start transfer
    rw [run] at failed ⊢
    generalize transfer.step options start = outcome at cases failed ⊢
    cases cases with
    | aborted _ raised => exact raised
    | astray _ _ stranded =>
      cases failed
      obtain ⟨_, other, _⟩ := Session.moveTo_error stranded
      cases other
    | full | drained | overrun | failed => cases failed
    | kept | interrupted | tolerated => exact ih failed

end Transfer

end StorageMedia
