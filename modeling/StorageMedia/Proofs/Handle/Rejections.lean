import StorageMedia.Proofs.Handle.Accounting
import StorageMedia.Proofs.Handle.Atomicity
import StorageMedia.Proofs.Handle.Delivery
import StorageMedia.Proofs.Transfer.Rejections

/-! # Failures that end a read

Whatever a read kept, tried again or gave up before, the first device read that it rejects is the
last thing that happens. Its error is what the read comes to, a stream sees the very error of the
device, and the handle records nothing. Without tolerance nothing is ever given up, and the buffer
holds what the device reads left there, whatever the options say of retries, blocks and zeros.
-/

namespace StorageMedia

variable {σ : Type}

namespace Transfer

/-- A rejected read is the last event of all, and its error is the result. -/
theorem EndsRejected.of_getElem? {options : Options} {events : List (Event σ)} {result : Result Nat}
    (ends : EndsRejected options events result) {index offset capacity : Nat} {device : σ}
    {error : IoError}
    (shown : events.reverse[index]? = some (.read device offset capacity (.error error)))
    (rejects : options.Rejects error) :
    index + 1 = events.length ∧ result = .error (.platform .reading error) := by
  cases ends with
  | none clear =>
    have member := List.mem_reverse.mp (List.mem_of_getElem? shown)
    exact absurd rejects (clear _ member)
  | @last earlier final device offset capacity clear =>
    rw [List.reverse_cons] at shown
    have inside : index < earlier.length + 1 := by
      simpa using (List.getElem?_eq_some_iff.mp shown).1
    rcases Nat.lt_or_ge index earlier.length with before | behind
    · rw [List.getElem?_append_left (by simpa using before)] at shown
      have member := List.mem_reverse.mp (List.mem_of_getElem? shown)
      exact absurd rejects (clear _ member)
    · obtain rfl : index = earlier.length := by omega
      rw [List.getElem?_append_right (by simp)] at shown
      obtain ⟨_, _, _, rfl⟩ : _ ∧ _ ∧ _ ∧ final = error := by simpa using shown
      exact ⟨rfl, rfl⟩

end Transfer

variable [Device σ]

namespace Handle

variable {patience : Nat} {handle after : Handle σ} {bytes : Bytes} {events : List (Event σ)}

/-- A read ends with the device read that it rejects. -/
theorem readBuffer_endsRejected {index offset capacity : Nat} {device : σ} {error : IoError}
    (shown : (handle.readBuffer patience bytes).outcome.events[index]? =
      some (.read device offset capacity (.error error)))
    (rejects : handle.options.Rejects error) :
    index + 1 = (handle.readBuffer patience bytes).outcome.events.length ∧
      (handle.readBuffer patience bytes).outcome.result = .error (.platform .reading error) := by
  have quiet {events : List (Event σ)} (inquiries : ∀ event ∈ events, event.isInquiry = true)
      (shown : events[index]? = some (.read device offset capacity (.error error))) : False := by
    have inquiry := inquiries _ (List.mem_of_getElem? shown)
    simp [Event.isInquiry] at inquiry
  have reads := readBuffer_readsTo patience handle bytes
  generalize handle.readBuffer patience bytes = read at reads shown ⊢
  cases reads with
  | closed => simp [Outcome.refuse] at shown
  | unmeasured | outside => exact (quiet (Session.geometry_inquires _) shown).elim
  | @transferred session geometry size transfer opened found clamped positive runs =>
    have ends := Transfer.read_endsRejected handle.options patience session.geometry.state
      (handle.resume session.geometry).aborted handle.cursor (bytes.take size)
    rw [runs] at ends
    dsimp only at shown ⊢
    -- Questions come first, and they read nothing.
    rcases Nat.lt_or_ge index session.geometry.events.length with asked | transferred
    · rw [List.getElem?_append_left asked] at shown
      exact (quiet session.geometry_inquires shown).elim
    · rw [List.getElem?_append_right transferred] at shown
      obtain ⟨last, result⟩ := ends.of_getElem? shown rejects
      refine ⟨?_, result⟩
      rw [List.length_append, List.length_reverse]
      omega

/-- Without tolerance a read leaves in its buffer what its device reads wrote there. -/
theorem bytes_readBuffer_of_strict (strict : handle.options.tolerateErrors = false) (index : Nat) :
    (handle.readBuffer patience bytes).buffer.toList[index]? =
      Event.leftAt handle.cursor bytes (handle.readBuffer patience bytes).outcome.events
        (handle.cursor + index) := by
  have unread {events : List (Event σ)} (inquiries : ∀ event ∈ events, event.isInquiry = true) :
      bytes.toList[index]? = Event.leftAt handle.cursor bytes events (handle.cursor + index) := by
    rw [← List.append_nil events, Event.leftAt_of_inquiries inquiries, Event.leftAt, List.foldl_nil,
      Nat.add_sub_cancel_left]
  have reads := readBuffer_readsTo patience handle bytes
  generalize handle.readBuffer patience bytes = read at reads ⊢
  cases reads with
  | closed => exact unread (by simp [Outcome.refuse])
  | unmeasured | outside => exact unread (Session.geometry_inquires _)
  | @transferred session geometry size transfer opened found clamped positive runs =>
    have left := Transfer.bytes_read_of_strict strict patience session.geometry.state
      (handle.resume session.geometry).aborted handle.cursor (bytes.take size)
      (clamped_fits clamped positive) index
    have confined := Transfer.read_confined handle.options patience session.geometry.state
      (handle.resume session.geometry).aborted handle.cursor (bytes.take size)
    have filled := Transfer.size_read handle.options patience session.geometry.state
      (handle.resume session.geometry).aborted handle.cursor (bytes.take size)
    obtain ⟨taken, _, _⟩ := clamped_bounds clamped positive
    rw [runs] at left confined filled
    rw [taken] at confined filled
    rw [Event.leftAt_of_inquiries session.geometry_inquires, Bytes.toList_append]
    rcases Nat.lt_or_ge index size with inside | behind
    · rw [List.getElem?_append_left (by rw [Bytes.length_toList]; omega), left, Event.leftAt,
        Event.leftAt, Nat.add_sub_cancel_left, Bytes.toList_take, List.getElem?_take, if_pos inside]
    · -- No device read is for so many bytes that it could write there.
      have quiet : ∀ event ∈ transfer.1.events.reverse,
          event.stored? (handle.cursor + index) = none := by
        intro event member
        have pursues := confined.events event (List.mem_reverse.mp member)
        cases event with
        | read device offset capacity outcome =>
          obtain ⟨_, _, stop⟩ := pursues
          rw [Event.stored?, if_pos (by omega), List.getElem?_eq_none]
          rw [List.length_take]
          omega
        | _ => rfl
      rw [← List.nil_append transfer.1.events.reverse, Event.leftAt_append_of_quiet quiet,
        Event.leftAt, List.foldl_nil, Nat.add_sub_cancel_left,
        List.getElem?_append_right (by rw [Bytes.length_toList]; omega), Bytes.toList_drop,
        List.getElem?_drop, Bytes.length_toList, filled]
      congr 1
      omega

/-- Without tolerance no step gives up anything. -/
theorem Step.silent (step : Step patience handle events after)
    (strict : handle.options.tolerateErrors = false) :
    ∀ event ∈ events, event.isSkip = false := by
  have asked {events : List (Event σ)} (inquiries : ∀ event ∈ events, event.isInquiry = true) :
      ∀ event ∈ events, event.isSkip = false := fun event member =>
    (Event.IsAside.of_isInquiry (inquiries event member)).2
  cases step with
  | move => simp
  | measure => exact asked (Session.geometry_inquires _)
  | identify => exact asked (Session.mediaInformation_inquires _)
  | survey => exact asked (Session.tableOfContents_inquires _)
  | @transfer session geometry bytes =>
    have whole := Transfer.read_isWhole strict patience session handle.aborted handle.cursor bytes
    intro event member
    exact whole.silent event (List.mem_reverse.mp member)

/-- Without tolerance no step records anything. -/
theorem Step.errors_of_strict (step : Step patience handle events after)
    (strict : handle.options.tolerateErrors = false) : after.errors = handle.errors := by
  cases step with
  | move | measure | identify | survey => rfl
  | @transfer session geometry bytes =>
    have whole := Transfer.read_isWhole strict patience session handle.aborted handle.cursor bytes
    simp only [afterTransfer]
    split
    · rw [whole.skipped]
      exact ErrorRanges.merge_empty _
    · rfl

theorem Step.strict (step : Step patience handle events after)
    (strict : handle.options.tolerateErrors = false) : after.options.tolerateErrors = false := by
  rw [step.options, strict]

theorem Steps.errors_of_strict (steps : Steps patience handle events after)
    (strict : handle.options.tolerateErrors = false) : after.errors = handle.errors := by
  induction steps with
  | nil => rfl
  | cons step _ ih => exact (ih (step.strict strict)).trans (step.errors_of_strict strict)

end Handle

namespace Operation

open Handle

/-- On any device, a device read that the options reject is the last thing that happens in its read:
the read fails with the very error, which a stream passes on as it is, and neither moves the offset
nor records anything. Without tolerance no operation gives up anything, none in a session records
anything, and a read leaves in its buffer what its device reads wrote there. -/
theorem rejected_read_ends_read (host : Host σ) (patience : Nat) (handle : Handle σ)
    (bytes : Bytes) :
    let read := handle.readBuffer patience bytes
    (∀ index device offset capacity error,
      read.outcome.events[index]? = some (.read device offset capacity (.error error)) →
      handle.options.Rejects error →
        index + 1 = read.outcome.events.length ∧
        read.outcome.result = .error (.platform .reading error) ∧
        read.outcome.state.cursor = handle.cursor ∧ read.outcome.state.errors = handle.errors ∧
        ∃ cause, (apply host patience handle (.streamRead bytes)).outcome.result = .error cause ∧
          cause.toIo = error) ∧
    (handle.options.tolerateErrors = false →
      read.outcome.state.errors = handle.errors ∧
      (∀ index, read.buffer.toList[index]? =
        Event.leftAt handle.cursor bytes read.outcome.events (handle.cursor + index)) ∧
      ∀ operation : Operation σ,
        (∀ event ∈ (operation.apply host patience handle).outcome.events, event.isSkip = false) ∧
        (operation.worksInSession = true →
          (operation.apply host patience handle).outcome.state.errors = handle.errors)) := by
  constructor
  · intro index device offset capacity error shown rejects
    obtain ⟨last, failed⟩ := readBuffer_endsRejected shown rejects
    have withstands := (readBuffer_atomic patience handle bytes).withstands _ failed
    refine ⟨last, failed, withstands.cursor, withstands.errors, .platform .reading error, ?_, rfl⟩
    simp only [apply, Response.ofRead, Outcome.map, failed, Result.map]
  · intro strict
    refine ⟨(readBuffer_steps patience handle bytes).errors_of_strict strict,
      bytes_readBuffer_of_strict strict, fun operation => ⟨?_, fun works => ?_⟩⟩
    · have keeps : ∀ {handle : Handle σ} {events after}, Step patience handle events after →
          handle.options.tolerateErrors = false → after.options.tolerateErrors = false :=
        Step.strict
      exact apply_shows keeps Step.silent
        (fun _ inquiry => (Event.IsAside.of_isInquiry inquiry).2) strict operation
    · exact (apply_steps works).errors_of_strict strict

end Operation

/-- Eight bytes of a device that goes away after two bad ones. -/
def ScriptedDevice.departing : ScriptedDevice where
  content := .pattern 8
  script := [{ action := .short 2 }, { action := .failed (.system 5) },
    { action := .failed (.system 4) }, { action := .failed (.system 5) },
    { action := .failed (.system SystemError.noDevice), scribble := 3 }]
  mediaSize := .ok (some 8)
  seekEnd := .ok 8

namespace Operation

open Handle

/-- After two bytes, a retry and a block that was given up, the device is gone. The read fails with
its error and records nothing. Without tolerance the first failure ends it, and the buffer keeps its
bytes behind the two that were read. -/
theorem departing_ends_read :
    let handle := tolerantHandle.startSession "drive" ScriptedDevice.departing
    let read := handle.readBuffer 1 (.replicate 8 0x77)
    let strict := (withOptions { zeroOnError := true, errorRetries := 3 }).startSession "drive"
      ScriptedDevice.departing
    let refused := strict.readBuffer 1 (.replicate 8 0x77)
    (∃ event ∈ read.outcome.events, event.isSkip = true) ∧
      read.buffer.toList = [0, 1, 0, 0, 0xee, 0xee, 0xee, 0x77] ∧
      read.outcome.result = .error (.platform .reading (.system SystemError.noDevice)) ∧
      read.outcome.state.cursor = 0 ∧ read.outcome.state.errors = {} ∧
      (∃ cause, (apply Host.empty 1 handle (.streamRead (.replicate 8 0x77))).outcome.result =
        .error cause ∧ cause.toIo = .system SystemError.noDevice) ∧
      refused.outcome.result = .error (.platform .reading (.system 5)) ∧
      refused.outcome.state.errors = {} ∧
      refused.buffer.toList[2]? = Event.leftAt 0 (.replicate 8 0x77) refused.outcome.events 2 := by
  have shown : ((tolerantHandle.startSession "drive" ScriptedDevice.departing).readBuffer 1
      (.replicate 8 0x77)).outcome.events[15]? =
        some (.read _ _ _ (.error (.system SystemError.noDevice))) := rfl
  obtain ⟨_, failed, cursor, errors, stream⟩ :=
    (rejected_read_ends_read Host.empty 1 _ _).1 _ _ _ _ _ shown
      (.inr (by simp [IoError.IsFinal]))
  obtain ⟨recorded, left, _⟩ := (rejected_read_ends_read Host.empty 1
    ((withOptions { zeroOnError := true, errorRetries := 3 }).startSession "drive"
      ScriptedDevice.departing) (.replicate 8 0x77)).2 rfl
  exact ⟨by decide, by decide, failed, cursor, errors, stream, rfl, recorded, left 2⟩

end Operation

end StorageMedia
