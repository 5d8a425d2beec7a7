import StorageMedia.Proofs.Handle.Atomicity
import StorageMedia.Proofs.Handle.Runs
import StorageMedia.Proofs.Handle.Signal

/-! # Opening, closing and what is refused

An operation looks at its arguments before it looks at the handle, and at the handle before it does
anything. It is refused for a fault in its arguments (`Operation.fault?`), whether the handle is open
or closed; otherwise an opening is refused because the handle is open, and everything that needs a
session because it is closed. What is refused changes nothing and calls no device. A handle is open
exactly if, of all operations on it that opened or closed it, the last one opened it.
-/

namespace StorageMedia

variable {σ : Type}

/-- The fault of a read size, if it has one. -/
def sizeFault? (size : Int) : Option ArgumentFault :=
  if size < 0 then some (.negativeReadSize size)
  else if (maximumReadSize : Int) < size then some (.excessiveReadSize size.toNat)
  else none

namespace Operation

/-- The first fault in the arguments of an operation, if there is one. -/
def fault? (options : Options) : Operation σ → Option ArgumentFault
  | openPath path mode =>
    if path = "" then some .emptyPath
    else if mode = "r" ∨ mode = "rb" then none
    else some (.unsupportedMode mode)
  | openDevice path _ => if path = "" then some .emptyPath else none
  | read size => sizeFault? size
  | readDefault => sizeFault? options.defaultReadSize
  | readAt size target =>
    (sizeFault? size).or (if target < 0 then some (.negativeOffset target) else none)
  | readBufferAt _ target | streamSeek (.start target) =>
    if target ≤ maxSeekOffset then none else some .excessiveOffset
  | seekByCode _ code =>
    if code = 0 ∨ code = 1 ∨ code = 2 then none else some (.unsupportedOrigin code)
  | informationValue identifier => if identifier = "" then some .emptyIdentifier else none
  | _ => none

/-- Whether an operation needs an open handle. The other ones open the handle or look at what it
keeps while it is closed; filling an empty buffer reads nothing. -/
def needsSession : Operation σ → Bool
  | openPath .. | openDevice .. | isOpen | filename | options | setOptions _ | numberOfErrors
  | errorAt _ | signalAbort | describe => false
  | streamReadExact bytes => bytes.size != 0
  | _ => true

/-- The response to an operation that is refused: the handle and the buffer of the caller are those
from before, and nothing has happened. -/
def refused (handle : Handle σ) (operation : Operation σ) (cause : Error) : Response σ :=
  { outcome := .refuse cause handle, buffer := operation.buffer? }

end Operation

theorem checkReadSize_eq (size : Int) :
    checkReadSize size =
      match sizeFault? size with
      | some fault => .error (.invalidArgument fault)
      | none => .ok size.toNat := by
  simp only [checkReadSize, sizeFault?]
  split
  · rfl
  · split <;> rfl

variable [Device σ]

namespace Operation

variable {host : Host σ} {patience : Nat} {handle : Handle σ} {operation : Operation σ}

/-- Malformed arguments are refused in every state. -/
theorem apply_of_fault {fault : ArgumentFault}
    (found : operation.fault? handle.options = some fault) :
    operation.apply host patience handle = operation.refused handle (.invalidArgument fault) := by
  cases operation with
  | openPath path mode =>
    simp only [fault?] at found
    split at found
    · next empty =>
      cases found
      simp only [apply, Handle.openPath, if_pos empty]
      rfl
    next named =>
    split at found
    · cases found
    next unread =>
    cases found
    simp only [apply, Handle.openPath, AccessMode.ofText, if_neg named, if_neg unread]
    rfl
  | openDevice path device =>
    simp only [fault?] at found
    split at found
    · next empty =>
      cases found
      simp only [apply, Handle.openDevice, if_pos empty]
      rfl
    · cases found
  | read size =>
    simp only [fault?] at found
    simp only [apply, Handle.read, checkReadSize_eq, found]
    rfl
  | readDefault =>
    simp only [fault?] at found
    simp only [apply, Handle.readDefault, Handle.read, checkReadSize_eq, found]
    rfl
  | readAt size target =>
    simp only [fault?] at found
    cases sized : sizeFault? size with
    | some other =>
      simp only [sized, Option.some_or, Option.some.injEq] at found
      subst found
      simp only [apply, Handle.readAt, checkReadSize_eq, sized]
      rfl
    | none =>
      simp only [sized, Option.none_or] at found
      split at found
      · next negative =>
        cases found
        simp only [apply, Handle.readAt, checkReadSize_eq, sized, if_pos negative]
        rfl
      · cases found
  | readBufferAt bytes target =>
    simp only [fault?] at found
    split at found
    · cases found
    · next far =>
      cases found
      simp only [apply, Handle.readBufferAt, Handle.seekStart, if_neg far]
      rfl
  | streamSeek position =>
    cases position with
    | start target =>
      simp only [fault?] at found
      split at found
      · cases found
      · next far =>
        cases found
        simp only [apply, Handle.streamSeek, Handle.seekStart, if_neg far]
        rfl
    | current | streamEnd => cases found
  | seekByCode distance code =>
    simp only [fault?] at found
    split at found
    · cases found
    · next unknown =>
      cases found
      simp only [not_or] at unknown
      simp only [apply, Handle.seekByCode, Origin.ofCode, unknown, if_false]
      rfl
  | informationValue identifier =>
    simp only [fault?] at found
    split at found
    · next empty =>
      cases found
      simp only [apply, Handle.informationValue, if_pos empty]
      rfl
    · cases found
  | _ => cases found

/-- An opening that is well formed is refused on an open handle. -/
theorem apply_of_open (formed : operation.fault? handle.options = none)
    (opening : operation.isOpening = true) (opened : handle.isOpen = true) :
    operation.apply host patience handle = operation.refused handle .alreadyOpen := by
  cases operation with
  | openPath path mode =>
    simp only [fault?] at formed
    split at formed
    · cases formed
    next named =>
    split at formed
    · next readable =>
      simp only [apply, Handle.openPath, AccessMode.ofText, if_neg named, if_pos readable,
        if_pos opened]
      rfl
    · cases formed
  | openDevice path device =>
    simp only [fault?] at formed
    split at formed
    · cases formed
    next named =>
    simp only [apply, Handle.openDevice, if_neg named, if_pos opened]
    rfl
  | _ => cases opening

end Operation

/-! ## Closed handles -/

namespace Handle

variable {patience : Nat} {handle : Handle σ}

theorem mediaSize_closed (closed : handle.session = none) :
    handle.mediaSize = .refuse .notOpen handle := by
  simp only [mediaSize, geometry, onSession_closed closed]
  rfl

theorem seek_closed (closed : handle.session = none) (offset : Int) (origin : Origin) :
    handle.seek offset origin = .refuse .notOpen handle := by
  cases origin with
  | start | current => simp [seek, isOpen, closed]
  | mediaEnd => simp only [seek, mediaSize_closed closed, Outcome.andThen_refuse]

theorem readUpTo_closed (closed : handle.session = none) (size : Nat) :
    handle.readUpTo patience size = .refuse .notOpen handle := by
  simp only [readUpTo, mediaSize_closed closed, Outcome.andThen_refuse]

theorem read_closed (closed : handle.session = none) {size : Int}
    (formed : sizeFault? size = none) : handle.read patience size = .refuse .notOpen handle := by
  simp only [read, checkReadSize_eq, formed, readUpTo_closed closed]

theorem readExact_closed (closed : handle.session = none) {bytes : Bytes}
    (room : bytes.size ≠ 0) :
    handle.readExact patience bytes = (bytes, .refuse .notOpen handle) := by
  simp only [readExact, fill, if_neg room, readBuffer_closed closed]
  rfl

end Handle

namespace Operation

variable {host : Host σ} {patience : Nat} {handle : Handle σ} {operation : Operation σ}

/-- What needs a session is refused on a closed handle if it is well formed. -/
theorem apply_of_closed (formed : operation.fault? handle.options = none)
    (needs : operation.needsSession = true) (closed : handle.session = none) :
    operation.apply host patience handle = operation.refused handle .notOpen := by
  cases operation with
  | openPath | openDevice | isOpen | filename | options | setOptions | numberOfErrors | errorAt
  | signalAbort | describe => cases needs
  | close => simp only [apply, Handle.close, closed]; rfl
  | geometry | mediaSize | bytesPerSector | maxTransferSize | numberOfSectors =>
    simp only [apply, Handle.mediaSize, Handle.bytesPerSector, Handle.maxTransferSize,
      Handle.geometry, Handle.onSession_closed closed]
    rfl
  | mediaInformation | mediaType | busType =>
    simp only [apply, Handle.mediaType, Handle.busType, Handle.mediaInformation,
      Handle.onSession_closed closed]
    rfl
  | informationValue identifier =>
    simp only [fault?, ite_eq_right_iff, reduceCtorEq, imp_false] at formed
    simp only [apply, Handle.informationValue, if_neg formed, Handle.mediaInformation,
      Handle.onSession_closed closed]
    rfl
  | numberOfSessions | numberOfTracks | sessionAt | trackAt =>
    simp only [apply, Handle.numberOfSessions, Handle.numberOfTracks, Handle.sessionAt,
      Handle.trackAt, Handle.tableOfContents, Handle.onSession_closed closed]
    rfl
  | offset =>
    simp only [apply, Handle.offset, Handle.isOpen, closed, Option.isSome_none]
    rfl
  | seek distance origin =>
    simp only [apply, Handle.seek_closed closed]
    rfl
  | seekByCode distance code =>
    simp only [fault?, ite_eq_left_iff, reduceCtorEq, imp_false, Decidable.not_not] at formed
    simp only [apply, Handle.seekByCode, Origin.ofCode]
    obtain rfl | rfl | rfl := formed <;>
    · simp only [Handle.seek_closed closed]
      rfl
  | read size =>
    simp only [fault?] at formed
    simp only [apply, Handle.read_closed closed formed]
    rfl
  | readDefault =>
    simp only [fault?] at formed
    simp only [apply, Handle.readDefault, Handle.read_closed closed formed]
    rfl
  | readAt size target =>
    simp only [fault?, Option.or_eq_none_iff, ite_eq_right_iff, reduceCtorEq, imp_false] at formed
    obtain ⟨sized, placed⟩ := formed
    simp only [apply, Handle.readAt, checkReadSize_eq, sized, if_neg placed,
      Handle.seek_closed closed, Outcome.andThen_refuse]
    rfl
  | readBuffer bytes | streamRead bytes =>
    simp only [apply, Handle.readBuffer_closed closed]
    rfl
  | readBufferAt bytes target =>
    simp only [fault?, ite_eq_left_iff, reduceCtorEq, imp_false, Decidable.not_not] at formed
    simp only [apply, Handle.readBufferAt, Handle.seekStart, if_pos formed,
      Handle.seek_closed closed]
    rfl
  | streamReadExact bytes =>
    have room : bytes.size ≠ 0 := by simpa [needsSession] using needs
    simp only [apply, Handle.readExact_closed closed room]
    rfl
  | streamSeek position =>
    cases position with
    | start target =>
      simp only [fault?, ite_eq_left_iff, reduceCtorEq, imp_false, Decidable.not_not] at formed
      simp only [apply, Handle.streamSeek, Handle.seekStart, if_pos formed,
        Handle.seek_closed closed]
      rfl
    | current distance | streamEnd distance =>
      simp only [apply, Handle.streamSeek, Handle.seek_closed closed]
      rfl
  | streamRewind =>
    simp only [apply, Handle.rewind, Handle.streamSeek, Handle.seekStart, Nat.zero_le, if_true,
      Handle.seek_closed closed]
    rfl
  | streamPosition =>
    simp only [apply, Handle.streamPosition, Handle.streamSeek, Handle.seek_closed closed]
    rfl

end Operation

/-! ## Whether a handle is open -/

namespace Handle

variable {patience : Nat} {handle after : Handle σ} {events : List (Event σ)}

/-- No step opens a handle. -/
theorem Step.opened (step : Step patience handle events after) : handle.isOpen = true := by
  cases step with
  | move opened => exact opened
  | measure opened | identify opened | survey opened | transfer _ opened =>
    simp [Handle.isOpen, opened]

theorem Steps.isOpen_eq (steps : Steps patience handle events after) :
    after.isOpen = handle.isOpen := by
  induction steps with
  | nil => rfl
  | cons step _ ih => rw [ih, step.isOpen, step.opened]

end Handle

/-- Whether an operation that succeeds leaves the handle open, if it opens or closes it. -/
def Operation.turn? : Operation σ → Option Bool
  | openPath .. | openDevice .. => some true
  | close => some false
  | _ => none

/-- Whether a call left the handle open, if it opened or closed it. -/
def Call.turn? (host : Host σ) (patience : Nat) (call : Call σ) : Option Bool :=
  match (call.response host patience).outcome.result with
  | .ok _ => call.operation.turn?
  | _ => none

namespace Operation

variable {host : Host σ} {patience : Nat} {handle after : Handle σ} {operation : Operation σ}
  {history : List (Call σ)}

private theorem isOpen_of_turnless (turnless : operation.turn? = none) :
    (operation.apply host patience handle).outcome.state.isOpen = handle.isOpen := by
  cases operation with
  | openPath | openDevice | close => cases turnless
  | setOptions | signalAbort => rfl
  | _ => exact (apply_steps rfl).isOpen_eq

private theorem isOpen_opening (opening : operation.isOpening = true) :
    (operation.apply host patience handle).outcome.state.isOpen =
      ((Call.mk handle operation).turn? host patience).getD handle.isOpen := by
  obtain ⟨_, ⟨⟨_, succeeded⟩, _, path, device, opens, began⟩ | ⟨failed, same⟩⟩ :=
    apply_opening host patience handle operation opening
  · rw [began, Call.turn?, Call.response, succeeded]
    cases opens <;> rfl
  · rw [same, Call.turn?, Call.response]
    split
    · next value succeeded =>
      refine absurd ⟨opening, ?_⟩ failed
      cases operation with
      | openPath | openDevice =>
        obtain ⟨_, _, rfl⟩ := Outcome.ok_of_map succeeded
        exact succeeded
      | _ => cases opening
    · rfl

/-- At its turn an operation decides whether the handle is open. -/
theorem isOpen_apply (host : Host σ) (patience : Nat) (handle : Handle σ)
    (operation : Operation σ) :
    (operation.apply host patience handle).outcome.state.isOpen =
      ((Call.mk handle operation).turn? host patience).getD handle.isOpen := by
  cases turn : operation.turn? with
  | none =>
    rw [isOpen_of_turnless turn, Call.turn?]
    split <;> simp [turn]
  | some =>
    cases operation with
    | openPath | openDevice => exact isOpen_opening rfl
    | close =>
      cases opened : handle.session with
      | none => simp [Call.turn?, Call.response, apply, Response.of, Handle.close, opened,
          Outcome.map, Outcome.refuse, Result.map]
      | some session => simp [Call.turn?, Call.response, apply, Response.of, Handle.close, opened,
          Outcome.map, Result.map, Operation.turn?, Handle.isOpen]
    | _ => cases turn

/-- The last turn of a run decides whether the handle is open. -/
theorem Runs.isOpen (runs : Runs host patience handle history after) :
    after.isOpen =
      (history.filterMap (Call.turn? host patience)).getLast?.getD handle.isOpen := by
  induction runs with
  | nil => rfl
  | @cons handle _ history operation _ _ ih =>
    rw [ih, isOpen_apply, List.filterMap_cons]
    cases (Call.mk handle operation).turn? host patience with
    | none => rfl
    | some turn =>
      rw [List.getLast?_cons]
      rfl

/-- A handle is open exactly if the last operation on it that opened or closed it opened it. An
operation whose arguments are malformed is refused for them in every state. If they are well formed,
an opening is refused on an open handle, and what needs a session is refused on a closed one. Each
time the handle is left as it is, the device is not called and a buffer is not touched. -/
theorem handle_follows_lifecycle {options : Options}
    (runs : Runs host patience (.withOptions options) history handle) :
    (handle.isOpen = true ↔
      (history.filterMap (Call.turn? host patience)).getLast? = some true) ∧
    ∀ operation : Operation σ,
      (∀ fault, operation.fault? handle.options = some fault →
        operation.apply host patience handle =
          operation.refused handle (.invalidArgument fault)) ∧
      (operation.fault? handle.options = none →
        (operation.isOpening = true → handle.isOpen = true →
          operation.apply host patience handle = operation.refused handle .alreadyOpen) ∧
        (operation.needsSession = true → handle.isOpen = false →
          operation.apply host patience handle = operation.refused handle .notOpen)) := by
  constructor
  · have shut : (Handle.withOptions options : Handle σ).isOpen = false := rfl
    rw [runs.isOpen, shut]
    cases (history.filterMap (Call.turn? host patience)).getLast? <;> simp
  · intro operation
    refine ⟨fun fault => apply_of_fault, fun formed => ⟨apply_of_open formed, ?_⟩⟩
    intro needs closed
    exact apply_of_closed formed needs (by simpa [Handle.isOpen] using closed)

/-- A read before the start of the media is refused for its offset on a closed handle, too. -/
theorem damaged_follows_lifecycle :
    let opened := tolerantHandle.startSession "drive" ScriptedDevice.damaged
    let closed := (apply Host.empty 0 opened .close).outcome.state
    apply Host.empty 0 opened (.openPath "drive" "rb") =
        refused opened (.openPath "drive" "rb") .alreadyOpen ∧
      closed.isOpen = false ∧
      apply Host.empty 0 closed (.readAt 4 0) = refused closed (.readAt 4 0) .notOpen ∧
      apply Host.empty 0 closed (.readAt 4 (-1)) =
        refused closed (.readAt 4 (-1)) (.invalidArgument (.negativeOffset (-1))) := by
  intro opened closed
  have opening : Runs Host.empty 0 tolerantHandle _ opened :=
    .cons (.openDevice "drive" ScriptedDevice.damaged) (by rintro ⟨⟩) (.nil _)
  have closing : Runs Host.empty 0 tolerantHandle _ closed :=
    opening.append (.cons .close (by rintro ⟨⟩) (.nil _))
  obtain ⟨isOpen, rejects⟩ := handle_follows_lifecycle opening
  obtain ⟨isClosed, rejectsClosed⟩ := handle_follows_lifecycle closing
  have unopened : closed.isOpen = false := by
    rw [← Bool.not_eq_true, isClosed]
    rintro ⟨⟩
  exact ⟨((rejects (.openPath "drive" "rb")).2 rfl).1 rfl (isOpen.mpr rfl), unopened,
    ((rejectsClosed (.readAt 4 0)).2 rfl).2 rfl unopened, (rejectsClosed (.readAt 4 (-1))).1 _ rfl⟩

end Operation

end StorageMedia
