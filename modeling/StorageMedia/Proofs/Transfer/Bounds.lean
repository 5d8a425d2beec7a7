import StorageMedia.Proofs.Transfer.Steps

/-! # What a transfer leaves alone

Whatever its device answers, a transfer calls it only for offsets between those at which its buffer
starts and stops: the part that is done and the part that is free always make up the whole buffer,
and the next byte is read into the part that is free. What the session knows of its media besides
the position of the device never changes.
-/

namespace StorageMedia

variable {σ : Type}

/-- The call that an event shows stays within the first `size` bytes of the media, and a read asks
for at least one byte. -/
def Event.Within (size : Nat) : Event σ → Prop
  | read _ offset capacity _ => 0 < capacity ∧ offset + capacity ≤ size
  | seek _ target => target < size
  | _ => True

theorem Event.within_of_isInquiry {event : Event σ} (size : Nat)
    (inquiry : event.isInquiry = true) : event.Within size := by
  cases event with
  | seek => simp [Event.isInquiry] at inquiry
  | read => simp [Event.isInquiry] at inquiry
  | _ => trivial

theorem Event.Within.mono {event : Event σ} {size larger : Nat} (within : event.Within size)
    (le : size ≤ larger) : event.Within larger := by
  cases event with
  | read => exact ⟨within.1, Nat.le_trans within.2 le⟩
  | seek => exact Nat.lt_of_lt_of_le within le
  | _ => trivial

/-- The event may be one of a transfer from `start` to `stop`: a notice, a seek to an offset between
them or a read of everything from such an offset to the end. No device is asked anything during a
transfer. -/
def Event.Pursues (start stop : Nat) : Event σ → Prop
  | query .. => False
  | seek _ target => start ≤ target ∧ target < stop
  | read _ offset capacity _ => start ≤ offset ∧ 0 < capacity ∧ offset + capacity = stop
  | notice _ => True

theorem Event.Pursues.within {event : Event σ} {start stop : Nat}
    (pursues : event.Pursues start stop) : event.Within stop := by
  cases event with
  | seek => exact pursues.2
  | read => exact ⟨pursues.2.1, Nat.le_of_eq pursues.2.2⟩
  | query | notice => trivial

/-- What a session knows for good: its path, its geometry, its media and its contents. -/
def Session.knowledge (session : Session σ) :
    String × Option Geometry × Option MediaInformation × Option TableOfContents :=
  (session.path, session.knownGeometry, session.knownInformation, session.knownContents)

variable [Device σ]

theorem Session.knowledge_moveTo (session : Session σ) (offset : Nat) :
    (session.moveTo offset).state.knowledge = session.knowledge := by
  simp only [moveTo]
  split
  · rfl
  · split <;> rfl

/-- A session calls its device for an offset at most to go there. -/
theorem Session.moveTo_pursues (session : Session σ) {start offset stop : Nat}
    (le : start ≤ offset) (lt : offset < stop) :
    ∀ event ∈ (session.moveTo offset).events, event.Pursues start stop := by
  intro event member
  obtain rfl := eq_seek_of_mem_moveTo member
  exact ⟨le, lt⟩

namespace Transfer

variable {options : Options} {start stop : Nat} {transfer : Transfer σ}

/-- The buffer of the transfer is for the offsets from `start` to `stop`. -/
def Spans (start stop : Nat) (transfer : Transfer σ) : Prop :=
  start + transfer.buffer.done + transfer.buffer.free = stop

omit [Device σ] in
theorem Spans.keep (spans : transfer.Spans start stop) (position count : Nat) :
    (transfer.keep position count).Spans start stop := by
  simp only [Spans, Transfer.keep, Buffer.advance] at spans ⊢
  omega

omit [Device σ] in
theorem Spans.giveUp (spans : transfer.Spans start stop) :
    (transfer.giveUp options start).Spans start stop := by
  simp only [Spans, Transfer.giveUp, Buffer.zero] at spans ⊢
  omega

omit [Device σ] in
theorem Spans.tolerate (spans : transfer.Spans start stop) (error : IoError) :
    (transfer.tolerate options start error).Spans start stop := by
  rcases tolerate_cases options start transfer error with ⟨_, same⟩ | ⟨_, same⟩
  · rw [same]
    exact Spans.giveUp spans
  · rw [same]
    exact spans

/-- Bytes become done and never leave the buffer. -/
theorem Spans.step (spans : transfer.Spans start stop) :
    (transfer.step options start).transfer.Spans start stop := by
  have cases := step_stepsTo options start transfer
  generalize transfer.step options start = outcome at cases ⊢
  have fetched : (transfer.fetched start).Spans start stop := spans
  have lost : (transfer.fetched start).loseTrack.Spans start stop := spans
  cases cases with
  | full => exact spans
  | aborted => exact spans
  | astray => exact spans
  | drained => exact fetched
  | overrun => exact fetched
  | kept => exact fetched.keep _ _
  | interrupted => exact fetched
  | tolerated => exact lost.tolerate _
  | failed => exact fetched

omit [Device σ] in
theorem knowledge_tolerate (error : IoError) :
    (transfer.tolerate options start error).session = transfer.session := by
  simp only [tolerate]
  split <;> rfl

/-- Nothing that a session knows for good changes in a step. -/
theorem knowledge_step :
    (transfer.step options start).transfer.session.knowledge = transfer.session.knowledge := by
  have cases := step_stepsTo options start transfer
  generalize transfer.step options start = outcome at cases ⊢
  have moved := Session.knowledge_moveTo transfer.session (start + transfer.buffer.done)
  cases cases with
  | full => rfl
  | aborted => rfl
  | astray => exact moved
  | drained => exact moved
  | overrun => exact moved
  | kept => exact moved
  | interrupted => exact moved
  | tolerated =>
    simp only [TransferStep.transfer, knowledge_tolerate]
    exact moved
  | failed => exact moved

/-- All calls of the transfer so far were for offsets of its buffer, all reads up to its end. -/
structure Confined (start stop : Nat) (transfer : Transfer σ) : Prop where
  spans : transfer.Spans start stop
  events : ∀ event ∈ transfer.events, event.Pursues start stop

namespace Confined

omit [Device σ] in
/-- A notice is no call. -/
theorem tolerate_events (pursues : ∀ event ∈ transfer.events, event.Pursues start stop)
    (error : IoError) :
    ∀ event ∈ (transfer.tolerate options start error).events, event.Pursues start stop := by
  rcases tolerate_cases options start transfer error with ⟨_, same⟩ | ⟨_, same⟩
  · rw [same]
    rintro event (_ | ⟨_, _ | ⟨_, before⟩⟩)
    · trivial
    · trivial
    · exact pursues event before
  · rw [same]
    rintro event (_ | ⟨_, before⟩)
    · trivial
    · exact pursues event before

theorem brought_events (confined : transfer.Confined start stop) (room : 0 < transfer.buffer.free) :
    ∀ event ∈ (transfer.brought start).events, event.Pursues start stop := by
  have spans := confined.spans
  have inside : start + transfer.buffer.done < stop := by
    simp only [Spans] at spans
    omega
  intro event member
  rcases List.mem_append.mp member with moving | before
  · exact transfer.session.moveTo_pursues (Nat.le_add_right _ _) inside event (List.mem_reverse.mp moving)
  · exact confined.events event before

/-- The read of a step asks for the free part of the buffer. -/
theorem fetched_events (confined : transfer.Confined start stop) {outcome : Except IoError Nat}
    (fetches : transfer.Fetches start outcome) :
    ∀ event ∈ (transfer.fetched start).events, event.Pursues start stop := by
  rintro event (_ | ⟨_, before⟩)
  · exact ⟨Nat.le_add_right _ _, fetches.room, confined.spans⟩
  · exact confined.brought_events fetches.room event before

theorem step (confined : transfer.Confined start stop) :
    (transfer.step options start).transfer.Confined start stop := by
  refine ⟨confined.spans.step, ?_⟩
  have cases := step_stepsTo options start transfer
  generalize transfer.step options start = outcome at cases ⊢
  cases cases with
  | full => exact confined.events
  | aborted =>
    rintro event (_ | ⟨_, before⟩)
    · trivial
    · exact confined.events event before
  | astray room => exact confined.brought_events room
  | drained fetches => exact confined.fetched_events fetches
  | overrun fetches => exact confined.fetched_events fetches
  | kept fetches => exact confined.fetched_events fetches
  | interrupted fetches => exact confined.fetched_events fetches
  | tolerated fetches =>
    have lost : ∀ event ∈ (transfer.fetched start).loseTrack.events, event.Pursues start stop :=
      confined.fetched_events fetches
    exact tolerate_events lost _
  | failed fetches => exact confined.fetched_events fetches

end Confined

/-- A whole transfer calls its device only for offsets of its buffer. -/
theorem read_confined (options : Options) (patience : Nat) (session : Session σ) (aborted : Bool)
    (start : Nat) (bytes : Bytes) :
    (read options patience session aborted start bytes).1.Confined start (start + bytes.size) := by
  have started : ({ session, aborted, buffer := .ofBytes bytes } : Transfer σ).Confined start
      (start + bytes.size) := ⟨rfl, by simp⟩
  exact run_keeps (Confined start (start + bytes.size)) (fun _ => Confined.step) _ started

theorem knowledge_read (options : Options) (patience : Nat) (session : Session σ) (aborted : Bool)
    (start : Nat) (bytes : Bytes) :
    (read options patience session aborted start bytes).1.session.knowledge = session.knowledge :=
  run_keeps (fun transfer => transfer.session.knowledge = session.knowledge)
    (fun _ same => knowledge_step.trans same) _ rfl

/-- A buffer keeps its size through a transfer. -/
theorem size_read (options : Options) (patience : Nat) (session : Session σ) (aborted : Bool)
    (start : Nat) (bytes : Bytes) :
    (read options patience session aborted start bytes).1.buffer.bytes.size = bytes.size := by
  have spans := (read_confined options patience session aborted start bytes).spans
  rw [← Bytes.length_toList, Buffer.length_bytes]
  simp only [Spans] at spans
  omega

/-- A transfer that succeeds says how much of the buffer is done. -/
theorem read_done {options : Options} {patience : Nat} {session : Session σ} {aborted : Bool}
    {start count : Nat} {bytes : Bytes}
    (succeeded : (read options patience session aborted start bytes).2 = .ok count) :
    (read options patience session aborted start bytes).1.buffer.done = count ∧
      count ≤ bytes.size := by
  have done := done_of_run_ok succeeded
  have spans := (read_confined options patience session aborted start bytes).spans
  refine ⟨done, ?_⟩
  simp only [Spans, read] at spans
  omega

end Transfer

end StorageMedia
