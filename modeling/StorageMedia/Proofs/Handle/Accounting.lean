import StorageMedia.Proofs.ErrorRanges.Canonical
import StorageMedia.Proofs.Handle.Delivery

/-! # Ranges that a session recorded

The ranges that an open handle has recorded are those that the reads of its session gave up, neither
more nor fewer: a read that fails contributes nothing, and nothing is taken back before the handle is
closed. `Handle.Makes` says which reads an operation makes, and `Operation.History` which reads a
whole session has made.
-/

namespace StorageMedia

variable {σ : Type}

/-- A read into a buffer that is part of an operation, with the handle on which it is made. -/
structure ReadCall (σ : Type) where
  handle : Handle σ
  bytes : Bytes

namespace ReadCall

variable [Device σ] {patience : Nat} {call : ReadCall σ} {byte : Nat}

def read (patience : Nat) (call : ReadCall σ) : BufferRead σ :=
  call.handle.readBuffer patience call.bytes

/-- The read succeeded and reported that it gave up a byte. -/
def GivesUp (patience : Nat) (call : ReadCall σ) (byte : Nat) : Prop :=
  (∃ count, (call.read patience).outcome.result = .ok count) ∧
    ∃ event ∈ (call.read patience).outcome.events, event.GivesUp byte

private theorem exists_readsFrom {count : Nat}
    (succeeded : (call.read patience).outcome.result = .ok count) :
    ∃ byteAt data lost, lost.IsSeparated ∧ data <+: (call.read patience).buffer.toList ∧
      Handle.ReadsFrom byteAt call.handle.cursor call.handle (call.read patience).outcome.state
        (call.read patience).outcome.events lost data := by
  have reads := Handle.readBuffer_readsTo patience call.handle call.bytes
  simp only [read] at succeeded ⊢
  generalize call.handle.readBuffer patience call.bytes = read at reads succeeded ⊢
  cases reads with
  | closed => simp [Outcome.refuse] at succeeded
  | unmeasured => simp at succeeded
  | @outside session =>
    exact ⟨fun _ => 0, [], {}, ErrorRanges.isSeparated_empty, List.nil_prefix,
      Handle.readsFrom_outside _ _ session⟩
  | @transferred session geometry size transfer opened found clamped positive runs =>
    obtain ⟨transfer, result⟩ := transfer
    obtain rfl : result = .ok count := succeeded
    have accounted := Transfer.read_accounted call.handle.options patience session.geometry.state
      (call.handle.resume session.geometry).aborted call.handle.cursor (call.bytes.take size)
      (Handle.clamped_fits clamped positive)
    rw [runs] at accounted
    obtain ⟨byteAt, faithful⟩ := accounted
    obtain ⟨_, readsFrom⟩ := Handle.readsFrom_transferred faithful runs
    refine ⟨byteAt, transfer.buffer.bytes.toList.take count, transfer.skipped, faithful.separated,
      ?_, readsFrom⟩
    rw [Bytes.toList_append]
    exact (List.take_prefix _ _).trans (List.prefix_append _ _)

/-- A byte that a read gave up is zero in its buffer. -/
theorem GivesUp.zeroed (givesUp : call.GivesUp patience byte) :
    call.handle.cursor ≤ byte ∧
      (call.read patience).buffer.toList[byte - call.handle.cursor]? = some 0 := by
  obtain ⟨⟨count, succeeded⟩, reported⟩ := givesUp
  obtain ⟨byteAt, data, lost, _, front, readsFrom⟩ := exists_readsFrom succeeded
  have covered := (readsFrom.reported byte).mpr reported
  obtain ⟨range, member, first, last⟩ := covered
  obtain ⟨low, high⟩ := readsFrom.delivers.inside range member
  have within : byte - call.handle.cursor < data.length := by omega
  refine ⟨Nat.le_trans low first, ?_⟩
  have offset : call.handle.cursor + (byte - call.handle.cursor) = byte := by omega
  have covers : lost.Covers (call.handle.cursor + (byte - call.handle.cursor)) := by
    rw [offset]
    exact ⟨range, member, first, last⟩
  have zero := readsFrom.delivers.zeroed _ within covers
  obtain ⟨rest, whole⟩ := front
  rw [← whole, List.getElem?_append_left within, zero]

/-- A read that fails records nothing. -/
theorem errors_of_failed
    (failed : ∀ count, (call.read patience).outcome.result ≠ .ok count) :
    (call.read patience).outcome.state.errors = call.handle.errors := by
  have reads := Handle.readBuffer_readsTo patience call.handle call.bytes
  simp only [read] at failed ⊢
  generalize call.handle.readBuffer patience call.bytes = read at reads failed ⊢
  cases reads with
  | closed | unmeasured => rfl
  | outside => exact absurd rfl (failed 0)
  | @transferred _ _ _ transfer _ _ _ _ runs =>
    obtain ⟨transfer, result⟩ := transfer
    cases result with
    | ok count => exact absurd rfl (failed count)
    | error | pending => rfl

/-- A read records what it gave up. -/
theorem records (patience : Nat) (call : ReadCall σ)
    (separated : call.handle.errors.IsSeparated) :
    (call.read patience).outcome.state.errors.IsSeparated ∧
      ∀ byte, (call.read patience).outcome.state.errors.Covers byte ↔
        call.handle.errors.Covers byte ∨ call.GivesUp patience byte := by
  cases result : (call.read patience).outcome.result with
  | ok count =>
    obtain ⟨byteAt, data, lost, proper, _, readsFrom⟩ := exists_readsFrom result
    rw [readsFrom.recorded]
    refine ⟨ErrorRanges.isSeparated_merge separated proper, fun byte => ?_⟩
    rw [ErrorRanges.covers_merge separated proper, readsFrom.reported byte]
    simp only [GivesUp, result, Result.ok.injEq, exists_eq', true_and]
  | error | pending =>
    have nothing : ∀ count, (call.read patience).outcome.result ≠ .ok count := by simp [result]
    rw [errors_of_failed nothing]
    refine ⟨separated, fun byte => ?_⟩
    simp [GivesUp, result]

end ReadCall

namespace Handle

/-- Questions are asked and the offset may be moved, but nothing is read. -/
structure Asks (handle : Handle σ) (events : List (Event σ)) (after : Handle σ) : Prop where
  errors : after.errors = handle.errors
  quiet : ∀ event ∈ events, event.isInquiry = true

variable {handle middle after : Handle σ} {events others : List (Event σ)}

namespace Asks

theorem refl (handle : Handle σ) : handle.Asks [] handle := ⟨rfl, by simp⟩

theorem trans (first : handle.Asks events middle) (second : middle.Asks others after) :
    handle.Asks (events ++ others) after where
  errors := second.errors.trans first.errors
  quiet event member := by
    rcases List.mem_append.mp member with before | later
    · exact first.quiet event before
    · exact second.quiet event later

end Asks

variable [Device σ] {patience : Nat} {calls more : List (ReadCall σ)} {α β : Type}

/-- The reads that an operation makes, one after the other, with all of its events. -/
inductive Makes (patience : Nat) :
    Handle σ → List (ReadCall σ) → List (Event σ) → Handle σ → Prop
  | none {handle after : Handle σ} {events : List (Event σ)} (asks : handle.Asks events after) :
      Makes patience handle [] events after
  | call {handle before after : Handle σ} {inquiries events : List (Event σ)}
      {calls : List (ReadCall σ)} (asks : handle.Asks inquiries before) (bytes : Bytes)
      (makes : Makes patience (before.readBuffer patience bytes).outcome.state calls events after) :
      Makes patience handle (⟨before, bytes⟩ :: calls)
        (inquiries ++ ((before.readBuffer patience bytes).outcome.events ++ events)) after

namespace Makes

/-- Questions may come before the reads. -/
theorem after_asks (asks : handle.Asks events middle)
    (makes : Makes patience middle calls others after) :
    Makes patience handle calls (events ++ others) after := by
  cases makes with
  | none more => exact .none (asks.trans more)
  | call more bytes makes =>
    rw [← List.append_assoc]
    exact .call (asks.trans more) bytes makes

/-- Reads go on where others ended. -/
theorem append (first : Makes patience handle calls events middle)
    (second : Makes patience middle more others after) :
    Makes patience handle (calls ++ more) (events ++ others) after := by
  induction first with
  | none asks => exact second.after_asks asks
  | call asks bytes _ ih =>
    rw [List.append_assoc, List.append_assoc]
    exact .call asks bytes (ih second)

theorem single (patience : Nat) (handle : Handle σ) (bytes : Bytes) :
    Makes patience handle [⟨handle, bytes⟩] (handle.readBuffer patience bytes).outcome.events
      (handle.readBuffer patience bytes).outcome.state := by
  have rest : Makes patience (handle.readBuffer patience bytes).outcome.state [] []
      (handle.readBuffer patience bytes).outcome.state := .none (.refl _)
  simpa using Makes.call (.refl handle) bytes rest

/-- What the reads of an operation gave up is what it recorded. -/
theorem records (makes : Makes patience handle calls events after)
    (separated : handle.errors.IsSeparated) :
    after.errors.IsSeparated ∧ ∀ byte, after.errors.Covers byte ↔
      handle.errors.Covers byte ∨ ∃ call ∈ calls, call.GivesUp patience byte := by
  induction makes with
  | none asks =>
    rw [asks.errors]
    exact ⟨separated, by simp⟩
  | @call _ before _ _ _ _ asks bytes _ ih =>
    rw [← asks.errors] at separated ⊢
    obtain ⟨kept, recorded⟩ := ReadCall.records patience ⟨before, bytes⟩ separated
    simp only [ReadCall.read] at kept recorded
    obtain ⟨still, later⟩ := ih kept
    refine ⟨still, fun byte => (later byte).trans ?_⟩
    rw [recorded byte]
    simp only [List.mem_cons, exists_eq_or_imp, or_assoc]

end Makes

/-! ## Operations that ask -/

theorem asks_onSession {run : Session σ → Outcome σ (Session σ) α} (handle : Handle σ)
    (quiet : ∀ session, ∀ event ∈ (run session).events, event.isInquiry = true) :
    handle.Asks (handle.onSession run).events (handle.onSession run).state := by
  cases opened : handle.session with
  | none =>
    rw [onSession_closed opened]
    exact .refl handle
  | some session =>
    simp only [onSession, opened, Outcome.mapState]
    exact ⟨rfl, quiet session⟩

theorem geometry_asks (handle : Handle σ) :
    handle.Asks handle.geometry.events handle.geometry.state :=
  handle.asks_onSession Session.geometry_inquires

theorem mediaSize_asks (handle : Handle σ) :
    handle.Asks handle.mediaSize.events handle.mediaSize.state :=
  handle.geometry_asks

theorem mediaInformation_asks (handle : Handle σ) :
    handle.Asks handle.mediaInformation.events handle.mediaInformation.state :=
  handle.asks_onSession Session.mediaInformation_inquires

theorem tableOfContents_asks (handle : Handle σ) :
    handle.Asks handle.tableOfContents.events handle.tableOfContents.state :=
  handle.asks_onSession Session.tableOfContents_inquires

omit [Device σ] in
theorem asks_andThen {outcome : Outcome σ (Handle σ) α}
    (first : handle.Asks outcome.events outcome.state)
    {rest : α → Handle σ → Outcome σ (Handle σ) β}
    (second : ∀ value (middle : Handle σ),
      middle.Asks (rest value middle).events (rest value middle).state) :
    handle.Asks (outcome.andThen rest).events (outcome.andThen rest).state := by
  simp only [Outcome.andThen]
  split
  · exact first.trans (second ..)
  · exact first
  · exact first

omit [Device σ] in
theorem seekFrom_asks (handle : Handle σ) (base : Nat) (offset : Int) (origin : Origin) :
    handle.Asks (handle.seekFrom base offset origin).events
      (handle.seekFrom base offset origin).state := by
  simp only [seekFrom]
  split
  · exact ⟨rfl, by simp [Outcome.answer]⟩
  · exact .refl handle

theorem seek_asks (handle : Handle σ) (offset : Int) (origin : Origin) :
    handle.Asks (handle.seek offset origin).events (handle.seek offset origin).state := by
  simp only [seek]
  cases origin with
  | start | current =>
    dsimp only
    split
    · exact handle.seekFrom_asks ..
    · exact .refl handle
  | mediaEnd => exact asks_andThen handle.mediaSize_asks fun _ middle => middle.seekFrom_asks ..

theorem seekStart_asks (handle : Handle σ) (offset : Nat) :
    handle.Asks (handle.seekStart offset).events (handle.seekStart offset).state := by
  simp only [seekStart]
  split
  · exact handle.seek_asks ..
  · exact .refl handle

theorem streamSeek_asks (handle : Handle σ) (position : StreamPosition) :
    handle.Asks (handle.streamSeek position).events (handle.streamSeek position).state := by
  cases position with
  | start offset => exact handle.seekStart_asks offset
  | current offset => exact handle.seek_asks offset .current
  | streamEnd offset => exact handle.seek_asks offset .mediaEnd

/-! ## Operations that read -/

theorem makes_andThen {outcome : Outcome σ (Handle σ) α}
    (first : handle.Asks outcome.events outcome.state)
    {rest : α → Handle σ → Outcome σ (Handle σ) β}
    (second : ∀ value middle, ∃ calls, Makes patience middle calls (rest value middle).events
      (rest value middle).state) :
    ∃ calls, Makes patience handle calls (outcome.andThen rest).events
      (outcome.andThen rest).state := by
  simp only [Outcome.andThen]
  split
  · next value _ =>
    obtain ⟨calls, makes⟩ := second value outcome.state
    exact ⟨calls, makes.after_asks first⟩
  · exact ⟨[], .none first⟩
  · exact ⟨[], .none first⟩

theorem readUpTo_makes (patience : Nat) (handle : Handle σ) (size : Nat) :
    ∃ calls, Makes patience handle calls (handle.readUpTo patience size).events
      (handle.readUpTo patience size).state :=
  makes_andThen handle.mediaSize_asks fun _ middle => ⟨_, .single patience middle _⟩

theorem read_makes (patience : Nat) (handle : Handle σ) (size : Int) :
    ∃ calls, Makes patience handle calls (handle.read patience size).events
      (handle.read patience size).state := by
  simp only [read]
  split
  · exact readUpTo_makes ..
  · exact ⟨[], .none (.refl handle)⟩

theorem readAt_makes (patience : Nat) (handle : Handle σ) (size offset : Int) :
    ∃ calls, Makes patience handle calls (handle.readAt patience size offset).events
      (handle.readAt patience size offset).state := by
  simp only [readAt]
  split
  · exact ⟨[], .none (.refl handle)⟩
  · split
    · exact ⟨[], .none (.refl handle)⟩
    · exact makes_andThen (handle.seek_asks ..) fun _ middle => middle.readUpTo_makes ..

theorem readBufferAt_makes (patience : Nat) (handle : Handle σ) (bytes : Bytes) (offset : Nat) :
    ∃ calls, Makes patience handle calls (handle.readBufferAt patience bytes offset).outcome.events
      (handle.readBufferAt patience bytes offset).outcome.state := by
  have asks := handle.seekStart_asks offset
  simp only [readBufferAt]
  split
  · exact ⟨_, (Makes.single patience _ bytes).after_asks asks⟩
  · exact ⟨[], .none asks⟩
  · exact ⟨[], .none asks⟩

private theorem fill_makes {number : Nat} {filling : Filling}
    (before : Makes patience handle calls events middle) :
    ∃ calls, Makes patience handle calls (middle.fill patience number filling events).2.events
      (middle.fill patience number filling events).2.state := by
  induction number generalizing middle calls filling events with
  | zero => exact ⟨_, before⟩
  | succ number ih =>
    have further := before.append (.single patience middle filling.rest)
    rw [fill]
    split
    · exact ⟨_, before⟩
    dsimp only
    split
    · exact ⟨_, further⟩
    · exact ih further
    · split
      · exact ih further
      · exact ⟨_, further⟩
    · exact ⟨_, further⟩

theorem readExact_makes (patience : Nat) (handle : Handle σ) (bytes : Bytes) :
    ∃ calls, Makes patience handle calls (handle.readExact patience bytes).2.events
      (handle.readExact patience bytes).2.state := by
  simp only [readExact]
  exact fill_makes (.none (.refl handle))

end Handle

/-! ## Sessions -/

namespace Handle

/-- The recorded ranges are an exact account of reads: they are in order with a gap between each two
of them, hold bytes of the media only, and hold those that a read which succeeded gave up and filled
with zeros. -/
structure AccountsFor [Device σ] (patience : Nat) (calls : List (ReadCall σ))
    (handle : Handle σ) : Prop where
  apart : handle.errors.toList.Pairwise fun range next => range.offset + range.size < next.offset
  onMedia : ∀ range ∈ handle.errors.toList,
    0 < range.size ∧ range.offset + range.size ≤ handle.knownSize
  covers : ∀ byte, handle.errors.Covers byte ↔ ∃ call ∈ calls, call.GivesUp patience byte
  zeroed : ∀ call ∈ calls, ∀ byte, call.GivesUp patience byte → call.handle.cursor ≤ byte ∧
    (call.read patience).buffer.toList[byte - call.handle.cursor]? = some 0

/-- The recorded ranges neither overlap nor touch, and they lie on the media. -/
structure Recorded (handle : Handle σ) : Prop where
  separated : handle.errors.IsSeparated
  inside : ∀ byte, handle.errors.Covers byte → byte < handle.knownSize

variable [Device σ] {patience : Nat} {handle after : Handle σ} {events : List (Event σ)}

private theorem Recorded.of_errors (recorded : handle.Recorded)
    (step : Step patience handle events after) (errors : after.errors = handle.errors) :
    after.Recorded := by
  refine ⟨errors ▸ recorded.separated, fun byte covered => ?_⟩
  rw [errors] at covered
  exact Nat.lt_of_lt_of_le (recorded.inside byte covered) step.knownSize_le

theorem Step.recorded (step : Step patience handle events after) (recorded : handle.Recorded) :
    after.Recorded := by
  have size := step.knownSize_le
  have unchanged := recorded.of_errors step
  cases step with
  | move | measure | identify | survey => exact unchanged rfl
  | @transfer session geometry bytes opened known positive fits =>
    have onMedia : handle.knownSize = geometry.mediaSize.toNat :=
      knownSize_eq (by simp [knownGeometry, opened, known])
    have spans := (Transfer.read_confined handle.options patience session handle.aborted
      handle.cursor bytes).spans
    have most := geometry.mediaSize.toNat_lt
    obtain ⟨byteAt, faithful⟩ := Transfer.read_accounted handle.options patience session
      handle.aborted handle.cursor bytes (by simp only [maxOffset]; omega)
    generalize Transfer.read handle.options patience session handle.aborted handle.cursor bytes =
      transfer at *
    obtain ⟨transfer, result⟩ := transfer
    cases result with
    | error | pending => exact unchanged rfl
    | ok count =>
      refine ⟨ErrorRanges.isSeparated_merge recorded.separated faithful.separated, ?_⟩
      intro byte covered
      rcases (ErrorRanges.covers_merge recorded.separated faithful.separated).mp covered with
        before | lost
      · exact Nat.lt_of_lt_of_le (recorded.inside byte before) size
      · have last : byte < handle.cursor + transfer.buffer.done := (faithful.inside byte lost).2
        simp only [Transfer.Spans] at spans
        omega

end Handle

namespace Operation

variable [Device σ] {host : Host σ} {patience : Nat} {handle : Handle σ}

open Handle

/-- Every operation in a session is made of reads and questions. -/
theorem apply_makes (host : Host σ) (patience : Nat) {operation : Operation σ}
    (opened : handle.isOpen = true)
    (stays : (operation.apply host patience handle).outcome.state.isOpen = true) :
    ∃ calls, Makes patience handle calls (operation.apply host patience handle).outcome.events
      (operation.apply host patience handle).outcome.state := by
  cases operation with
  | openPath path mode =>
    simp only [apply, Response.of, Handle.openPath, if_pos opened]
    split
    · exact ⟨[], .none (.refl handle)⟩
    · split <;> exact ⟨[], .none (.refl handle)⟩
  | openDevice path device =>
    simp only [apply, Response.of, Handle.openDevice, if_pos opened]
    split <;> exact ⟨[], .none (.refl handle)⟩
  | close =>
    cases session : handle.session with
    | none => simp [Handle.isOpen, session] at opened
    | some => simp [apply, Response.of, Handle.close, session, Handle.isOpen] at stays
  | isOpen | filename | options | numberOfErrors | errorAt | describe =>
    exact ⟨[], .none (.refl handle)⟩
  | setOptions | signalAbort => exact ⟨[], .none ⟨rfl, by simp [apply, Response.look, Outcome.answer]⟩⟩
  | geometry | mediaSize | bytesPerSector | maxTransferSize | numberOfSectors =>
    exact ⟨[], .none handle.geometry_asks⟩
  | mediaInformation | mediaType | busType => exact ⟨[], .none handle.mediaInformation_asks⟩
  | informationValue identifier =>
    simp only [apply, Response.of, Handle.informationValue]
    split
    · exact ⟨[], .none (.refl handle)⟩
    · exact ⟨[], .none handle.mediaInformation_asks⟩
  | numberOfSessions | numberOfTracks => exact ⟨[], .none handle.tableOfContents_asks⟩
  | sessionAt index | trackAt index =>
    simp only [apply, Response.of, Handle.sessionAt, Handle.trackAt, Outcome.map_events,
      Outcome.map_state]
    refine ⟨[], .none (asks_andThen handle.tableOfContents_asks fun contents middle => ?_)⟩
    split <;> exact .refl middle
  | offset =>
    simp only [apply, Response.of, Handle.offset]
    split <;> exact ⟨[], .none (.refl handle)⟩
  | seek distance origin => exact ⟨[], .none (handle.seek_asks distance origin)⟩
  | seekByCode distance code =>
    simp only [apply, Response.of, Handle.seekByCode]
    split
    · exact ⟨[], .none (handle.seek_asks ..)⟩
    · exact ⟨[], .none (.refl handle)⟩
  | read | readDefault => exact handle.read_makes ..
  | readAt size target => exact handle.readAt_makes ..
  | readBuffer bytes | streamRead bytes => exact ⟨_, .single patience handle bytes⟩
  | readBufferAt bytes target => exact handle.readBufferAt_makes ..
  | streamReadExact bytes => exact handle.readExact_makes ..
  | streamSeek | streamRewind | streamPosition => exact ⟨[], .none (handle.streamSeek_asks _)⟩

theorem InSession.recorded {device : σ} (within : InSession host patience device handle) :
    handle.Recorded := by
  refine within.keep ?_ Step.recorded ?_ ?_
  · intro handle path
    exact ⟨ErrorRanges.isSeparated_empty, by simp [startSession, ErrorRanges.Covers]⟩
  · exact fun options recorded => ⟨recorded.separated, recorded.inside⟩
  · exact fun recorded => ⟨recorded.separated, recorded.inside⟩

/-- A closed handle stands at the start and has recorded nothing. -/
theorem Reachable.closed (reached : Reachable host patience handle)
    (closed : handle.session = none) : handle.cursor = 0 ∧ handle.errors = {} := by
  induction reached with
  | fresh => exact ⟨rfl, rfl⟩
  | @step handle operation reached returned ih =>
    have effect := apply_effect host patience handle operation
    generalize (operation.apply host patience handle).outcome.events = events at effect
    generalize (operation.apply host patience handle).outcome.state = after at effect closed ⊢
    cases effect with
    | works steps =>
      cases steps with
      | nil => exact ih closed
      | cons step steps =>
        have opened := steps.keep (fun step _ => step.isOpen) step.isOpen
        simp [Handle.isOpen, closed] at opened
    | opens => simp [startSession] at closed
    | closes => exact ⟨rfl, rfl⟩
    | configures | signals => exact ih closed

/-- The ranges that a reachable handle has recorded are in order and on the media. -/
theorem Reachable.recorded (reached : Reachable host patience handle) : handle.Recorded := by
  cases opened : handle.isOpen with
  | true =>
    obtain ⟨device, within⟩ := reached.inSession opened
    exact within.recorded
  | false =>
    have closed : handle.session = none := by simpa [Handle.isOpen] using opened
    refine ⟨?_, fun byte covered => ?_⟩
    · rw [(reached.closed closed).2]
      exact ErrorRanges.isSeparated_empty
    · rw [(reached.closed closed).2] at covered
      exact absurd covered (ErrorRanges.not_covers_empty byte)

/-- The reads that the operations of a session have made, from the moment it began on. -/
inductive History (host : Host σ) (patience : Nat) : List (ReadCall σ) → Handle σ → Prop
  | opened {handle : Handle σ} {path : String} {device : σ}
      (reached : Reachable host patience handle) (closed : handle.session = none)
      (named : path ≠ "") : History host patience [] (handle.startSession path device)
  | step {handle : Handle σ} {calls more : List (ReadCall σ)} (operation : Operation σ)
      (history : History host patience calls handle)
      (makes : Makes patience handle more (operation.apply host patience handle).outcome.events
        (operation.apply host patience handle).outcome.state)
      (returned : (operation.apply host patience handle).outcome.result ≠ .pending)
      (stays : (operation.apply host patience handle).outcome.state.isOpen = true) :
      History host patience (calls ++ more) (operation.apply host patience handle).outcome.state

theorem History.inSession {calls : List (ReadCall σ)}
    (history : History host patience calls handle) :
    ∃ device, InSession host patience device handle := by
  induction history with
  | opened reached closed named => exact ⟨_, .opened reached closed named⟩
  | step operation _ _ returned stays ih =>
    obtain ⟨device, within⟩ := ih
    exact ⟨device, within.step operation returned stays⟩

/-- Every session has a history. -/
theorem InSession.history {device : σ} (within : InSession host patience device handle) :
    ∃ calls, History host patience calls handle := by
  induction within with
  | opened reached closed named => exact ⟨[], .opened reached closed named⟩
  | step operation within returned stays ih =>
    obtain ⟨calls, history⟩ := ih
    obtain ⟨more, makes⟩ := apply_makes host patience within.isOpen stays
    exact ⟨calls ++ more, history.step operation makes returned stays⟩

private theorem History.covers_iff {calls : List (ReadCall σ)}
    (history : History host patience calls handle) (byte : Nat) :
    handle.errors.Covers byte ↔ ∃ call ∈ calls, call.GivesUp patience byte := by
  induction history with
  | opened => simp [startSession, ErrorRanges.Covers]
  | step operation history makes _ _ ih =>
    obtain ⟨device, within⟩ := history.inSession
    rw [(makes.records within.recorded.separated).2 byte, ih]
    simp only [List.mem_append, or_and_right, exists_or]

private theorem History.accountsFor {calls : List (ReadCall σ)}
    (history : History host patience calls handle) : handle.AccountsFor patience calls where
  apart := by
    obtain ⟨device, within⟩ := history.inSession
    obtain ⟨proper, apart⟩ := within.recorded.separated
    refine apart.imp_of_mem fun first _ before => ?_
    rwa [(proper _ first).stop_eq] at before
  onMedia range member := by
    obtain ⟨device, within⟩ := history.inSession
    have recorded := within.recorded
    exact ⟨(recorded.separated.proper range member).1,
      ErrorRanges.end_le_of_covers_lt recorded.separated recorded.inside range member⟩
  covers := history.covers_iff
  zeroed _ _ _ givesUp := givesUp.zeroed

/-- What a handle has recorded is an exact account of the reads of its session. A closed handle has
recorded nothing. An open one has a history, and whatever reads this consists of, exactly the bytes
that those of them which succeeded gave up and filled with zeros are recorded. No operation takes
back a byte before the handle is closed. -/
theorem errors_account_for_reads (reached : Reachable host patience handle) :
    (handle.isOpen = false → handle.errors = {}) ∧
    (handle.isOpen = true →
      (∃ calls, History host patience calls handle) ∧
      (∀ calls, History host patience calls handle → handle.AccountsFor patience calls) ∧
      ∀ operation : Operation σ,
        (operation.apply host patience handle).outcome.state.isOpen = true →
        ∀ byte, handle.errors.Covers byte →
          (operation.apply host patience handle).outcome.state.errors.Covers byte) := by
  constructor
  · intro closed
    exact (reached.closed (by simpa [Handle.isOpen] using closed)).2
  · intro opened
    obtain ⟨device, within⟩ := reached.inSession opened
    refine ⟨within.history, fun _ history => history.accountsFor, fun operation stays byte covered => ?_⟩
    obtain ⟨calls, makes⟩ := apply_makes host patience opened stays
    exact ((makes.records within.recorded.separated).2 byte).mpr (.inl covered)

/-- A read around damage is the account of what it recorded. -/
theorem damaged_accounts :
    let opened := tolerantHandle.startSession "drive" ScriptedDevice.damaged
    let handle := (apply Host.empty 0 opened (.readBuffer (.replicate 8 0x77))).outcome.state
    handle.errors = ⟨[⟨2, 4⟩]⟩ ∧ handle.AccountsFor 0 [⟨opened, .replicate 8 0x77⟩] := by
  have reached : Reachable Host.empty 0 (tolerantHandle.startSession "drive" .damaged) :=
    .step (.openDevice "drive" ScriptedDevice.damaged) (.fresh _) (by rintro ⟨⟩)
  have accounts := (errors_account_for_reads
    (reached.step (.readBuffer (.replicate 8 0x77)) (by rintro ⟨⟩))).2 rfl
  refine ⟨by decide, accounts.2.1 _ ?_⟩
  exact .step (.readBuffer (.replicate 8 0x77)) (.opened (.fresh _) rfl (by decide)) (.single 0 _ _)
    (by rintro ⟨⟩) rfl

end Operation

end StorageMedia
