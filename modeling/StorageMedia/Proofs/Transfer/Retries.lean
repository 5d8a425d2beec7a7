import StorageMedia.Proofs.Transfer.Delivery

/-! # How often a read is tried before a block is given up

A transfer counts its failed reads and gives up the block of the next byte once there were more of
them than the options allow retries. The count starts over when a block is given up, and only then:
bytes that arrive leave it as it is. So failures at offsets that were read after all are charged to
the first offset that fails later, which may be given up at its first failure.

`Event.Spent` says what led up to a block that was given up, and when all of it happened at one
offset. Events are listed last first here, as a transfer collects them.
-/

namespace StorageMedia

variable {σ : Type}

/-- A device read that was not interrupted. -/
structure Attempt where
  /-- The offset on the media that the read was for. -/
  offset : Nat
  /-- Number of bytes that the device gave, unless the read failed. -/
  given : Option Nat
deriving DecidableEq, Repr

namespace Attempt

def failed (attempt : Attempt) : Bool := attempt.given.isNone

/-- Each attempt, last first, is for the place where the one before it led, and the last one led to
`next`. -/
def Lead : Nat → List Attempt → Prop
  | _, [] => True
  | next, attempt :: rest =>
    next = attempt.offset + attempt.given.getD 0 ∧ Lead attempt.offset rest

/-- An offset had a first try and all of its retries, and every one of them failed: they were the
last attempts of all. -/
def OwnRetries (retries position : Nat) (attempts : List Attempt) : Prop :=
  retries < attempts.length ∧
    ∀ attempt ∈ attempts.take (retries + 1), attempt.offset = position ∧ attempt.failed = true

/-- Failures one after the other happen at one offset. -/
theorem Lead.offset_of_failed {next count : Nat} {attempts : List Attempt}
    (lead : Lead next attempts) (failed : ∀ attempt ∈ attempts.take count, attempt.failed = true) :
    ∀ attempt ∈ attempts.take count, attempt.offset = next := by
  induction attempts generalizing next count with
  | nil => simp
  | cons first rest ih =>
    cases count with
    | zero => simp
    | succ count =>
      rw [List.take_succ_cons, List.forall_mem_cons] at failed ⊢
      obtain ⟨same, lead⟩ := lead
      have nothing : first.given = none := Option.isNone_iff_eq_none.mp failed.1
      rw [nothing, Option.getD_none, Nat.add_zero] at same
      subst same
      exact ⟨rfl, ih lead failed.2⟩

/-- The last attempts were all for one offset unless one of them gave bytes. -/
theorem ownRetries_iff {retries position : Nat} {recent earlier : List Attempt}
    (lead : Lead position recent) (enough : retries < recent.length) :
    OwnRetries retries position (recent ++ earlier) ↔
      ∀ attempt ∈ (recent ++ earlier).take (retries + 1), attempt.failed = true := by
  have many : retries < (recent ++ earlier).length := by
    rw [List.length_append]
    omega
  have front : (recent ++ earlier).take (retries + 1) = recent.take (retries + 1) :=
    List.take_append_of_le_length enough
  rw [OwnRetries, front]
  constructor
  · rintro ⟨_, own⟩ attempt member
    exact (own attempt member).2
  · intro failed
    refine ⟨many, fun attempt member => ⟨?_, failed attempt member⟩⟩
    exact lead.offset_of_failed failed attempt member

end Attempt

namespace Event

def attempt? : Event σ → Option Attempt
  | read _ offset _ (.ok count) => some ⟨offset, some count⟩
  | read _ offset _ (.error error) => if error.isInterrupted then none else some ⟨offset, none⟩
  | _ => none

def isSkip : Event σ → Bool
  | notice (.skipped ..) => true
  | _ => false

def attempts (events : List (Event σ)) : List Attempt := events.filterMap attempt?

/-- The attempts since a block was given up, or since the first event. -/
def recent (events : List (Event σ)) : List Attempt :=
  attempts (events.takeWhile fun event => !event.isSkip)

/-- The event neither is an attempt nor gives up a block. -/
def IsAside (event : Event σ) : Prop := event.attempt? = none ∧ event.isSkip = false

variable {event : Event σ} {events asides : List (Event σ)}

theorem IsAside.of_isInquiry (inquiry : event.isInquiry = true) : event.IsAside := by
  cases event with
  | read => simp [isInquiry] at inquiry
  | query | seek => exact ⟨rfl, rfl⟩
  | notice fact => cases fact <;> simp_all [isInquiry, Notice.isOfTransfer, IsAside, attempt?, isSkip]

theorem attempts_cons (event : Event σ) (events : List (Event σ)) :
    attempts (event :: events) = event.attempt?.toList ++ attempts events := by
  rw [attempts, List.filterMap_cons]
  cases event.attempt? <;> rfl

theorem recent_cons (quiet : event.isSkip = false) :
    recent (event :: events) = event.attempt?.toList ++ recent events := by
  rw [recent, List.takeWhile_cons_of_pos (by rw [quiet]; rfl), attempts_cons]
  rfl

theorem attempts_of_asides (aside : ∀ event ∈ asides, event.IsAside) : attempts asides = [] :=
  List.filterMap_eq_nil_iff.mpr fun event member => (aside event member).1

theorem attempts_append_of_asides (events : List (Event σ))
    (aside : ∀ event ∈ asides, event.IsAside) :
    attempts (asides ++ events) = attempts events ∧
      attempts (events ++ asides) = attempts events := by
  have none : asides.filterMap attempt? = [] := attempts_of_asides aside
  simp [attempts, List.filterMap_append, none]

theorem attempts_reverse (events : List (Event σ)) :
    attempts events.reverse = (attempts events).reverse :=
  List.filterMap_reverse

theorem recent_append_of_asides (events : List (Event σ))
    (aside : ∀ event ∈ asides, event.IsAside) :
    recent (asides ++ events) = recent events ∧ recent (events ++ asides) = recent events := by
  have quiet : ∀ event ∈ asides, (!event.isSkip) = true :=
    fun event member => by rw [(aside event member).2]; rfl
  constructor
  · rw [recent, List.takeWhile_append_of_pos quiet]
    exact (attempts_append_of_asides _ aside).1
  · rw [recent, List.takeWhile_append]
    split
    · next whole =>
      have same := (List.takeWhile_prefix _).eq_of_length whole
      have front : ∀ event ∈ asides.takeWhile (fun event => !event.isSkip), event.IsAside :=
        fun event member => aside event ((List.takeWhile_prefix _).subset member)
      rw [(attempts_append_of_asides _ front).2, recent, same]
    · rfl

theorem recent_cons_of_isSkip (skip : event.isSkip = true) : recent (event :: events) = [] := by
  simp [recent, attempts, skip]

/-- All attempts begin with the recent ones. -/
theorem exists_earlier (events : List (Event σ)) :
    ∃ earlier, attempts events = recent events ++ earlier := by
  refine ⟨attempts (events.dropWhile fun event => !event.isSkip), ?_⟩
  rw [recent, attempts, attempts, attempts, ← List.filterMap_append, List.takeWhile_append_dropWhile]

/-- What came, last first, before the block of an offset was given up: a failed read at the offset,
and since the block before that as many failed reads as the options allow tries. They all were
tries of the offset unless a read among them gave bytes. -/
structure Spent (retries position : Nat) (events : List (Event σ)) : Prop where
  last : (attempts events).head? = some ⟨position, none⟩
  failures : (recent events).countP Attempt.failed = retries + 1
  own : Attempt.OwnRetries retries position (attempts events) ↔
    ∀ attempt ∈ (attempts events).take (retries + 1), attempt.failed = true

theorem Spent.append_asides {retries position : Nat} (spent : Spent retries position events)
    (aside : ∀ event ∈ asides, event.IsAside) : Spent retries position (events ++ asides) := by
  obtain ⟨last, failures, own⟩ := spent
  have same := (attempts_append_of_asides events aside).2
  constructor
  · rw [same, last]
  · rw [(recent_append_of_asides events aside).2, failures]
  · rw [same, own]

/-- Whenever a block was given up, as many reads had failed before as that takes. -/
def AllSpent (retries : Nat) (events : List (Event σ)) : Prop :=
  ∀ later zeroed zeroStart distance earlier,
    events = later ++ .notice (.skipped zeroed zeroStart distance) :: earlier →
      Spent retries (zeroStart + zeroed - distance) earlier

namespace AllSpent

variable {retries : Nat}

theorem nil (retries : Nat) : AllSpent retries ([] : List (Event σ)) := by
  intro later zeroed zeroStart distance earlier same
  simp at same

theorem cons (all : AllSpent retries events) (quiet : event.isSkip = false) :
    AllSpent retries (event :: events) := by
  intro later zeroed zeroStart distance earlier same
  cases later with
  | nil =>
    obtain ⟨rfl, _⟩ := List.cons.inj same
    simp [isSkip] at quiet
  | cons _ later => exact all later zeroed zeroStart distance earlier (List.cons.inj same).2

theorem append (all : AllSpent retries events) (quiet : ∀ event ∈ asides, event.isSkip = false) :
    AllSpent retries (asides ++ events) := by
  induction asides with
  | nil => exact all
  | cons event asides ih =>
    rw [List.forall_mem_cons] at quiet
    exact (ih quiet.2).cons quiet.1

theorem cons_skip {zeroed zeroStart distance : Nat} (all : AllSpent retries events)
    (spent : Spent retries (zeroStart + zeroed - distance) events) :
    AllSpent retries (.notice (.skipped zeroed zeroStart distance) :: events) := by
  intro later _ _ _ earlier same
  cases later with
  | nil =>
    obtain ⟨skipped, rfl⟩ := List.cons.inj same
    cases skipped
    exact spent
  | cons _ later => exact all later _ _ _ earlier (List.cons.inj same).2

/-- Questions that were asked before change nothing. -/
theorem append_asides (all : AllSpent retries events) (aside : ∀ event ∈ asides, event.IsAside) :
    AllSpent retries (events ++ asides) := by
  intro later zeroed zeroStart distance earlier same
  rcases List.append_eq_append_iff.mp same with ⟨middle, _, rest⟩ | ⟨middle, front, rest⟩
  · have member : Event.notice (.skipped zeroed zeroStart distance) ∈ asides := by simp [rest]
    have quiet := (aside _ member).2
    simp [isSkip] at quiet
  · cases middle with
    | nil =>
      have member : Event.notice (.skipped zeroed zeroStart distance) ∈ asides := by
        rw [List.nil_append] at rest
        simp [← rest]
      have quiet := (aside _ member).2
      simp [isSkip] at quiet
    | cons _ middle =>
      obtain ⟨rfl, rfl⟩ := List.cons.inj rest
      exact (all later zeroed zeroStart distance middle front).append_asides aside

/-- The same of events in the order in which they happened. -/
theorem take_reverse {index zeroed zeroStart distance : Nat} (all : AllSpent retries events.reverse)
    (given : events[index]? = some (.notice (.skipped zeroed zeroStart distance))) :
    Spent retries (zeroStart + zeroed - distance) (events.take index).reverse := by
  obtain ⟨bound, here⟩ := List.getElem?_eq_some_iff.mp given
  have cut : events = events.take index ++
      .notice (.skipped zeroed zeroStart distance) :: events.drop (index + 1) := by
    rw [← here, ← List.drop_eq_getElem_cons bound, List.take_append_drop]
  refine all (events.drop (index + 1)).reverse zeroed zeroStart distance _ ?_
  conv => lhs; rw [cut]
  simp

end AllSpent

end Event

namespace Transfer

open Event

variable {options : Options} {start stop : Nat} {transfer : Transfer σ}

/-- A transfer on its way has counted the failures since it gave up a block, and each of its recent
reads began where the one before it ended. -/
structure Tries (options : Options) (start stop : Nat) (transfer : Transfer σ) : Prop where
  spans : transfer.Spans start stop
  left : transfer.failures ≤ options.errorRetries.toNat
  counted : (recent transfer.events).countP Attempt.failed = transfer.failures
  lead : Attempt.Lead (start + transfer.buffer.done) (recent transfer.events)

namespace Tries

theorem begins (options : Options) (session : Session σ) (aborted : Bool) (start : Nat)
    (bytes : Bytes) :
    Tries options start (start + bytes.size) { session, aborted, buffer := .ofBytes bytes } where
  spans := rfl
  left := Nat.zero_le _
  counted := rfl
  lead := trivial

variable [Device σ]

/-- On the way to its device read a step neither tries nor gives up anything. -/
theorem asides (transfer : Transfer σ) (start : Nat) :
    ∀ event ∈ (transfer.session.moveTo (start + transfer.buffer.done)).events.reverse,
      event.IsAside := by
  intro event member
  obtain rfl := Session.eq_seek_of_mem_moveTo (List.mem_reverse.mp member)
  exact ⟨rfl, rfl⟩

/-- The device read of a step is its only attempt, unless it was interrupted. -/
theorem fetched_attempts {outcome : Except IoError Nat}
    (fetches : transfer.Fetches start outcome) :
    ∃ read : Event σ, read = .read (transfer.brought start).session.device
        (start + transfer.buffer.done) transfer.buffer.free outcome ∧
      attempts (transfer.fetched start).events =
        read.attempt?.toList ++ attempts transfer.events ∧
      recent (transfer.fetched start).events = read.attempt?.toList ++ recent transfer.events := by
  refine ⟨_, rfl, ?_⟩
  have aside := asides transfer start
  have attempted := (attempts_append_of_asides transfer.events aside).1
  have retried := (recent_append_of_asides transfer.events aside).1
  rw [fetches.events_fetched, ← attempted, ← retried]
  exact ⟨attempts_cons _ _, recent_cons rfl⟩

private theorem keeps (tries : transfer.Tries options start stop) {count : Nat}
    (fetches : transfer.Fetches start (.ok count)) (fits : count ≤ transfer.buffer.free) :
    ((transfer.fetched start).keep (start + transfer.buffer.done) count).Tries options start
      stop := by
  obtain ⟨_, rfl, _, recent⟩ := fetched_attempts fetches
  have fetched : (transfer.fetched start).Spans start stop := tries.spans
  have done : ((transfer.fetched start).keep (start + transfer.buffer.done) count).buffer.done =
      transfer.buffer.done + count := by
    simp only [Transfer.keep, Buffer.advance, done_fetched, free_fetched]
    omega
  have events : Event.recent ((transfer.fetched start).keep (start + transfer.buffer.done)
      count).events = ⟨start + transfer.buffer.done, some count⟩ :: Event.recent transfer.events :=
    recent
  refine ⟨fetched.keep _ _, tries.left, ?_, ?_⟩
  · rw [events, List.countP_cons_of_neg (by simp [Attempt.failed]), tries.counted]
    rfl
  · rw [events, done, ← Nat.add_assoc]
    exact ⟨rfl, tries.lead⟩

private theorem interrupted (tries : transfer.Tries options start stop) {error : IoError}
    (fetches : transfer.Fetches start (.error error)) (interrupted : error.isInterrupted = true) :
    (transfer.fetched start).loseTrack.Tries options start stop := by
  obtain ⟨_, rfl, _, recent⟩ := fetched_attempts fetches
  have same : Event.recent (transfer.fetched start).events = Event.recent transfer.events := by
    simpa [attempt?, interrupted] using recent
  refine ⟨tries.spans, tries.left, ?_, ?_⟩
  · exact (congrArg (List.countP Attempt.failed) same).trans tries.counted
  · exact (congrArg (Attempt.Lead _) same).mpr tries.lead

private theorem noted (fact : Notice) (aside : (Event.notice fact : Event σ).IsAside)
    {error : IoError} (fetches : transfer.Fetches start (.error error))
    (counted : error.isInterrupted = false) :
    attempts (.notice fact :: (transfer.fetched start).events) =
        ⟨start + transfer.buffer.done, none⟩ :: attempts transfer.events ∧
      recent (.notice fact :: (transfer.fetched start).events) =
        ⟨start + transfer.buffer.done, none⟩ :: recent transfer.events := by
  obtain ⟨_, rfl, attempted, retried⟩ := fetched_attempts fetches
  rw [attempts_cons, recent_cons aside.2, attempted, retried, aside.1]
  simp [attempt?, counted]

omit [Device σ] in
private theorem spent (tries : transfer.Tries options start stop)
    (usedUp : options.errorRetries.toNat < transfer.failures + 1) {events : List (Event σ)}
    (attempted : attempts events =
      ⟨start + transfer.buffer.done, none⟩ :: attempts transfer.events)
    (retried : recent events = ⟨start + transfer.buffer.done, none⟩ :: recent transfer.events) :
    Spent options.errorRetries.toNat (start + transfer.buffer.done) events := by
  have left := tries.left
  have failures : (recent events).countP Attempt.failed = options.errorRetries.toNat + 1 := by
    rw [retried, List.countP_cons_of_pos rfl, tries.counted]
    omega
  have enough : (recent events).countP Attempt.failed ≤ (recent events).length :=
    List.countP_le_length
  have lead : Attempt.Lead (start + transfer.buffer.done) (recent events) := by
    rw [retried]
    exact ⟨rfl, tries.lead⟩
  obtain ⟨earlier, whole⟩ := exists_earlier events
  refine ⟨by rw [attempted]; rfl, failures, ?_⟩
  rw [whole]
  exact Attempt.ownRetries_iff lead (by omega)

private theorem tolerates (tries : transfer.Tries options start stop) (fits : stop ≤ maxOffset)
    {error : IoError} (fetches : transfer.Fetches start (.error error))
    (counted : error.isInterrupted = false)
    (all : AllSpent options.errorRetries.toNat (transfer.fetched start).events) :
    ((transfer.fetched start).loseTrack.tolerate options start error).Tries options start stop ∧
      AllSpent options.errorRetries.toNat
        ((transfer.fetched start).loseTrack.tolerate options start error).events := by
  have aside : (Event.notice (.readFailed (transfer.failures + 1) (start + transfer.buffer.done)
      error) : Event σ).IsAside := ⟨rfl, rfl⟩
  obtain ⟨attempted, retried⟩ := noted _ aside fetches counted
  have noted := all.cons aside.2
  rcases tolerate_cases options start (transfer.fetched start).loseTrack error with
    ⟨usedUp, same⟩ | ⟨left, same⟩
  · have spent := tries.spent usedUp attempted retried
    have room := fetches.room
    have spans := tries.spans
    have bounds := options.loss_bounds (Nat.le_add_right start transfer.buffer.done)
      (Nat.lt_add_of_pos_right room) (Nat.le_trans (Nat.le_of_eq spans) fits)
    rw [same]
    refine ⟨⟨Spans.giveUp spans, Nat.zero_le _, ?_, ?_⟩, noted.cons_skip ?_⟩
    · exact congrArg (List.countP Attempt.failed) (recent_cons_of_isSkip rfl)
    · exact (congrArg (Attempt.Lead _) (recent_cons_of_isSkip rfl)).mpr trivial
    · -- The notice tells where the block begins and ends and how much of it lies ahead.
      have position (loss : Loss) (first : loss.start ≤ start + transfer.buffer.done)
          (last : start + transfer.buffer.done < loss.stop) :
          loss.start + (loss.stop - loss.start) - (loss.stop - (start + transfer.buffer.done)) =
            start + transfer.buffer.done := by
        omega
      exact (position _ bounds.2.1 bounds.2.2.1).symm ▸ spent
  · rw [same]
    refine ⟨⟨tries.spans, left, ?_, ?_⟩, noted⟩
    · refine (congrArg (List.countP Attempt.failed) retried).trans ?_
      rw [List.countP_cons_of_pos rfl, tries.counted]
      rfl
    · refine (congrArg (Attempt.Lead _) retried).mpr ?_
      exact ⟨rfl, tries.lead⟩

private theorem allSpent_fetched (all : AllSpent options.errorRetries.toNat transfer.events) :
    AllSpent options.errorRetries.toNat (transfer.fetched start).events :=
  (all.append fun event member => (asides transfer start event member).2).cons rfl

/-- Before every block that a step gives up its tries are spent, and while the transfer goes on the
count is right. -/
theorem step (tries : transfer.Tries options start stop) (fits : stop ≤ maxOffset)
    (all : AllSpent options.errorRetries.toNat transfer.events) :
    AllSpent options.errorRetries.toNat (transfer.step options start).transfer.events ∧
      ∀ next, transfer.step options start = .more next → next.Tries options start stop := by
  have fetched : AllSpent _ (transfer.fetched start).events := allSpent_fetched all
  have cases := step_stepsTo options start transfer
  generalize transfer.step options start = outcome at cases ⊢
  cases cases with
  | full => exact ⟨all, by simp⟩
  | aborted => exact ⟨all.cons rfl, by simp⟩
  | astray =>
    exact ⟨all.append fun event member => (asides transfer start event member).2, by simp⟩
  | drained => exact ⟨fetched, by simp⟩
  | overrun => exact ⟨fetched, by simp⟩
  | failed => exact ⟨fetched, by simp⟩
  | kept fetches _ fits =>
    refine ⟨fetched, ?_⟩
    rintro _ ⟨⟩
    exact tries.keeps fetches fits
  | interrupted fetches interrupted =>
    refine ⟨fetched, ?_⟩
    rintro _ ⟨⟩
    exact tries.interrupted fetches interrupted
  | tolerated fetches counted =>
    obtain ⟨next, spent⟩ := tries.tolerates fits fetches counted fetched
    refine ⟨spent, ?_⟩
    rintro _ ⟨⟩
    exact next

theorem run (fits : stop ≤ maxOffset) (count : Nat) {transfer : Transfer σ}
    (tries : transfer.Tries options start stop)
    (all : AllSpent options.errorRetries.toNat transfer.events) :
    AllSpent options.errorRetries.toNat (transfer.run options start count).1.events := by
  induction count generalizing transfer with
  | zero => exact all
  | succ count ih =>
    obtain ⟨spent, onward⟩ := tries.step fits all
    rw [Transfer.run]
    split
    · next more =>
      rw [more] at spent
      exact ih (onward _ more) spent
    · next ended =>
      rw [ended] at spent
      exact spent

end Tries

/-- Before every block that a transfer gives up its tries are spent. -/
theorem read_allSpent [Device σ] (options : Options) (patience : Nat) (session : Session σ)
    (aborted : Bool) (start : Nat) (bytes : Bytes) (fits : start + bytes.size ≤ maxOffset) :
    AllSpent options.errorRetries.toNat
      (read options patience session aborted start bytes).1.events :=
  (Tries.begins options session aborted start bytes).run fits _ (.nil _)

end Transfer

end StorageMedia
