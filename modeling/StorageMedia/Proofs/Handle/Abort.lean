import StorageMedia.Handle.Console
import StorageMedia.Proofs.Handle.Atomicity
import StorageMedia.Proofs.Handle.Requests
import StorageMedia.Proofs.Handle.Signal

/-! # Reads that are aborted

While the abort signal of a handle is raised, every read of bytes on the media fails as aborted. A
read during which it is raised ends with the call of the device that raised it or, if that was a
seek, with the device read that the seek precedes. This holds for every handle of a console and for
every signal that was taken from the handle, however often it was closed and opened in between.
-/

namespace StorageMedia

variable {σ : Type} [Device σ]

namespace Handle

variable {patience : Nat} {handle : Handle σ} {events : List (Event σ)} {bytes : Bytes}
  {geometry : Geometry}

/-- A read of bytes on the media fails at once if the signal is raised when it knows the geometry,
and tells of nothing else than that. -/
theorem ReadsMeasured.aborted {session : Session σ} {read : BufferRead σ}
    (reads : ReadsMeasured patience handle session geometry bytes read)
    (raised : (handle.resume session.geometry).aborted = true)
    (positive : 0 < handle.clampedSize geometry.mediaSize bytes.size) :
    read.outcome.result = .error .aborted ∧
      read.outcome.events = session.geometry.events ++ [.notice (.aborted handle.cursor)] := by
  cases reads with
  | outside none => exact absurd none (Nat.ne_of_gt positive)
  | transferred clamped some runs =>
    rw [← (clamped_bounds clamped some).1] at some
    rw [raised, Transfer.read_of_raised _ _ _ _ some] at runs
    subst runs
    exact ⟨rfl, rfl⟩

/-- A read of bytes on the media fails at once while the signal is raised. -/
theorem readBuffer_refused (found : handle.geometry.result = .ok geometry) (patience : Nat)
    (raised : handle.aborted = true)
    (positive : 0 < handle.clampedSize geometry.mediaSize bytes.size) :
    (handle.readBuffer patience bytes).outcome.result = .error .aborted := by
  obtain ⟨session, _, _, reads⟩ := readBuffer_readsMeasured found patience bytes
  exact (reads.aborted (by simp [resume, raised]) positive).1

/-- How filling a whole buffer may end after one of its reads has ended: it fails as that read did,
or the bytes that the read gave were the last ones, or the next read is aborted. -/
inductive Finishes : Result Nat → Result Unit → Prop
  | failed (cause : Error) : Finishes (.error cause) (.error cause)
  | full (count : Nat) : Finishes (.ok count) (.ok ())
  | unfilled (count : Nat) :
      Finishes (.ok count) (.error (.platform .fillingBuffer .unfilledBuffer))
  | aborted (inner : Result Nat) : Finishes inner (.error .aborted)

variable {calls : Nat} {filling : Filling}

end Handle

namespace Operation

variable {host : Host σ} {patience : Nat} {handle : Handle σ} {operation : Operation σ}

/-- How an operation keeps to the abort signal of the handle that it works on. -/
structure Heeds (patience : Nat) (handle : Handle σ) (operation : Operation σ)
    (response : Response σ) : Prop where
  /-- Beginning a session takes the signal back, and calls no device. -/
  begun : operation.Begins response → response.outcome.state.aborted = false ∧
    ∀ event ∈ response.outcome.events, event.isCall = false
  signalled : operation = .signalAbort → response.outcome.state.aborted = true ∧
    response.outcome.events = []
  /-- Everything else leaves the signal to the calls of the device, which end where it is raised,
  or with the device read that follows when it is raised in a seek that succeeds. -/
  heeded : ¬ operation.Begins response → operation ≠ .signalAbort →
    HeedsAbort handle.aborted response.outcome.state.aborted response.outcome.events
  /-- A read of bytes on the media fails at once while the signal is raised. It leaves the recorded
  ranges, and leaves the handle at the offset that the read was to start from. -/
  refused : handle.aborted = true → ∀ start size geometry, operation.Requests handle start size →
    handle.geometry.result = .ok geometry → 0 < min (geometry.mediaSize.toNat - start) size →
    response.outcome.result = .error .aborted ∧
      response.outcome.state.errors = handle.errors ∧ response.outcome.state.cursor = start
  /-- A read ends with the call during which the signal was raised, or with the device read that
  this call precedes. -/
  ends : ∀ start size geometry, operation.Requests handle start size →
    (∀ bytes, operation ≠ .streamReadExact bytes) → handle.geometry.result = .ok geometry →
    response.outcome.result ≠ .pending →
    ∀ event ∈ response.outcome.events, event.Raises →
      Transfer.EndsAfter handle.options start (min (geometry.mediaSize.toNat - start) size) event
        (response.outcome.result.map Value.amount)
  /-- A read that goes on until its buffer is full ends as the last of its reads allows. -/
  finishes : ∀ bytes geometry, operation = .streamReadExact bytes →
    handle.geometry.result = .ok geometry → response.outcome.result ≠ .pending →
    ∀ event ∈ response.outcome.events, event.Raises →
      ∃ start size inner, Transfer.EndsAfter handle.options start size event inner ∧
        Handle.Finishes inner (response.outcome.result.map fun _ => ())
  /-- Nothing else makes an operation fail as aborted. -/
  blamed : response.outcome.result = .error .aborted → response.outcome.state.aborted = true

private theorem Requests.refused {start size : Nat} {geometry : Geometry}
    (requests : Requests handle operation start size)
    (found : handle.geometry.result = .ok geometry)
    (raised : handle.aborted = true) (positive : 0 < min (geometry.mediaSize.toNat - start) size) :
    (operation.apply host patience handle).outcome.result = .error .aborted ∧
      (operation.apply host patience handle).outcome.state.errors = handle.errors ∧
      (operation.apply host patience handle).outcome.state.cursor = start := by
  by_cases once : ∀ bytes, operation ≠ .streamReadExact bytes
  · obtain ⟨before, bytes, performs⟩ := requests.performs once found host patience
    obtain ⟨_, _, signalled, _⟩ := performs.events
    have refused := Handle.readBuffer_refused performs.geometry patience
      (by simp [signalled, raised]) (performs.clamped ▸ positive)
    have withstands := (Handle.readBuffer_atomic patience before bytes).withstands _ refused
    rw [performs.state, withstands.errors, withstands.cursor]
    refine ⟨?_, performs.errors, performs.cursor⟩
    have result := performs.result
    rw [refused] at result
    cases failed : (operation.apply host patience handle).outcome.result <;>
      simp_all [Result.map]
  · cases requests with
    | streamReadExact bytes =>
      have refused := Handle.readBuffer_refused found patience raised positive
      have withstands := (Handle.readBuffer_atomic patience handle bytes).withstands _ refused
      have room : bytes.size ≠ 0 := by omega
      simp only [apply, Handle.readExact, Handle.fill, if_neg room, refused]
      exact ⟨rfl, withstands.errors, withstands.cursor⟩
    | _ => exact absurd (fun _ => by rintro ⟨⟩) once

end Operation

/-- A command that was answered so opened the handle of the console. -/
def Command.Begins (response : Response σ) : Command σ → Prop
  | perform operation => operation.Begins response
  | replace _ => response.outcome.result = .ok .unit
  | _ => False

/-- A command that was answered so replaced the handle of the console. -/
def Command.Replaces (response : Response σ) : Command σ → Prop
  | replace _ => response.outcome.result = .ok .unit
  | _ => False

instance : Device RacedDevice where
  read device capacity := { device, stored := .replicate capacity 0, result := .ok capacity }
  seek device target := (device, .ok target)
  mediaSize device := (device, .ok (some 4))
  seekEnd device := (device, .ok 4)
  signalsInSeek _ _ := true

namespace Console

variable {host : Host σ} {patience : Nat} {console after : Console σ} {name : String}

/-- Commands that a console ran one after the other, each with its response. -/
inductive Runs (host : Host σ) (patience : Nat) :
    Console σ → List (Command σ × Response σ) → Console σ → Prop
  | nil (console : Console σ) : Runs host patience console [] console
  | cons {console after : Console σ} {history : List (Command σ × Response σ)}
      (command : Command σ)
      (runs : Runs host patience (console.run host patience command).2 history after) :
      Runs host patience console ((command, (console.run host patience command).1) :: history) after

omit [Device σ] in
/-- The named signal was taken from the handle that the console has now. -/
def Holds (console : Console σ) (name : String) : Prop :=
  console.signals.lookup name = some console.retired.length

omit [Device σ] in
/-- A signal that was taken from a handle is that of the handle. -/
theorem Holds.signal (holds : console.Holds name) :
    console.signal? name = some console.handle.aborted ∧
      (console.raise name).handle = console.handle.signalAbort := by
  simp only [Holds] at holds
  simp [signal?, raise, holds]

omit [Device σ] in
private theorem raise_frame (console : Console σ) (name : String) :
    (console.raise name).signals = console.signals ∧
      (console.raise name).retired.length = console.retired.length ∧
      ((console.raise name).handle = console.handle ∨
        (console.raise name).handle = console.handle.signalAbort) := by
  simp only [raise]
  split
  · exact ⟨rfl, rfl, .inl rfl⟩
  · split
    · exact ⟨rfl, List.length_set .., .inl rfl⟩
    · exact ⟨rfl, rfl, .inr rfl⟩

private theorem run_replace {path : String}
    (kept : ¬ (Command.replace path).Replaces (console.run host patience (.replace path)).1) :
    (console.run host patience (.replace path)).2 = console := by
  cases result : ((Handle.withOptions {} : Handle σ).openPath host path "r").result with
  | ok => simp [Command.Replaces, run, result, Response.of, Outcome.map, Result.map] at kept
  | error | pending => simp [run, result]

private theorem Holds.run (holds : console.Holds name) {command : Command σ}
    (kept : ¬ command.Replaces (console.run host patience command).1) :
    (console.run host patience command).2.Holds name := by
  cases command with
  | perform => exact holds
  | replace path => rwa [run_replace kept]
  | takeSignal other =>
    simp only [Holds, Console.run, List.lookup_cons] at holds ⊢
    split
    · rfl
    · exact holds
  | raiseSignal other =>
    obtain ⟨signals, retired, _⟩ := console.raise_frame other
    simp only [Holds, Console.run, signals, retired] at holds ⊢
    exact holds
  | readSignal | setVerbose | isVerbose => exact holds

private theorem run_heeds (raised : console.handle.aborted = true) {command : Command σ}
    (kept : ¬ command.Begins (console.run host patience command).1) :
    (console.run host patience command).2.handle.aborted = true ∧
      ∀ event ∈ (console.run host patience command).1.outcome.events, event.isCall = false := by
  have looks (handle : Handle σ) (value : Value) :
      ∀ event ∈ (Response.look handle value).outcome.events, event.isCall = false := by
    simp [Response.look, Outcome.answer]
  cases command with
  | perform operation =>
    by_cases signals : operation = .signalAbort
    · subst signals
      exact ⟨rfl, looks _ _⟩
    · have heeds := Operation.apply_heedsAbort kept signals
      exact ⟨heeds.raised.mpr (.inl raised), heeds.idle raised⟩
  | replace path =>
    refine ⟨by rwa [run_replace kept], ?_⟩
    have opening : (Operation.openPath path "r" : Operation σ).isOpening = true := rfl
    have quiet := Operation.opening_calls_nothing host patience (.withOptions {}) opening
    simp only [run]
    split <;> exact quiet
  | raiseSignal name =>
    refine ⟨?_, looks _ _⟩
    obtain ⟨_, _, same | signalled⟩ := console.raise_frame name
    · simpa [run, same] using raised
    · simp [run, signalled, Handle.signalAbort]
  | takeSignal | readSignal | setVerbose | isVerbose => exact ⟨raised, looks _ _⟩

namespace Runs

variable {history : List (Command σ × Response σ)}

private theorem holds (runs : Runs host patience console history after)
    (kept : ∀ entry ∈ history, ¬ entry.1.Replaces entry.2) (holds : console.Holds name) :
    after.Holds name := by
  induction runs with
  | nil => exact holds
  | cons command _ ih =>
    exact ih (fun entry member => kept entry (List.mem_cons_of_mem _ member))
      (holds.run (kept _ List.mem_cons_self))

private theorem heeds (runs : Runs host patience console history after)
    (kept : ∀ entry ∈ history, ¬ entry.1.Begins entry.2)
    (raised : console.handle.aborted = true) :
    after.handle.aborted = true ∧
      ∀ entry ∈ history, ∀ event ∈ entry.2.outcome.events, event.isCall = false := by
  induction runs with
  | nil => exact ⟨raised, by simp⟩
  | cons command _ ih =>
    obtain ⟨still, quiet⟩ := run_heeds raised (kept _ List.mem_cons_self)
    obtain ⟨last, later⟩ :=
      ih (fun entry member => kept entry (List.mem_cons_of_mem _ member)) still
    refine ⟨last, fun entry member => ?_⟩
    rcases List.mem_cons.mp member with rfl | after
    · exact quiet
    · exact later entry after

end Runs

end Console

end StorageMedia
