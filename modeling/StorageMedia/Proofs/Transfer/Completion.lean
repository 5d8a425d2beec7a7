import StorageMedia.Proofs.Device.Tolerable
import StorageMedia.Proofs.Transfer.Measure
import StorageMedia.Proofs.Transfer.Progress

/-! # Tolerant transfers that always complete

On a tolerable medium a tolerant transfer fills all of its buffer, however the failures of the
device are arranged. A read that is interrupted is tried again until it is not; any other read uses
up one of the tries that the missing bytes have, of which there are finitely many.
-/

namespace StorageMedia.Transfer

variable {σ : Type} [Device σ] {medium : TolerableMedium σ} {options : Options} {start stop : Nat}
  {transfer : Transfer σ}

/-- A transfer on its way that nothing has stopped. -/
structure Persists (medium : TolerableMedium σ) (options : Options) (start stop : Nat)
    (transfer : Transfer σ) : Prop where
  tracks : transfer.Tracks medium.toPositioned
  spans : transfer.Spans start stop
  running : transfer.aborted = false
  counted : transfer.failures ≤ options.errorRetries.toNat

namespace Persists

/-- What the device read of a step comes to: bytes, a failure that may be tried again, or an
interruption. -/
inductive Meets (start : Nat) (transfer : Transfer σ) : Prop
  | bytes {count : Nat} (fetches : transfer.Fetches start (.ok count)) (positive : 0 < count)
      (fits : count ≤ transfer.buffer.free)
  | failure {error : IoError} (fetches : transfer.Fetches start (.error error))
      (counted : error.isInterrupted = false) (retryable : error.isRetryable = true)
  | interruption {error : IoError} (fetches : transfer.Fetches start (.error error))
      (interrupted : error.isInterrupted = true)

private theorem lt_size (persists : transfer.Persists medium options start stop)
    (inside : stop ≤ medium.size) (room : 0 < transfer.buffer.free) :
    start + transfer.buffer.done < medium.size := by
  have spans := persists.spans
  simp only [Spans] at spans
  omega

private theorem arrives (persists : transfer.Persists medium options start stop)
    (inside : stop ≤ medium.size) (room : 0 < transfer.buffer.free) :
    (transfer.session.moveTo (start + transfer.buffer.done)).result = .ok () ∧
      medium.position (transfer.brought start).session.device = start + transfer.buffer.done := by
  obtain ⟨_, sought⟩ :=
    medium.seeks persists.tracks.session.obeys (persists.lt_size inside room)
  have arrived := Session.moveTo_of_seek sought
  exact ⟨arrived, (persists.tracks.session.moveTo _).2 arrived⟩

private theorem meets (persists : transfer.Persists medium options start stop)
    (inside : stop ≤ medium.size) (room : 0 < transfer.buffer.free) :
    (transfer.fetched start).aborted = false ∧ Meets start transfer := by
  have obeys := (persists.tracks.brought start).session.obeys
  have before := persists.lt_size inside room
  obtain ⟨arrived, stands⟩ := persists.arrives inside room
  have calmSeek := (medium.calm persists.tracks.session.obeys).seek (start + transfer.buffer.done)
  refine ⟨aborted_fetched_of_calm persists.running calmSeek ((medium.calm obeys).read _), ?_⟩
  rw [← stands] at before
  rcases medium.answers obeys before room with ⟨count, reported, positive, fits⟩ |
    ⟨error, reported, tolerable⟩
  · exact .bytes ⟨room, persists.running, arrived, reported⟩ positive fits
  · have fetches : transfer.Fetches start (.error error) :=
      ⟨room, persists.running, arrived, reported⟩
    cases interrupted : error.isInterrupted with
    | true => exact .interruption fetches interrupted
    | false =>
      refine .failure fetches interrupted (IoError.isRetryable_iff.mpr ?_)
      exact tolerable.resolve_left (by simp [interrupted])

private theorem of_step (persists : transfer.Persists medium options start stop)
    {next : Transfer σ} (step : transfer.step options start = .more next)
    (running : next.aborted = false) (counted : next.failures ≤ options.errorRetries.toNat) :
    next.Persists medium options start stop := by
  have tracks : (transfer.step options start).transfer.Tracks medium.toPositioned :=
    persists.tracks.step
  have spans : (transfer.step options start).transfer.Spans start stop := persists.spans.step
  rw [step] at tracks spans
  exact ⟨tracks, spans, running, counted⟩

omit [Device σ] in
theorem aborted_tolerate (error : IoError) :
    (transfer.tolerate options start error).aborted = transfer.aborted := by
  simp only [tolerate]
  split <;> rfl

private theorem step (persists : transfer.Persists medium options start stop)
    (tolerant : options.tolerateErrors = true) (inside : stop ≤ medium.size)
    (fits : stop ≤ maxOffset) (room : 0 < transfer.buffer.free) :
    (∃ next, transfer.step options start = .more next ∧ next.Persists medium options start stop ∧
      next.triesLeft options < transfer.triesLeft options) ∨
    ∃ error, transfer.Fetches start (.error error) ∧ error.isInterrupted = true ∧
      transfer.step options start = .more (transfer.fetched start).loseTrack ∧
      (transfer.fetched start).loseTrack.Persists medium options start stop := by
  obtain ⟨running, meets⟩ := persists.meets inside room
  cases meets with
  | @bytes count fetches positive le =>
    have step := fetches.step_kept options positive le
    exact .inl ⟨_, step, persists.of_step step running persists.counted,
      triesLeft_lt room persists.counted (remaining_keep fetches positive)⟩
  | @failure error fetches counted retryable =>
    have step := fetches.step_tolerated tolerant counted retryable
    have lost : (transfer.fetched start).loseTrack.Spans start stop := persists.spans
    obtain ⟨nearer, left⟩ := remaining_tolerate options fits lost room error
    exact .inl ⟨_, step, persists.of_step step ((aborted_tolerate error).trans running) left,
      triesLeft_lt room persists.counted nearer⟩
  | @interruption error fetches interrupted =>
    have step := fetches.step_interrupted options interrupted
    exact .inr ⟨error, fetches, interrupted, step, persists.of_step step running persists.counted⟩

private theorem advances (tolerant : options.tolerateErrors = true) (inside : stop ≤ medium.size)
    (fits : stop ≤ maxOffset) {tries : Nat} {transfer : Transfer σ}
    (persists : transfer.Persists medium options start stop) (room : 0 < transfer.buffer.free)
    (settled : ∀ error, (Device.read (Device.afterRetries (start + transfer.buffer.done)
      transfer.buffer.free tries (transfer.brought start).session.device)
      transfer.buffer.free).result = .error error → error.isInterrupted = false) :
    ∃ next : Transfer σ, transfer.LeadsTo options start next ∧
      next.Persists medium options start stop ∧
      next.triesLeft options < transfer.triesLeft options := by
  -- An interrupted read changes only the device, of which one retry less is to be waited out.
  induction tries generalizing transfer with
  | zero =>
    rcases persists.step tolerant inside fits room with ⟨next, step, onward, nearer⟩ |
      ⟨error, fetches, interrupted, _⟩
    · exact ⟨next, .head step (.refl _), onward, nearer⟩
    · have counted := settled error fetches.reported
      rw [interrupted] at counted
      cases counted
  | succ tries ih =>
    rcases persists.step tolerant inside fits room with ⟨next, step, onward, nearer⟩ |
      ⟨error, _, _, step, again⟩
    · exact ⟨next, .head step (.refl _), onward, nearer⟩
    · rw [Device.afterRetries, ← device_brought_loseTrack] at settled
      obtain ⟨next, leads, forward⟩ := ih again room settled
      exact ⟨next, .head step leads, forward⟩

/-- A transfer that nothing stops gets to its end. -/
theorem completes (tolerant : options.tolerateErrors = true) (inside : stop ≤ medium.size)
    (fits : stop ≤ maxOffset) {transfer : Transfer σ}
    (persists : transfer.Persists medium options start stop) :
    ∃ final : Transfer σ, transfer.LeadsTo options start final ∧
      final.Persists medium options start stop ∧ final.buffer.free = 0 := by
  induction left : transfer.triesLeft options using Nat.strongRecOn generalizing transfer with
  | ind left ih =>
    subst left
    rcases Nat.eq_zero_or_pos transfer.buffer.free with full | room
    · exact ⟨transfer, .refl _, persists, full⟩
    have obeys := (persists.tracks.brought start).session.obeys
    have before := persists.lt_size inside room
    obtain ⟨_, stands⟩ := persists.arrives inside room
    obtain ⟨tries, settled⟩ := medium.settles obeys (stands ▸ before) room
    rw [stands] at settled
    obtain ⟨next, leads, onward, nearer⟩ := persists.advances tolerant inside fits room settled
    obtain ⟨final, rest, ends⟩ := ih _ nearer onward rfl
    exact ⟨final, leads.trans rest, ends⟩

end Persists

/-- On a tolerable medium a tolerant transfer of bytes that can be asked for succeeds with all of
them, once enough interruptions are waited out. -/
theorem read_persists {session : Session σ} (tracks : session.Tracks medium.toPositioned)
    (tolerant : options.tolerateErrors = true) (start : Nat) (bytes : Bytes)
    (inside : start + bytes.size ≤ medium.size) (fits : start + bytes.size ≤ maxOffset) :
    ∃ final enough, ∀ patience, enough ≤ patience →
      read options patience session false start bytes = (final, .ok bytes.size) := by
  have started : ({ session, aborted := false, buffer := .ofBytes bytes } : Transfer σ).Persists
      medium options start (start + bytes.size) :=
    ⟨⟨tracks, by simp⟩, rfl, rfl, Nat.zero_le _⟩
  obtain ⟨final, leads, ended, full⟩ := started.completes tolerant inside fits
  exact ⟨final, read_of_leadsTo leads ended.spans full⟩

end StorageMedia.Transfer
