import StorageMedia.Proofs.Transfer.Losses
import StorageMedia.Proofs.Transfer.Measure

/-! # Transfers around damage

A tolerant transfer on a damaged medium always succeeds. Each of its steps reads good bytes, notes a
failed read at a bad offset or gives up the block of such an offset, and so it loses exactly what
`DamagedMedium.Loses` says and comes to its end where `DamagedMedium.Stops` says.
-/

namespace StorageMedia.Transfer

variable {σ : Type} [Device σ] {medium : DamagedMedium σ} {options : Options} {start stop : Nat}
  {transfer : Transfer σ}

/-- A transfer on its way around damage. -/
structure Surveys (medium : DamagedMedium σ) (options : Options) (start stop : Nat)
    (transfer : Transfer σ) : Prop extends Sound medium.toMedium start stop transfer where
  running : transfer.aborted = false
  counted : transfer.failures ≤ options.errorRetries.toNat
  passes : medium.Passes options start stop (start + transfer.buffer.done)
  lost : ∀ byte, transfer.skipped.Covers byte ↔
    medium.Loses options start (start + transfer.buffer.done) byte

namespace Surveys

theorem begins {session : Session σ} (tracks : session.Tracks medium.toPositioned) (start : Nat)
    (bytes : Bytes) :
    Surveys medium options start (start + bytes.size)
      { session, aborted := false, buffer := .ofBytes bytes } where
  toSound := .begins tracks false start bytes
  running := rfl
  counted := Nat.zero_le _
  passes := .begins (Nat.le_add_right _ _)
  lost byte := iff_of_false (ErrorRanges.not_covers_empty byte) DamagedMedium.not_loses_empty

/-- What a device read comes to: bytes that are good, a failure at a bad offset, or the end. -/
inductive Meets (medium : DamagedMedium σ) (start : Nat) (transfer : Transfer σ) : Prop
  | bytes {count : Nat} (fetches : transfer.Fetches start (.ok count)) (positive : 0 < count)
      (fits : count ≤ transfer.buffer.free)
      (inside : start + transfer.buffer.done + count ≤ medium.size)
      (good : ∀ offset, start + transfer.buffer.done ≤ offset →
        offset < start + transfer.buffer.done + count → ¬ medium.Bad offset)
  | damage {error : IoError} (fetches : transfer.Fetches start (.error error))
      (counted : error.isInterrupted = false) (retryable : error.isRetryable = true)
      (bad : medium.Bad (start + transfer.buffer.done))
  | ending (fetches : transfer.Fetches start (.ok 0))
      (behind : medium.size ≤ start + transfer.buffer.done)
      (good : ¬ medium.Bad (start + transfer.buffer.done))

private theorem meets (surveys : transfer.Surveys medium options start stop)
    (room : 0 < transfer.buffer.free) :
    (transfer.fetched start).aborted = false ∧ Meets medium start transfer := by
  have obeys := (surveys.tracks.brought start).session.obeys
  obtain ⟨_, sought⟩ :=
    medium.seeks surveys.tracks.session.obeys (start + transfer.buffer.done)
  have arrived := Session.moveTo_of_seek sought
  have stands : medium.position (transfer.brought start).session.device =
      start + transfer.buffer.done := (surveys.tracks.session.moveTo _).2 arrived
  have calmSeek := (medium.calm surveys.tracks.session.obeys).seek (start + transfer.buffer.done)
  refine ⟨aborted_fetched_of_calm surveys.running calmSeek ((medium.calm obeys).read _), ?_⟩
  by_cases bad : medium.Bad (start + transfer.buffer.done)
  · obtain ⟨error, reported, counted, retryable⟩ := medium.fails obeys room (stands ▸ bad)
    exact .damage ⟨room, surveys.running, arrived, reported⟩ counted retryable bad
  rcases Nat.lt_or_ge (start + transfer.buffer.done) medium.size with inside | behind
  · obtain ⟨count, reported, positive, fits, within, good⟩ :=
      medium.gives obeys room (stands ▸ bad) (stands ▸ inside)
    rw [stands] at within good
    exact .bytes ⟨room, surveys.running, arrived, reported⟩ positive fits within good
  · have reported := medium.ends obeys room (stands ▸ bad) (stands ▸ behind)
    exact .ending ⟨room, surveys.running, arrived, reported⟩ behind bad

private theorem giveUp_surveys (fits : stop ≤ maxOffset)
    (spans : transfer.Spans start stop) (room : 0 < transfer.buffer.free)
    (separated : transfer.skipped.IsSeparated)
    (passes : medium.Passes options start stop (start + transfer.buffer.done))
    (lost : ∀ byte, transfer.skipped.Covers byte ↔
      medium.Loses options start (start + transfer.buffer.done) byte)
    (bad : medium.Bad (start + transfer.buffer.done)) :
    medium.Passes options start stop (start + (transfer.giveUp options start).buffer.done) ∧
      ∀ byte, (transfer.giveUp options start).skipped.Covers byte ↔
        medium.Loses options start (start + (transfer.giveUp options start).buffer.done) byte := by
  have before : start + transfer.buffer.done < stop := by
    simp only [Spans] at spans
    omega
  rw [done_giveUp options spans room fits]
  refine ⟨passes.gives_up bad before fits, fun byte => ?_⟩
  rw [covers_giveUp options spans room fits separated, lost byte,
    passes.loses_gives_up bad before fits]

section Steps

variable (surveys : transfer.Surveys medium options start stop) (fits : stop ≤ maxOffset)
include surveys fits

private theorem keeps {count : Nat} (fetches : transfer.Fetches start (.ok count))
    (running : (transfer.fetched start).aborted = false) (positive : 0 < count)
    (room : count ≤ transfer.buffer.free)
    (inside : start + transfer.buffer.done + count ≤ medium.size)
    (good : ∀ offset, start + transfer.buffer.done ≤ offset →
      offset < start + transfer.buffer.done + count → ¬ medium.Bad offset) :
    ∃ next, transfer.step options start = .more next ∧ next.Surveys medium options start stop ∧
      next.triesLeft options < transfer.triesLeft options := by
  have step := fetches.step_kept options positive room
  have sound : (transfer.step options start).transfer.Sound medium.toMedium start stop :=
    surveys.toSound.step fits
  rw [step] at sound
  have spans := surveys.spans
  simp only [Spans] at spans
  have done : start + ((transfer.fetched start).keep (start + transfer.buffer.done)
      count).buffer.done = start + transfer.buffer.done + count := by
    simp only [Transfer.keep, Buffer.advance, done_fetched, free_fetched]
    omega
  refine ⟨_, step, ⟨sound, running, surveys.counted, ?_, fun byte => ?_⟩,
    triesLeft_lt fetches.room surveys.counted (remaining_keep fetches positive)⟩
  · rw [done]
    exact surveys.passes.reads (by omega) (by omega) inside good
  · rw [done, surveys.passes.loses_reads (by omega) (by omega) good]
    exact surveys.lost byte

private theorem tolerates (tolerant : options.tolerateErrors = true) {error : IoError}
    (fetches : transfer.Fetches start (.error error))
    (running : (transfer.fetched start).aborted = false) (counted : error.isInterrupted = false)
    (retryable : error.isRetryable = true) (bad : medium.Bad (start + transfer.buffer.done)) :
    ∃ next, transfer.step options start = .more next ∧ next.Surveys medium options start stop ∧
      next.triesLeft options < transfer.triesLeft options := by
  have step := fetches.step_tolerated tolerant counted retryable
  have sound : (transfer.step options start).transfer.Sound medium.toMedium start stop :=
    surveys.toSound.step fits
  rw [step] at sound
  have lost : (transfer.fetched start).loseTrack.Spans start stop := surveys.spans
  have nearer := (remaining_tolerate options fits lost fetches.room error).1
  refine ⟨_, step, ?_, triesLeft_lt fetches.room surveys.counted nearer⟩
  rcases tolerate_cases options start (transfer.fetched start).loseTrack error with
    ⟨_, same⟩ | ⟨left, same⟩ <;> simp only [TransferStep.transfer, same] at sound ⊢
  · obtain ⟨passes, lost⟩ := giveUp_surveys fits surveys.spans fetches.room
      surveys.faithful.separated surveys.passes surveys.lost bad
    exact ⟨sound, running, Nat.zero_le _, passes, lost⟩
  · exact ⟨sound, running, left, surveys.passes, surveys.lost⟩

end Steps

/-- A step either ends the transfer where the request stops, or brings it nearer to its end. -/
theorem step (surveys : transfer.Surveys medium options start stop)
    (tolerant : options.tolerateErrors = true) (fits : stop ≤ maxOffset) :
    (∃ final, transfer.step options start = .ended final (.ok final.buffer.done) ∧
      final.Surveys medium options start stop ∧
      medium.Stops options start stop (start + final.buffer.done)) ∨
    ∃ next, transfer.step options start = .more next ∧ next.Surveys medium options start stop ∧
      next.triesLeft options < transfer.triesLeft options := by
  have spans := surveys.spans
  simp only [Spans] at spans
  rcases Nat.eq_zero_or_pos transfer.buffer.free with full | room
  · exact .inl ⟨transfer, step_of_full full, surveys, surveys.passes.stops (.inl (by omega))⟩
  obtain ⟨running, meets⟩ := surveys.meets room
  cases meets with
  | bytes fetches positive le inside good =>
    exact .inr (surveys.keeps fits fetches running positive le inside good)
  | damage fetches counted retryable bad =>
    exact .inr (surveys.tolerates fits tolerant fetches running counted retryable bad)
  | ending fetches behind good =>
    have step : transfer.step options start =
        .ended (transfer.fetched start) (.ok transfer.buffer.done) := by
      rw [fetches.step_eq, settle, if_pos rfl, done_fetched]
    have sound : (transfer.step options start).transfer.Sound medium.toMedium start stop :=
      surveys.toSound.step fits
    rw [step] at sound
    exact .inl ⟨_, step, ⟨sound, running, surveys.counted, surveys.passes, surveys.lost⟩,
      surveys.passes.stops (.inr ⟨behind, good⟩)⟩

/-- A transfer around damage comes to its end. -/
theorem run (tolerant : options.tolerateErrors = true) (fits : stop ≤ maxOffset) {count : Nat}
    {transfer : Transfer σ} (surveys : transfer.Surveys medium options start stop)
    (enough : transfer.triesLeft options < count) :
    ∃ final, transfer.run options start count = (final, .ok final.buffer.done) ∧
      final.Surveys medium options start stop ∧
      medium.Stops options start stop (start + final.buffer.done) := by
  induction count generalizing transfer with
  | zero => exact absurd enough (Nat.not_lt_zero _)
  | succ count ih =>
    rw [Transfer.run]
    rcases surveys.step tolerant fits with ⟨final, ended, last⟩ | ⟨next, more, onward, nearer⟩
    · rw [ended]
      exact ⟨final, rfl, last⟩
    · rw [more]
      exact ih onward (by omega)

open Classical in
/-- The part of the buffer that is done holds what the damage leaves of the media. -/
theorem take_done (surveys : transfer.Surveys medium options start stop) :
    transfer.buffer.bytes.toList.take transfer.buffer.done =
      medium.image options start (start + transfer.buffer.done) := by
  apply List.ext_getElem?
  intro index
  simp only [DamagedMedium.image, Nat.add_sub_cancel_left, List.getElem?_take, List.getElem?_map]
  rcases Nat.lt_or_ge index transfer.buffer.done with front | behind
  · rw [if_pos front, List.getElem?_range' front, Option.map_some, Nat.one_mul]
    by_cases lost : medium.Loses options start (start + transfer.buffer.done) (start + index)
    · rw [if_pos lost]
      exact surveys.faithful.zeroed index front ((surveys.lost _).mpr lost)
    · rw [if_neg lost]
      exact surveys.faithful.read index front (mt (surveys.lost _).mp lost)
  · rw [if_neg (by omega), List.getElem?_eq_none (by simpa using behind), Option.map_none]

end Surveys

/-- A tolerant transfer on a damaged medium succeeds, loses what the damage costs and gets as far as
the media does. -/
theorem read_surveys {session : Session σ} (tracks : session.Tracks medium.toPositioned)
    (tolerant : options.tolerateErrors = true) (patience : Nat) (start : Nat) (bytes : Bytes)
    (fits : start + bytes.size ≤ maxOffset) :
    ∃ final, read options patience session false start bytes = (final, .ok final.buffer.done) ∧
      final.Surveys medium options start (start + bytes.size) ∧
      medium.Stops options start (start + bytes.size) (start + final.buffer.done) := by
  refine Surveys.run tolerant fits (.begins tracks start bytes) ?_
  simp only [triesLeft, steps, Buffer.ofBytes]
  omega

end StorageMedia.Transfer
