import StorageMedia.Proofs.Device.Steady
import StorageMedia.Proofs.Transfer.Delivery

/-! # Transfers that come to an end

On a steady medium a transfer of bytes that lie on the media always ends with all of them. Each
read of the device either brings the transfer forward by at least one byte or is interrupted, and
the transfer repeats an interrupted read until it succeeds.
-/

namespace StorageMedia

variable {σ : Type} [Device σ] {medium : SteadyMedium σ}

/-- A device that an offset of the media is sought on arrives there. -/
theorem Session.moveTo_ok {session : Session σ} {offset : Nat}
    (obeys : medium.Obeys session.device) (inside : offset < medium.size) :
    (session.moveTo offset).result = .ok () := by
  obtain ⟨answer, sought⟩ := medium.seeks obeys inside
  exact moveTo_of_seek sought

namespace Transfer

variable {options : Options} {start stop : Nat} {transfer : Transfer σ}

/-- A run of the transfer gets to another transfer and goes on from there. -/
def LeadsTo (options : Options) (start : Nat) (transfer next : Transfer σ) : Prop :=
  ∃ steps, ∀ more, transfer.run options start (steps + more) = next.run options start more

theorem LeadsTo.refl (transfer : Transfer σ) : transfer.LeadsTo options start transfer :=
  ⟨0, fun more => by rw [Nat.zero_add]⟩

theorem LeadsTo.head {next last : Transfer σ} (step : transfer.step options start = .more next)
    (leads : next.LeadsTo options start last) : transfer.LeadsTo options start last := by
  obtain ⟨steps, runs⟩ := leads
  refine ⟨steps + 1, fun more => ?_⟩
  rw [show steps + 1 + more = steps + more + 1 by omega, run, step]
  exact runs more

theorem LeadsTo.trans {next last : Transfer σ} (first : transfer.LeadsTo options start next)
    (second : next.LeadsTo options start last) : transfer.LeadsTo options start last := by
  obtain ⟨steps, runs⟩ := first
  obtain ⟨others, goes⟩ := second
  refine ⟨steps + others, fun more => ?_⟩
  rw [Nat.add_assoc, runs, goes]

/-- A transfer that a run leads to a full buffer succeeds, once enough interruptions are waited
out. -/
theorem read_of_leadsTo {session : Session σ} {bytes : Bytes} {final : Transfer σ}
    (leads : ({ session, aborted := false, buffer := .ofBytes bytes } : Transfer σ).LeadsTo options
      start final)
    (spans : final.Spans start (start + bytes.size)) (full : final.buffer.free = 0) :
    ∃ enough, ∀ patience, enough ≤ patience →
      read options patience session false start bytes = (final, .ok bytes.size) := by
  obtain ⟨count, runs⟩ := leads
  have done : final.buffer.done = bytes.size := by
    simp only [Spans] at spans
    omega
  refine ⟨count, fun patience enough => ?_⟩
  -- The steps of a transfer are more than its patience, so one is left to notice the end.
  obtain ⟨more, exact⟩ : ∃ more, steps options patience bytes.size = count + (more + 1) :=
    ⟨steps options patience bytes.size - count - 1, by rw [steps]; omega⟩
  rw [read, exact, runs, run, step_of_full full, done]

/-- Nothing but progress has happened to the transfer. -/
structure Undisturbed (medium : SteadyMedium σ) (start stop : Nat) (transfer : Transfer σ) : Prop
    extends Sound medium.toMedium start stop transfer where
  running : transfer.aborted = false
  whole : transfer.skipped = {}

namespace Undisturbed

private theorem lt_size (undisturbed : transfer.Undisturbed medium start stop)
    (inside : stop ≤ medium.size) (room : 0 < transfer.buffer.free) :
    start + transfer.buffer.done < medium.size := by
  have spans := undisturbed.spans
  simp only [Spans] at spans
  omega

private theorem reads (undisturbed : transfer.Undisturbed medium start stop)
    (inside : stop ≤ medium.size) (room : 0 < transfer.buffer.free) :
    (transfer.fetched start).aborted = false ∧
      ((∃ count, 0 < count ∧ count ≤ transfer.buffer.free ∧ transfer.Fetches start (.ok count)) ∨
        ∃ error, error.isInterrupted = true ∧ transfer.Fetches start (.error error)) := by
  have obeys := (undisturbed.tracks.brought start).session.obeys
  have before := undisturbed.lt_size inside room
  have arrived := Session.moveTo_ok undisturbed.tracks.session.obeys before
  have stands : medium.position (transfer.brought start).session.device =
      start + transfer.buffer.done := (undisturbed.tracks.session.moveTo _).2 arrived
  rw [← stands] at before
  constructor
  · have calmSeek := (medium.calm undisturbed.tracks.session.obeys).seek
      (start + transfer.buffer.done)
    exact aborted_fetched_of_calm undisturbed.running calmSeek ((medium.calm obeys).read _)
  · rcases medium.gives obeys before room with
      ⟨count, reported, positive, fits, _⟩ | ⟨error, reported, interrupted⟩
    · exact .inl ⟨count, positive, fits, room, undisturbed.running, arrived, reported⟩
    · exact .inr ⟨error, interrupted, room, undisturbed.running, arrived, reported⟩

private theorem of_step (undisturbed : transfer.Undisturbed medium start stop)
    (inside : stop ≤ medium.size) {next : Transfer σ}
    (step : transfer.step options start = .more next) (running : next.aborted = false)
    (whole : next.skipped = transfer.skipped) : next.Undisturbed medium start stop := by
  have fits : stop ≤ maxOffset := by
    have most := medium.size_le
    simp only [maxSeekOffset, maxOffset] at most ⊢
    omega
  have sound : (transfer.step options start).transfer.Sound medium.toMedium start stop :=
    undisturbed.toSound.step fits
  rw [step] at sound
  exact ⟨sound, running, whole.trans undisturbed.whole⟩

private theorem keeps (undisturbed : transfer.Undisturbed medium start stop)
    (inside : stop ≤ medium.size) {count : Nat} (positive : 0 < count)
    (fits : count ≤ transfer.buffer.free) (fetches : transfer.Fetches start (.ok count))
    (running : (transfer.fetched start).aborted = false) :
    ∃ next : Transfer σ, transfer.LeadsTo options start next ∧
      next.Undisturbed medium start stop ∧ next.buffer.free < transfer.buffer.free := by
  have step := fetches.step_kept options positive fits
  refine ⟨_, .head step (.refl _), undisturbed.of_step inside step running rfl, ?_⟩
  simp only [Transfer.keep, Buffer.advance, free_fetched]
  omega

private theorem advances (inside : stop ≤ medium.size) (options : Options) {tries : Nat}
    {transfer : Transfer σ} (undisturbed : transfer.Undisturbed medium start stop)
    (room : 0 < transfer.buffer.free)
    (responds : ∃ count, (Device.read (Device.afterRetries (start + transfer.buffer.done)
      transfer.buffer.free tries (transfer.brought start).session.device)
      transfer.buffer.free).result = .ok count) :
    ∃ next : Transfer σ, transfer.LeadsTo options start next ∧
      next.Undisturbed medium start stop ∧ next.buffer.free < transfer.buffer.free := by
  induction tries generalizing transfer with
  | zero =>
    obtain ⟨running, ⟨count, positive, fits, fetches⟩ | ⟨error, _, fetches⟩⟩ :=
      undisturbed.reads inside room
    · exact undisturbed.keeps inside positive fits fetches running
    · obtain ⟨count, succeeded⟩ := responds
      have failed : (Device.read (transfer.brought start).session.device
        transfer.buffer.free).result = .error error := fetches.reported
      rw [Device.afterRetries, failed] at succeeded
      cases succeeded
  | succ tries ih =>
    obtain ⟨running, ⟨count, positive, fits, fetches⟩ | ⟨error, interrupted, fetches⟩⟩ :=
      undisturbed.reads inside room
    · exact undisturbed.keeps inside positive fits fetches running
    · have step := fetches.step_interrupted options interrupted
      rw [Device.afterRetries, ← device_brought_loseTrack] at responds
      obtain ⟨next, leads, forward⟩ :=
        ih (undisturbed.of_step inside step running rfl) room responds
      exact ⟨next, .head step leads, forward⟩

/-- A transfer on a steady medium gets to its end. -/
theorem completes (inside : stop ≤ medium.size) (options : Options) {transfer : Transfer σ}
    (undisturbed : transfer.Undisturbed medium start stop) :
    ∃ final : Transfer σ, transfer.LeadsTo options start final ∧
      final.Undisturbed medium start stop ∧ final.buffer.free = 0 := by
  induction free : transfer.buffer.free using Nat.strongRecOn generalizing transfer with
  | ind free ih =>
    subst free
    rcases Nat.eq_zero_or_pos transfer.buffer.free with full | room
    · exact ⟨transfer, .refl _, undisturbed, full⟩
    have obeys := (undisturbed.tracks.brought start).session.obeys
    have before := undisturbed.lt_size inside room
    have arrived := Session.moveTo_ok undisturbed.tracks.session.obeys before
    have stands : medium.position (transfer.brought start).session.device =
        start + transfer.buffer.done := (undisturbed.tracks.session.moveTo _).2 arrived
    obtain ⟨tries, responds⟩ := medium.responds obeys (stands ▸ before) room
    rw [stands] at responds
    obtain ⟨next, leads, onward, less⟩ := undisturbed.advances inside options room responds
    obtain ⟨final, rest, ends⟩ := ih _ less onward rfl
    exact ⟨final, leads.trans rest, ends⟩

end Undisturbed

/-- On a steady medium a transfer of bytes that lie on it succeeds with all of them, once enough
interruptions are waited out. -/
theorem read_completes {session : Session σ} (tracks : session.Tracks medium.toPositioned)
    (options : Options) (start : Nat) (bytes : Bytes) (inside : start + bytes.size ≤ medium.size) :
    ∃ final : Transfer σ, ∃ enough,
      (∀ patience, enough ≤ patience →
        read options patience session false start bytes = (final, .ok bytes.size)) ∧
      final.Undisturbed medium start (start + bytes.size) ∧
      final.session.knowledge = session.knowledge ∧
      final.buffer.bytes.toList = medium.content.slice start bytes.size := by
  have started : ({ session, aborted := false, buffer := .ofBytes bytes } : Transfer σ).Undisturbed
      medium start (start + bytes.size) :=
    ⟨.begins tracks false start bytes, rfl, rfl⟩
  obtain ⟨final, leads, undisturbed, full⟩ := started.completes inside options
  obtain ⟨enough, ends⟩ := read_of_leadsTo leads undisturbed.spans full
  have done : final.buffer.done = bytes.size := by
    have spans := undisturbed.spans
    simp only [Spans] at spans
    omega
  refine ⟨final, enough, ends, undisturbed, ?_, ?_⟩
  · have same := knowledge_read options enough session false start bytes
    rwa [ends enough (Nat.le_refl _)] at same
  · have length : final.buffer.bytes.toList.length = bytes.size := by
      rw [Buffer.length_bytes, done, full, Nat.add_zero]
    have whole : min bytes.size (medium.content.size - start) = bytes.size := by
      simp only [SteadyMedium.content]
      omega
    apply List.ext_getElem?
    intro index
    rw [Content.slice, whole, List.getElem?_map]
    rcases Nat.lt_or_ge index bytes.size with front | behind
    · have uncovered : ¬ final.skipped.Covers (start + index) := by
        rw [undisturbed.whole]
        exact ErrorRanges.not_covers_empty _
      rw [undisturbed.faithful.read index (by omega) uncovered, List.getElem?_range' front,
        Option.map_some, Nat.one_mul]
      rfl
    · rw [List.getElem?_eq_none (by omega), List.getElem?_eq_none (by simpa using behind),
        Option.map_none]

end Transfer

end StorageMedia
