import StorageMedia.Proofs.Transfer.Endings
import StorageMedia.Proofs.Transfer.Progress

/-! # Transfers terminate

A transfer goes through finitely many device reads that are not interrupted, whatever the device
answers: each of them ends it or leaves it less to do. So it comes to its end, or from some point on
its device interrupts every read.

`Transfer.Passes` is the way of a transfer, step by step. What a run comes to is the transfer that
it got to, or the end of that one.
-/

namespace StorageMedia

variable {σ : Type}

/-- What a transfer tells of its failures stays in bounds: the count of failures is at most one more
than there are retries, and a block that is given up has a byte ahead. -/
def Event.Counts (retries : Nat) : Event σ → Prop
  | notice (.readFailed failures _ _) => failures ≤ retries + 1
  | notice (.skipped _ _ distance) => 0 < distance
  | _ => True

theorem Event.counts_of_isInquiry {event : Event σ} (retries : Nat)
    (inquiry : event.isInquiry = true) : event.Counts retries := by
  cases event with
  | read | seek | query => trivial
  | notice fact => cases fact <;> trivial

namespace Transfer

open Event

variable [Device σ] {options : Options} {start stop : Nat} {transfer next last : Transfer σ}

/-- Steps lead from a transfer to another one. -/
inductive Passes (options : Options) (start : Nat) : Transfer σ → Transfer σ → Prop
  | refl (transfer : Transfer σ) : Passes options start transfer transfer
  | head {transfer next last : Transfer σ} (more : transfer.step options start = .more next)
      (passes : Passes options start next last) : Passes options start transfer last

namespace Passes

theorem trans (first : transfer.Passes options start next)
    (second : next.Passes options start last) : transfer.Passes options start last := by
  induction first with
  | refl => exact second
  | head more _ ih => exact .head more (ih second)

theorem leadsTo (passes : transfer.Passes options start last) :
    transfer.LeadsTo options start last := by
  induction passes with
  | refl => exact .refl _
  | head more _ ih => exact .head more ih

end Passes

/-- A run gets to a transfer on its way or to the end of one. -/
theorem run_passes (options : Options) (start count : Nat) (transfer : Transfer σ) :
    ∃ last, transfer.Passes options start last ∧
      (transfer.run options start count = (last, .pending) ∨
        ∃ final result, last.step options start = .ended final result ∧
          transfer.run options start count = (final, result)) := by
  induction count generalizing transfer with
  | zero => exact ⟨transfer, .refl _, .inl rfl⟩
  | succ count ih =>
    cases step : transfer.step options start with
    | more next =>
      obtain ⟨last, passes, ends⟩ := ih next
      simp only [run, step]
      exact ⟨last, .head step passes, ends⟩
    | ended final result =>
      simp only [run, step]
      exact ⟨transfer, .refl _, .inr ⟨final, result, step, rfl⟩⟩

/-- From here on the device interrupts every read, so that the transfer goes on for ever. -/
def InterruptedForever (options : Options) (start : Nat) (transfer : Transfer σ) : Prop :=
  ∀ later, transfer.Passes options start later →
    ∃ error, later.Fetches start (.error error) ∧ error.isInterrupted = true

namespace Budgeted

omit [Device σ] in
private theorem counts_tolerate (budgeted : transfer.Budgeted options start stop)
    (fits : stop ≤ maxOffset) (room : 0 < transfer.buffer.free)
    (counts : ∀ event ∈ transfer.events, event.Counts options.errorRetries.toNat)
    (error : IoError) :
    ∀ event ∈ (transfer.tolerate options start error).events,
      event.Counts options.errorRetries.toNat := by
  have noted : (Event.notice (.readFailed (transfer.failures + 1) (start + transfer.buffer.done)
      error) : Event σ).Counts options.errorRetries.toNat := Nat.succ_le_succ budgeted.left
  have spans := budgeted.spans
  simp only [Spans] at spans
  have ahead := (options.loss_bounds (Nat.le_add_right start transfer.buffer.done)
    (Nat.lt_add_of_pos_right room) (by omega)).2.2.1
  rcases tolerate_cases options start transfer error with ⟨_, same⟩ | ⟨_, same⟩ <;> rw [same]
  · rintro event (_ | ⟨_, _ | ⟨_, member⟩⟩)
    · exact Nat.sub_pos_of_lt ahead
    · exact noted
    · exact counts event member
  · rintro event (_ | ⟨_, member⟩)
    · exact noted
    · exact counts event member

/-- A step counts in bounds. -/
theorem counts_step (budgeted : transfer.Budgeted options start stop) (fits : stop ≤ maxOffset)
    (counts : ∀ event ∈ transfer.events, event.Counts options.errorRetries.toNat) :
    ∀ event ∈ (transfer.step options start).transfer.events,
      event.Counts options.errorRetries.toNat := by
  have brought : ∀ event ∈ (transfer.brought start).events,
      event.Counts options.errorRetries.toNat :=
    forall_events_brought (fun _ _ => trivial) counts
  have fetched : ∀ event ∈ (transfer.fetched start).events,
      event.Counts options.errorRetries.toNat := by
    rintro event (_ | ⟨_, before⟩)
    · trivial
    · exact brought event before
  have cases := step_stepsTo options start transfer
  generalize transfer.step options start = outcome at cases ⊢
  cases cases with
  | full => exact counts
  | aborted =>
    rintro event (_ | ⟨_, before⟩)
    · trivial
    · exact counts event before
  | astray => exact brought
  | drained | overrun | failed | kept | interrupted => exact fetched
  | @tolerated error fetches =>
    have lost : (transfer.fetched start).loseTrack.Budgeted options start stop :=
      ⟨budgeted.spans, budgeted.left⟩
    exact lost.counts_tolerate fits fetches.room fetched error

/-- A transfer that a budgeted one passes through is budgeted, and every attempt on the way there
used up a try. -/
theorem passes (budgeted : transfer.Budgeted options start stop) (fits : stop ≤ maxOffset)
    (passes : transfer.Passes options start last) :
    last.Budgeted options start stop ∧
      ∃ made, attempts last.events = made ++ attempts transfer.events ∧
        made.length + last.triesLeft options ≤ transfer.triesLeft options := by
  induction passes with
  | refl => exact ⟨budgeted, [], rfl, by rw [List.length_nil]; omega⟩
  | head more _ ih =>
    have onward := budgeted.step_more fits more
    have spends := budgeted.step_spends fits
    rw [more] at spends
    obtain ⟨rest, made, attempted, used⟩ := ih onward
    refine ⟨rest, ?_⟩
    cases spends with
    | interrupted _ _ same _ still =>
      rw [same] at attempted
      rw [triesLeft_of_remaining budgeted.left onward.left still] at used
      exact ⟨made, attempted, used⟩
    | @tried _ attempt room one _ nearer =>
      have less := triesLeft_lt room budgeted.left nearer
      refine ⟨made ++ [attempt], ?_, ?_⟩
      · rw [attempted, one, List.append_assoc, List.singleton_append]
      · rw [List.length_append, List.length_singleton]
        omega

/-- A run makes no more attempts than there are tries left. -/
theorem attempts_run (budgeted : transfer.Budgeted options start stop) (fits : stop ≤ maxOffset)
    (count : Nat) :
    (attempts (transfer.run options start count).1.events).length ≤
      (attempts transfer.events).length + transfer.triesLeft options := by
  obtain ⟨last, passes, ends⟩ := run_passes options start count transfer
  obtain ⟨onward, made, attempted, used⟩ := budgeted.passes fits passes
  have many := congrArg List.length attempted
  rw [List.length_append] at many
  rcases ends with waits | ⟨final, result, step, ends⟩
  · rw [waits]
    dsimp only
    omega
  · have spends := onward.step_spends fits
    rw [step] at spends
    rw [ends]
    cases spends with
    | ended _ attempted =>
      rcases attempted with same | ⟨room, attempt, one⟩
      · rw [same]
        omega
      · have left := triesLeft_pos room onward.left
        rw [one, List.length_cons]
        omega

/-- A run counts in bounds. -/
theorem counts_run (budgeted : transfer.Budgeted options start stop) (fits : stop ≤ maxOffset)
    (counts : ∀ event ∈ transfer.events, event.Counts options.errorRetries.toNat) (count : Nat) :
    ∀ event ∈ (transfer.run options start count).1.events,
      event.Counts options.errorRetries.toNat :=
  (run_keeps (fun transfer => transfer.Budgeted options start stop ∧
      ∀ event ∈ transfer.events, event.Counts options.errorRetries.toNat)
    (fun _ ⟨budgeted, counts⟩ => ⟨budgeted.step fits, budgeted.counts_step fits counts⟩) count
    ⟨budgeted, counts⟩).2

/-- A transfer comes to its end, or it gets to where its device interrupts every read. -/
theorem ends_or_interrupted (fits : stop ≤ maxOffset) {transfer : Transfer σ}
    (budgeted : transfer.Budgeted options start stop) :
    (∃ enough final result, result ≠ .pending ∧
      ∀ more, transfer.run options start (enough + more) = (final, result)) ∨
    ∃ later, transfer.Passes options start later ∧ later.InterruptedForever options start := by
  induction left : transfer.triesLeft options using Nat.strongRecOn generalizing transfer with
  | ind left ih =>
    subst left
    by_cases stuck : transfer.InterruptedForever options start
    · exact .inr ⟨transfer, .refl _, stuck⟩
    -- Some step on the way is not interrupted: it ends the transfer, or it uses up a try.
    obtain ⟨later, reached⟩ := Classical.not_forall.mp stuck
    obtain ⟨passes, counted⟩ := Classical.not_imp.mp reached
    obtain ⟨onward, _, _, used⟩ := budgeted.passes fits passes
    have spends := onward.step_spends fits
    cases step : later.step options start with
    | ended final result =>
      rw [step] at spends
      cases spends with
      | ended decided =>
        obtain ⟨steps, runs⟩ := passes.leadsTo
        refine .inl ⟨steps + 1, final, result, decided, fun more => ?_⟩
        rw [Nat.add_assoc, runs, Nat.add_comm 1 more, run, step]
    | more next =>
      have again := onward.step_more fits step
      rw [step] at spends
      cases spends with
      | interrupted fetches interrupted => exact absurd ⟨_, fetches, interrupted⟩ counted
      | tried room _ _ nearer =>
        have less := triesLeft_lt room onward.left nearer
        have forth : transfer.Passes options start next := passes.trans (.head step (.refl _))
        rcases ih _ (Nat.lt_of_lt_of_le less (by omega)) again rfl with
          ⟨enough, final, result, decided, ends⟩ | ⟨stuck, rest, forever⟩
        · obtain ⟨steps, runs⟩ := forth.leadsTo
          refine .inl ⟨steps + enough, final, result, decided, fun more => ?_⟩
          rw [Nat.add_assoc, runs, ends]
        · exact .inr ⟨stuck, forth.trans rest, forever⟩

end Budgeted

end Transfer

end StorageMedia
