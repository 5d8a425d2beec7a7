import StorageMedia.Proofs.Device.Damaged
import StorageMedia.Proofs.Device.Steady

/-! # Devices with failures that can be tolerated

A tolerable medium takes every seek before its end, and every read before its end gives at least one
byte or fails in a way that is worth a retry. Which of the two happens may change from read to read.
Reads may also be interrupted, but not for ever: a read that is tried again and again, with a seek
back in between, is not interrupted at last. Nothing is said about the bytes.

Scripted devices whose scripts neither report the end nor boast are of this kind, whatever fails, as
long as it fails in such a way.
-/

namespace StorageMedia

namespace IoError

variable {error : IoError}

/-- A device that is gone, that refuses reads or that cannot seek fails the same way every time. -/
def IsFinal (error : IoError) : Prop :=
  error ∈ [system SystemError.illegalSeek, system SystemError.notPermitted,
    system SystemError.noDeviceOrAddress, system SystemError.noDevice]

/-- All other failures are worth a retry. -/
theorem isRetryable_iff : error.isRetryable = true ↔ ¬error.IsFinal := by
  cases error <;> simp [isRetryable, IsFinal, code?, and_assoc]

end IoError

/-- Devices of a type that can be read with tolerance. -/
structure TolerableMedium (σ : Type) [Device σ] extends Positioned σ where
  /-- Number of bytes that can be asked for. -/
  size : Nat
  seeks {device : σ} {target : Nat} (obeys : Obeys device) (inside : target < size) :
    ∃ answer, (Device.seek device target).2 = .ok answer
  calm {device : σ} (obeys : Obeys device) : Device.IsCalm device
  /-- A read before the end gives bytes or fails in a way that may be tried again. -/
  answers {device : σ} {capacity : Nat} (obeys : Obeys device) (inside : position device < size)
    (room : 0 < capacity) :
    (∃ count, (Device.read device capacity).result = .ok count ∧ 0 < count ∧ count ≤ capacity) ∨
    ∃ error, (Device.read device capacity).result = .error error ∧
      (error.isInterrupted = true ∨ ¬error.IsFinal)
  /-- A read before the end is not interrupted when it is tried often enough. -/
  settles {device : σ} {capacity : Nat} (obeys : Obeys device) (inside : position device < size)
    (room : 0 < capacity) :
    ∃ tries, ∀ error, (Device.read (Device.afterRetries (position device) capacity tries device)
      capacity).result = .error error → error.isInterrupted = false

/-- The step of a script reads some bytes or fails in a way that can be tolerated. -/
def ScriptedRead.IsTolerable (step : ScriptedRead) : Prop :=
  step.abort = false ∧
    match step.action with
    | .normal => True
    | .short limit => 0 < limit
    | .failed error => error.isInterrupted = true ∨ error.isRetryable = true
    | _ => False

namespace ScriptedDevice

variable {content : Content} {device : ScriptedDevice} {capacity : Nat}

/-- The device reads a content with failures that can be tolerated. Its bad regions may heal. -/
structure IsTolerable (content : Content) (device : ScriptedDevice) : Prop where
  content : device.content = content
  script : ∀ step ∈ device.script, step.IsTolerable
  surface : ∀ region ∈ device.surface, (IoError.system region.code).isInterrupted = false ∧
    (IoError.system region.code).isRetryable = true
  badSeeks : device.badSeeks = []
  maxRead : device.maxRead ≠ some 0

end ScriptedDevice

/-- Failed reads change no error of a region. -/
theorem Surface.code_of_mem_wear {surface : Surface} {position : Nat} {region : BadRegion}
    (member : region ∈ surface.wear position) : ∃ before ∈ surface, before.code = region.code := by
  induction surface with
  | nil => exact absurd member List.not_mem_nil
  | cons first rest ih =>
    rw [wear] at member
    split at member
    · rcases List.mem_cons.mp member with rfl | later
      · exact ⟨first, List.mem_cons_self, rfl⟩
      · exact ⟨region, List.mem_cons_of_mem first later, rfl⟩
    · rcases List.mem_cons.mp member with rfl | later
      · exact ⟨region, List.mem_cons_self, rfl⟩
      · obtain ⟨before, earlier, same⟩ := ih later
        exact ⟨before, List.mem_cons_of_mem first earlier, same⟩

namespace ScriptedDevice

variable {content : Content} {device : ScriptedDevice} {capacity : Nat}

namespace IsTolerable

/-- The device may be moved, go on in its script and have its surface worn. -/
theorem goesOn (tolerable : device.IsTolerable content) {next : ScriptedDevice}
    (same : next.content = device.content) (script : next.script ⊆ device.script)
    (surface : ∀ region ∈ next.surface, ∃ before ∈ device.surface, before.code = region.code)
    (badSeeks : next.badSeeks = device.badSeeks) (maxRead : next.maxRead = device.maxRead) :
    next.IsTolerable content where
  content := same.trans tolerable.content
  script step member := tolerable.script step (script member)
  surface region member := by
    obtain ⟨before, earlier, code⟩ := surface region member
    rw [← code]
    exact tolerable.surface before earlier
  badSeeks := badSeeks.trans tolerable.badSeeks
  maxRead := maxRead ▸ tolerable.maxRead

theorem isHonest (tolerable : device.IsTolerable content) : device.IsHonest := by
  intro step member boasts
  have allowed := (tolerable.script step member).2
  rw [boasts] at allowed
  exact allowed

theorem seek (tolerable : device.IsTolerable content) (target : Nat) :
    device.seek target = ({ device with position := target }, .ok target) := by
  simp only [ScriptedDevice.seek, tolerable.badSeeks]
  rfl

private theorem head (tolerable : device.IsTolerable content) :
    (device.script.headD {}).IsTolerable := by
  cases script : device.script with
  | nil => exact ⟨rfl, trivial⟩
  | cons step rest => exact tolerable.script step (by simp [script])

theorem tail (tolerable : device.IsTolerable content) :
    IsTolerable content { device with script := device.script.tail } :=
  tolerable.goesOn rfl (fun _ => List.mem_of_mem_tail) (fun region member => ⟨region, member, rfl⟩)
    rfl rfl

theorem moved (tolerable : device.IsTolerable content) (position : Nat) :
    IsTolerable content { device with position } :=
  tolerable.goesOn rfl (List.Subset.refl _) (fun region member => ⟨region, member, rfl⟩) rfl rfl

private theorem readSurface_cases (tolerable : device.IsTolerable content) (limit capacity : Nat) :
    (∃ after error, device.readSurface limit capacity = (after, .error error) ∧
      after.IsTolerable content ∧ error.isInterrupted = false ∧ error.isRetryable = true) ∨
    ∃ after bytes, device.readSurface limit capacity = (after, .ok bytes) ∧
      after.IsTolerable content ∧ bytes.size ≤ capacity ∧
      (0 < limit → 0 < capacity → device.position < content.size → 0 < bytes.size) := by
  cases fault : device.surface.fault? device.position with
  | some code =>
    obtain ⟨region, member, rfl⟩ := Surface.exists_of_fault fault
    obtain ⟨counted, retryable⟩ := tolerable.surface region member
    refine .inl ⟨{ device with surface := device.surface.wear device.position }, _, ?_, ?_, counted,
      retryable⟩
    · simp only [readSurface, fault]
    · exact tolerable.goesOn rfl (List.Subset.refl _) (fun _ => Surface.code_of_mem_wear) rfl rfl
  | none =>
    generalize asked : min (min capacity limit) (device.maxRead.getD capacity) = length
    have most := Surface.reach_le device.surface device.position length
    obtain ⟨bytes, given⟩ : ∃ bytes, bytes = Bytes.ofContent device.content device.position
        (device.surface.reach device.position length) := ⟨_, rfl⟩
    have size : bytes.size = min (device.surface.reach device.position length)
        (content.size - device.position) := by
      rw [given, ← Bytes.length_toList, Bytes.toList_ofContent, Content.length_slice,
        tolerable.content]
    refine .inr ⟨{ device with position := device.position + bytes.size }, bytes, ?_,
      tolerable.moved _, by omega, fun some room inside => ?_⟩
    · simp only [readSurface, fault, asked, given]
    · have capped : 0 < device.maxRead.getD capacity := by
        cases cap : device.maxRead with
        | none => exact room
        | some cap =>
          refine Nat.pos_of_ne_zero ?_
          rintro rfl
          exact tolerable.maxRead cap
      have reached : 0 < device.surface.reach device.position length :=
        Surface.reach_pos (by omega)
      omega

end IsTolerable

/-- What a read of a device that can be tolerated comes to. -/
inductive ReadsTolerably (content : Content) (device : ScriptedDevice) (capacity : Nat) : Prop
  | bytes {count : Nat} (reports : (device.read capacity).result = .ok count)
      (fits : count ≤ capacity)
      (some : 0 < capacity → device.position < content.size → 0 < count)
  | failure {error : IoError} (reports : (device.read capacity).result = .error error)
      (counted : error.isInterrupted = false) (retryable : error.isRetryable = true)
  | interruption (interrupts : device.Interrupts capacity)

namespace IsTolerable

/-- A read leaves a device that can be tolerated. -/
theorem read_cases (tolerable : device.IsTolerable content) (capacity : Nat) :
    (device.read capacity).abort = false ∧ (device.read capacity).device.IsTolerable content ∧
      device.ReadsTolerably content capacity := by
  obtain ⟨calm, allowed⟩ := tolerable.head
  have quiet : (device.read capacity).abort = (device.script.headD {}).abort := by
    simp only [ScriptedDevice.read]
    split <;> (try split) <;> rfl
  refine ⟨quiet.trans calm, ?_⟩
  -- A step that reads the surface comes to what that comes to.
  have surface {limit : Nat} (positive : 0 < capacity → 0 < limit)
      (reads : ∀ after result,
        ({ device with script := device.script.tail } : ScriptedDevice).readSurface limit capacity =
          (after, result) →
        (device.read capacity).device = after ∧
          (device.read capacity).result = result.map Bytes.size) :
      (device.read capacity).device.IsTolerable content ∧
        device.ReadsTolerably content capacity := by
    rcases tolerable.tail.readSurface_cases limit capacity with
      ⟨after, error, found, still, counted, retryable⟩ | ⟨after, bytes, found, still, fits, some⟩
    · obtain ⟨leaves, reports⟩ := reads _ _ found
      exact ⟨leaves ▸ still, .failure reports counted retryable⟩
    · obtain ⟨leaves, reports⟩ := reads _ _ found
      exact ⟨leaves ▸ still, .bytes reports fits fun room => some (positive room) room⟩
  cases action : (device.script.headD {}).action with
  | normal =>
    refine surface id fun after result found => ?_
    simp only [ScriptedDevice.read, action, found]
    cases result <;> exact ⟨rfl, rfl⟩
  | short limit =>
    rw [action] at allowed
    refine surface (fun _ => allowed) fun after result found => ?_
    simp only [ScriptedDevice.read, action, found]
    cases result <;> exact ⟨rfl, rfl⟩
  | failed error =>
    rw [action] at allowed
    have leaves : (device.read capacity).device = { device with script := device.script.tail } := by
      simp only [ScriptedDevice.read, action]
    have reports : (device.read capacity).result = .error error := by
      simp only [ScriptedDevice.read, action]
    refine ⟨leaves ▸ tolerable.tail, ?_⟩
    cases interrupted : error.isInterrupted with
    | true =>
      refine .interruption ⟨⟨error, reports, interrupted⟩, leaves, fun empty => ?_⟩
      simp [empty] at action
    | false =>
      refine .failure reports interrupted (allowed.resolve_left ?_)
      simp [interrupted]
  | ended | «over» =>
    rw [action] at allowed
    exact allowed.elim

theorem afterQuery (tolerable : device.IsTolerable content) (query : Query) :
    (Device.afterQuery query device).IsTolerable content := by
  cases query with
  | seekEnd =>
    simp only [Device.afterQuery, Device.seekEnd, seekToEnd]
    split
    · exact tolerable.moved _
    · exact tolerable
  | _ => exact tolerable

private theorem settled_or_interrupts (tolerable : device.IsTolerable content) (capacity : Nat) :
    (∀ error, (device.read capacity).result = .error error → error.isInterrupted = false) ∨
      device.Interrupts capacity := by
  cases (tolerable.read_cases capacity).2.2 with
  | bytes reports => exact .inl fun error failed => by simp [reports] at failed
  | failure reports counted =>
    refine .inl fun error failed => ?_
    obtain rfl := Except.error.inj (reports.symm.trans failed)
    exact counted
  | interruption interrupts => exact .inr interrupts

private theorem settles {device : ScriptedDevice} (tolerable : device.IsTolerable content) :
    ∃ tries, ∀ error, (Device.read (Device.afterRetries device.position capacity tries device)
      capacity).result = .error error → error.isInterrupted = false := by
  -- Every interruption takes a step off the script, and behind the script there are none.
  induction script : device.script generalizing device with
  | nil =>
    rcases tolerable.settled_or_interrupts capacity with settled | interrupts
    · exact ⟨0, settled⟩
    · exact absurd script interrupts.scripted
  | cons step rest ih =>
    rcases tolerable.settled_or_interrupts capacity with settled | interrupts
    · exact ⟨0, settled⟩
    · obtain ⟨tries, settled⟩ := ih tolerable.tail (by simp [script])
      have back : (Device.seek (Device.read device capacity).device device.position).1 =
          { device with script := device.script.tail } := by
        rw [show Device.read device capacity = device.read capacity from rfl, interrupts.leaves]
        exact congrArg Prod.fst (tolerable.tail.seek device.position)
      refine ⟨tries + 1, ?_⟩
      rw [Device.afterRetries, back]
      exact settled

private theorem answers (tolerable : device.IsTolerable content) (room : 0 < capacity)
    (inside : device.position < content.size) :
    (∃ count, (device.read capacity).result = .ok count ∧ 0 < count ∧ count ≤ capacity) ∨
    ∃ error, (device.read capacity).result = .error error ∧
      (error.isInterrupted = true ∨ ¬error.IsFinal) := by
  cases (tolerable.read_cases capacity).2.2 with
  | bytes reports fits some => exact .inl ⟨_, reports, some room inside, fits⟩
  | failure reports _ retryable =>
    exact .inr ⟨_, reports, .inr (IoError.isRetryable_iff.mp retryable)⟩
  | interruption interrupts =>
    obtain ⟨error, reports, interrupted⟩ := interrupts.reports
    exact .inr ⟨error, reports, .inl interrupted⟩

private theorem sought (tolerable : device.IsTolerable content) (target : Nat) :
    (Device.seek device target).1.IsTolerable content := by
  rw [show Device.seek device target = device.seek target from rfl, tolerable.seek target]
  exact tolerable.moved target

private theorem obeys (tolerable : device.IsTolerable content) :
    (medium content).Obeys device :=
  ⟨tolerable.content, tolerable.isHonest⟩

end IsTolerable

/-- Scripted devices with failures that can be tolerated can be read with tolerance as far as their
content goes. -/
def tolerableMedium (content : Content) : TolerableMedium ScriptedDevice where
  toPositioned :=
    { (medium content).toPositioned with
      Obeys := (·.IsTolerable content)
      obeys_read := fun tolerable capacity => (tolerable.read_cases capacity).2.1
      obeys_seek := fun tolerable target => tolerable.sought target
      obeys_query := fun tolerable query => tolerable.afterQuery query
      position_read := fun tolerable => (medium content).position_read tolerable.obeys
      position_seek := fun tolerable => (medium content).position_seek tolerable.obeys
      position_failed_seek := fun tolerable =>
        (medium content).position_failed_seek tolerable.obeys
      position_query := fun tolerable => (medium content).position_query tolerable.obeys }
  size := content.size
  seeks := fun tolerable _ => ⟨_, congrArg Prod.snd (tolerable.seek _)⟩
  calm := fun tolerable =>
    ⟨fun capacity => (tolerable.read_cases capacity).1, fun _ => rfl, fun _ => rfl⟩
  answers := fun tolerable inside room => tolerable.answers room inside
  settles := fun tolerable _ _ => tolerable.settles

/-- Ten bytes with a region that heals after one failure and one that never does. Two reads are
interrupted and one comes up short. -/
def moody : ScriptedDevice where
  content := .pattern 10
  surface := [{ start := 1, stop := 2, code := 5, left := some 1 },
    { start := 6, stop := 7, code := 5 }]
  script := [{ action := .failed (.system 4) }, {}, { action := .failed (.system 4) }, {},
    { action := .short 1 }]
  mediaSize := .ok (some 10)
  seekEnd := .ok 10

theorem isTolerable_moody : moody.IsTolerable (.pattern 10) where
  content := rfl
  script := by
    simp only [moody, ScriptedRead.IsTolerable, List.mem_cons, List.not_mem_nil, or_false]
    rintro step (rfl | rfl | rfl | rfl | rfl) <;> exact ⟨rfl, by decide⟩
  surface := by
    simp only [moody, List.mem_cons, List.not_mem_nil, or_false]
    rintro region (rfl | rfl) <;> exact ⟨rfl, rfl⟩
  badSeeks := rfl
  maxRead := by decide

end ScriptedDevice

end StorageMedia
