import StorageMedia.Proofs.Device.Medium

/-! # Devices that always get on

A steady medium has a size that its devices report, takes every seek, and answers every read before
its end with at least one byte or with an interruption. Interruptions do not last: a read that is
tried again and again, with a seek back in between, succeeds at last. Nothing is said about how many
bytes a read gives and how often it is interrupted.

Scripted devices whose scripts hold nothing but short reads and interruptions are of this kind.
-/

namespace StorageMedia

/-- The device after some reads at an offset that came to nothing, each followed by a seek back. -/
def Device.afterRetries {σ : Type} [Device σ] (offset capacity : Nat) : Nat → σ → σ
  | 0, device => device
  | tries + 1, device =>
    afterRetries offset capacity tries (Device.seek (Device.read device capacity).device offset).1

/-- Devices of a type that read one fixed media to its end. -/
structure SteadyMedium (σ : Type) [Device σ] extends Medium σ where
  /-- Number of bytes of the media. -/
  size : Nat
  size_le : size ≤ maxSeekOffset
  resolves {device : σ} (obeys : Obeys device) :
    ∃ mediaSize, (resolveMediaSize device).result = .ok mediaSize ∧ mediaSize.toNat = size
  seeks {device : σ} {target : Nat} (obeys : Obeys device) (inside : target < size) :
    ∃ answer, (Device.seek device target).2 = .ok answer
  calm {device : σ} (obeys : Obeys device) : Device.IsCalm device
  /-- A read before the end gives bytes or is interrupted. -/
  gives {device : σ} {capacity : Nat} (obeys : Obeys device) (inside : position device < size)
    (room : 0 < capacity) :
    (∃ count, (Device.read device capacity).result = .ok count ∧ 0 < count ∧ count ≤ capacity ∧
      position device + count ≤ size) ∨
    ∃ error, (Device.read device capacity).result = .error error ∧ error.isInterrupted = true
  /-- A read before the end gives bytes when it is tried often enough. -/
  responds {device : σ} {capacity : Nat} (obeys : Obeys device) (inside : position device < size)
    (room : 0 < capacity) :
    ∃ tries count, (Device.read (Device.afterRetries (position device) capacity tries device)
      capacity).result = .ok count

def SteadyMedium.content {σ : Type} [Device σ] (medium : SteadyMedium σ) : Content :=
  ⟨medium.size, medium.byteAt⟩

/-- The step of a script reads some bytes or is interrupted. -/
def ScriptedRead.IsSteady (step : ScriptedRead) : Prop :=
  step.abort = false ∧
    match step.action with
    | .normal => True
    | .short limit => 0 < limit
    | .failed error => error.isInterrupted = true
    | _ => False

namespace ScriptedDevice

variable {template device : ScriptedDevice}

/-- The device without its script and its position, which is all of it that calls change as long as
its surface does not wear. -/
def settings (device : ScriptedDevice) : ScriptedDevice :=
  { device with script := [], position := 0 }

/-- The device is like another one, whose content it reads in pieces of any size, with
interruptions. -/
structure IsSteady (device template : ScriptedDevice) : Prop where
  same : device.settings = template.settings
  script : ∀ step ∈ device.script, step.IsSteady
  surface : device.surface = []
  badSeeks : device.badSeeks = []
  maxRead : device.maxRead ≠ some 0
  mediaSize : ∃ size, device.mediaSize = .ok (some size) ∧ 0 < size ∧
    size.toNat = template.content.size

namespace IsSteady

theorem content (steady : device.IsSteady template) : device.content = template.content :=
  congrArg (·.content) steady.same

/-- A steady device goes on through its script, wherever it is moved. -/
theorem tail (steady : device.IsSteady template) (position : Nat) :
    IsSteady { device with script := device.script.tail, position } template :=
  ⟨steady.same, fun step member => steady.script step (List.mem_of_mem_tail member),
    steady.surface, steady.badSeeks, steady.maxRead, steady.mediaSize⟩

theorem moved (steady : device.IsSteady template) (position : Nat) :
    IsSteady { device with position } template :=
  ⟨steady.same, steady.script, steady.surface, steady.badSeeks, steady.maxRead, steady.mediaSize⟩

theorem isHonest (steady : device.IsSteady template) : device.IsHonest := by
  intro step member boasts
  have allowed := (steady.script step member).2
  rw [boasts] at allowed
  exact allowed

theorem seek (steady : device.IsSteady template) (target : Nat) :
    device.seek target = ({ device with position := target }, .ok target) := by
  simp only [ScriptedDevice.seek, steady.badSeeks]
  rfl

private theorem head (steady : device.IsSteady template) :
    (device.script.headD {}).IsSteady := by
  cases script : device.script with
  | nil => exact ⟨rfl, trivial⟩
  | cons step rest => exact steady.script step (by simp [script])

end IsSteady

structure Interrupts (device : ScriptedDevice) (capacity : Nat) : Prop where
  reports : ∃ error, (device.read capacity).result = .error error ∧ error.isInterrupted = true
  leaves : (device.read capacity).device = { device with script := device.script.tail }
  scripted : device.script ≠ []

/-- The next read of the device gives so many bytes of a content. -/
structure Gives (content : Content) (device : ScriptedDevice) (capacity count : Nat) : Prop where
  reports : (device.read capacity).result = .ok count
  leaves : (device.read capacity).device =
    { device with script := device.script.tail, position := device.position + count }
  fits : count ≤ capacity
  inside : count ≤ content.size - device.position
  some : 0 < capacity → device.position < content.size → 0 < count

private theorem IsSteady.readSurface (steady : device.IsSteady template) (limit capacity : Nat) :
    ∃ bytes, device.readSurface limit capacity =
        ({ device with position := device.position + bytes.size }, .ok bytes) ∧
      bytes.size = min (min (min capacity limit) (device.maxRead.getD capacity))
        (template.content.size - device.position) := by
  simp only [ScriptedDevice.readSurface, steady.surface]
  refine ⟨_, rfl, ?_⟩
  rw [← Bytes.length_toList, Bytes.toList_ofContent, Content.length_slice, steady.content]
  rfl

private theorem IsSteady.gives (steady : device.IsSteady template) {capacity limit : Nat}
    (positive : 0 < capacity → 0 < limit)
    (reads : ∀ after bytes,
      ({ device with script := device.script.tail } : ScriptedDevice).readSurface limit capacity =
        (after, .ok bytes) →
      (device.read capacity).device = after ∧ (device.read capacity).result = .ok bytes.size) :
    ∃ count, device.Gives template.content capacity count := by
  obtain ⟨bytes, found, size⟩ := (steady.tail device.position).readSurface limit capacity
  obtain ⟨leaves, reports⟩ := reads _ _ found
  dsimp only at size
  have most : 0 < capacity → 0 < device.maxRead.getD capacity := by
    intro room
    cases limit : device.maxRead with
    | none => exact room
    | some limit =>
      refine Nat.pos_of_ne_zero ?_
      rintro rfl
      exact steady.maxRead limit
  refine ⟨bytes.size, reports, leaves, ?_, ?_, ?_⟩
  · omega
  · omega
  · intro room inside
    have limited := positive room
    have capped := most room
    omega

/-- A read of a steady device is interrupted or gives bytes. -/
theorem IsSteady.read_cases (steady : device.IsSteady template) (capacity : Nat) :
    (device.read capacity).abort = false ∧
      (device.Interrupts capacity ∨ ∃ count, device.Gives template.content capacity count) := by
  obtain ⟨calm, allowed⟩ := steady.head
  have quiet : (device.read capacity).abort = (device.script.headD {}).abort := by
    simp only [read]
    split <;> (try split) <;> rfl
  refine ⟨quiet.trans calm, ?_⟩
  cases action : (device.script.headD {}).action with
  | normal =>
    refine .inr (steady.gives id fun after bytes found => ?_)
    simp only [read, action, found, and_self]
  | short limit =>
    rw [action] at allowed
    refine .inr (steady.gives (fun _ => allowed) fun after bytes found => ?_)
    simp only [read, action, found, and_self]
  | failed error =>
    rw [action] at allowed
    refine .inl ⟨⟨error, by simp only [read, action], allowed⟩, by simp only [read, action], ?_⟩
    intro empty
    simp [empty] at action
  | ended =>
    rw [action] at allowed
    exact allowed.elim
  | «over» excess =>
    rw [action] at allowed
    exact allowed.elim

theorem IsSteady.read (steady : device.IsSteady template) (capacity : Nat) :
    (device.read capacity).device.IsSteady template := by
  rcases (steady.read_cases capacity).2 with interrupts | ⟨count, gives⟩
  · rw [interrupts.leaves]
    exact steady.tail device.position
  · rw [gives.leaves]
    exact steady.tail _

theorem IsSteady.afterQuery (steady : device.IsSteady template) (query : Query) :
    (Device.afterQuery query device).IsSteady template := by
  cases query with
  | seekEnd =>
    simp only [Device.afterQuery, Device.seekEnd, seekToEnd]
    split
    · exact steady.moved _
    · exact steady
  | _ => exact steady

private theorem IsSteady.responds {capacity : Nat} {device : ScriptedDevice}
    (steady : device.IsSteady template) :
    ∃ tries count, (Device.read (Device.afterRetries device.position capacity tries device)
      capacity).result = .ok count := by
  -- Every interruption takes a step off the script, and behind the script there are none.
  induction script : device.script generalizing device with
  | nil =>
    rcases (steady.read_cases capacity).2 with interrupts | ⟨count, gives⟩
    · exact absurd script interrupts.scripted
    · exact ⟨0, count, gives.reports⟩
  | cons step rest ih =>
    rcases (steady.read_cases capacity).2 with interrupts | ⟨count, gives⟩
    · obtain ⟨tries, count, responds⟩ := ih (steady.tail device.position) (by simp [script])
      have back : (Device.seek (Device.read device capacity).device device.position).1 =
          { device with script := device.script.tail } := by
        rw [show Device.read device capacity = device.read capacity from rfl, interrupts.leaves]
        exact congrArg Prod.fst ((steady.tail device.position).seek device.position)
      refine ⟨tries + 1, count, ?_⟩
      rw [Device.afterRetries, back]
      exact responds
    · exact ⟨0, count, gives.reports⟩

private theorem IsSteady.sought (steady : device.IsSteady template) (target : Nat) :
    (Device.seek device target).1.IsSteady template := by
  rw [show Device.seek device target = device.seek target from rfl, steady.seek target]
  exact steady.moved target

private theorem IsSteady.resolves (steady : device.IsSteady template) :
    ∃ mediaSize, (resolveMediaSize device).result = .ok mediaSize ∧
      mediaSize.toNat = template.content.size := by
  obtain ⟨size, reported, positive, same⟩ := steady.mediaSize
  refine ⟨size, ?_, same⟩
  have answer : (Device.mediaSize device).2 = .ok (some size) := reported
  have metadata : (sizeFromMetadata device).result = .ok (some size) := by
    simp only [sizeFromMetadata, answer, positive, if_true]
  rw [resolveMediaSize, Outcome.andThen_of_ok metadata]
  rfl

private theorem IsSteady.getsOn (steady : device.IsSteady template) {capacity : Nat}
    (inside : device.position < template.content.size) (room : 0 < capacity) :
    (∃ count, (device.read capacity).result = .ok count ∧ 0 < count ∧ count ≤ capacity ∧
      device.position + count ≤ template.content.size) ∨
    ∃ error, (device.read capacity).result = .error error ∧ error.isInterrupted = true := by
  rcases (steady.read_cases capacity).2 with interrupts | ⟨count, gives⟩
  · exact .inr interrupts.reports
  · have most := gives.inside
    have ends : device.position + count ≤ template.content.size := by omega
    exact .inl ⟨count, gives.reports, gives.some room inside, gives.fits, ends⟩

private theorem IsSteady.obeys (steady : device.IsSteady template) :
    (medium template.content).Obeys device :=
  ⟨steady.content, steady.isHonest⟩

/-- Scripted devices with short reads and interruptions read the content that they were given. -/
def steadyMedium (template : ScriptedDevice) (fits : template.content.size ≤ maxSeekOffset) :
    SteadyMedium ScriptedDevice where
  toMedium :=
    { medium template.content with
      Obeys := (·.IsSteady template)
      obeys_read := fun steady capacity => steady.read capacity
      obeys_seek := fun steady target => steady.sought target
      obeys_query := fun steady query => steady.afterQuery query
      position_read := fun steady => (medium template.content).position_read steady.obeys
      position_seek := fun steady => (medium template.content).position_seek steady.obeys
      position_failed_seek := fun steady =>
        (medium template.content).position_failed_seek steady.obeys
      position_query := fun steady => (medium template.content).position_query steady.obeys
      stored_read := fun steady => (medium template.content).stored_read steady.obeys }
  size := template.content.size
  size_le := fits
  resolves := fun steady => steady.resolves
  seeks := fun steady _ => ⟨_, congrArg Prod.snd (steady.seek _)⟩
  calm := fun steady =>
    ⟨fun capacity => (steady.read_cases capacity).1, fun _ => rfl, fun _ => rfl⟩
  gives := fun steady => steady.getsOn
  responds := fun steady _ _ => steady.responds

/-- Ten bytes that are read in pieces of three at most, with two interruptions. -/
def hesitant : ScriptedDevice where
  content := .pattern 10
  maxRead := some 3
  script := [{ action := .failed (.system 4) }, { action := .short 1 },
    { action := .failed (.system 4) }]
  mediaSize := .ok (some 10)
  seekEnd := .ok 10
  bytesPerSector := .ok (some 2)

theorem isSteady_hesitant : hesitant.IsSteady hesitant where
  same := rfl
  script := by
    simp only [hesitant, ScriptedRead.IsSteady, List.mem_cons, List.not_mem_nil, or_false]
    rintro step (rfl | rfl | rfl) <;> exact ⟨rfl, by decide⟩
  surface := rfl
  badSeeks := rfl
  maxRead := by decide
  mediaSize := ⟨10, rfl, by decide, rfl⟩

end ScriptedDevice

end StorageMedia
