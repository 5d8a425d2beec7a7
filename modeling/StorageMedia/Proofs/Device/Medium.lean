import StorageMedia.Device.Scripted
import StorageMedia.Proofs.Device.Inquiry

/-! # Devices that stand somewhere and media that keep their bytes

`Positioned` says when a device has a position: a seek that succeeds sets it, a seek that fails
leaves it, a read that reports no more bytes than it was asked for moves past them, and of the
questions only a seek to the end moves the device. A failed read may leave the device anywhere.
`Medium` adds that such a read stores the bytes of a fixed media.

The laws bind a set of states that no operation leaves, so that one type of devices may hold
devices that obey them beside others that do not. Scripted devices show both: their script may
report bytes that were never stored.
-/

namespace StorageMedia

/-- Devices of a type that stand at a position. -/
structure Positioned (σ : Type) [Device σ] where
  /-- The states that the laws bind. -/
  Obeys : σ → Prop
  /-- Where a device stands. -/
  position : σ → Nat
  obeys_read {device : σ} (obeys : Obeys device) (capacity : Nat) :
    Obeys (Device.read device capacity).device
  obeys_seek {device : σ} (obeys : Obeys device) (target : Nat) :
    Obeys (Device.seek device target).1
  obeys_query {device : σ} (obeys : Obeys device) (query : Query) :
    Obeys (Device.afterQuery query device)
  position_read {device : σ} {capacity count : Nat} (obeys : Obeys device)
    (read : (Device.read device capacity).result = .ok count) (fits : count ≤ capacity) :
    position (Device.read device capacity).device = position device + count
  position_seek {device : σ} {target answer : Nat} (obeys : Obeys device)
    (sought : (Device.seek device target).2 = .ok answer) :
    position (Device.seek device target).1 = target
  position_failed_seek {device : σ} {target : Nat} {error : IoError} (obeys : Obeys device)
    (failed : (Device.seek device target).2 = .error error) :
    position (Device.seek device target).1 = position device
  position_query {device : σ} {query : Query} (obeys : Obeys device) (quiet : query ≠ .seekEnd) :
    position (Device.afterQuery query device) = position device

/-- Devices of a type that read one fixed media. -/
structure Medium (σ : Type) [Device σ] extends Positioned σ where
  /-- The byte at each offset of the media. -/
  byteAt : Nat → UInt8
  /-- A read that reports no more bytes than it was asked for has stored those of its position. What
  it leaves behind them is its own affair. -/
  stored_read {device : σ} {capacity count : Nat} (obeys : Obeys device)
    (read : (Device.read device capacity).result = .ok count) (fits : count ≤ capacity) :
    (Device.read device capacity).stored.toList.take count =
      (List.range' (position device) count).map byteAt

namespace ScriptedDevice

/-- A script that never reports bytes that were not stored. -/
def IsHonest (device : ScriptedDevice) : Prop :=
  ∀ step ∈ device.script, step.action ≠ .over 0

private theorem readSurface_error {device after : ScriptedDevice} {limit capacity : Nat}
    {error : IoError} (failed : device.readSurface limit capacity = (after, .error error)) :
    after.content = device.content ∧ after.script = device.script := by
  simp only [readSurface] at failed
  split at failed
  · cases failed
    exact ⟨rfl, rfl⟩
  · simp at failed

private theorem readSurface_ok {device after : ScriptedDevice} {limit capacity : Nat}
    {bytes : Bytes} (read : device.readSurface limit capacity = (after, .ok bytes)) :
    after.content = device.content ∧ after.script = device.script ∧
      after.position = device.position + bytes.size ∧
      bytes.toList = (List.range' device.position bytes.size).map device.content.byteAt := by
  simp only [readSurface] at read
  split at read
  · simp at read
  · cases read
    refine ⟨rfl, rfl, rfl, ?_⟩
    rw [← Bytes.length_toList, Bytes.toList_ofContent, Content.length_slice]
    rfl

/-- The device after its read keeps its content and goes on with the rest of its script. -/
theorem read_frame (device : ScriptedDevice) (capacity : Nat) :
    (device.read capacity).device.content = device.content ∧
      (device.read capacity).device.script = device.script.tail := by
  cases action : (device.script.headD {}).action with
  | normal | short =>
    simp only [read, action]
    split
    · next found => exact ⟨(readSurface_ok found).1, (readSurface_ok found).2.1⟩
    · next found => exact readSurface_error found
  | ended | «over» | failed =>
    simp only [read, action, and_self]

/-- A read stores the bytes that it reports and moves past them, unless its step only counts them. -/
theorem read_ok_of_head {device : ScriptedDevice} {capacity count : Nat}
    (head : (device.script.headD {}).action = .over 0 → count < capacity)
    (read : (device.read capacity).result = .ok count) (fits : count ≤ capacity) :
    (device.read capacity).device.position = device.position + count ∧
      (device.read capacity).stored.toList.take count =
        (List.range' device.position count).map device.content.byteAt := by
  cases action : (device.script.headD {}).action with
  | normal | short =>
    simp only [ScriptedDevice.read, action] at read ⊢
    split at read
    · next found =>
      obtain ⟨_, _, moved, stored⟩ := readSurface_ok found
      simp only [Except.ok.injEq] at read
      subst read
      refine ⟨moved, ?_⟩
      rw [scribbled, Bytes.toList_append, ← Bytes.length_toList, List.take_left, stored]
      simp
    · simp at read
  | ended =>
    simp only [ScriptedDevice.read, action, Except.ok.injEq] at read ⊢
    subst read
    simp
  | «over» excess =>
    -- Such a step reports too much unless its excess is zero.
    simp only [ScriptedDevice.read, action, Except.ok.injEq] at read
    obtain rfl : excess = 0 := by omega
    have part := head action
    omega
  | failed => simp only [ScriptedDevice.read, action, reduceCtorEq] at read

/-- A read of an honest script stores the bytes that it reports and moves past them. -/
theorem read_ok {device : ScriptedDevice} {capacity count : Nat} (honest : device.IsHonest)
    (read : (device.read capacity).result = .ok count) (fits : count ≤ capacity) :
    (device.read capacity).device.position = device.position + count ∧
      (device.read capacity).stored.toList.take count =
        (List.range' device.position count).map device.content.byteAt := by
  refine read_ok_of_head (fun boasts => ?_) read fits
  cases script : device.script with
  | nil => simp [script] at boasts
  | cons step rest => exact absurd (by simpa [script] using boasts) (honest step (by simp [script]))

private theorem seek_frame (device : ScriptedDevice) (target : Nat) :
    (device.seek target).1.content = device.content ∧
      (device.seek target).1.script = device.script := by
  simp only [seek]
  split <;> exact ⟨rfl, rfl⟩

private theorem afterQuery_frame (device : ScriptedDevice) (query : Query) :
    (Device.afterQuery query device).content = device.content ∧
      (Device.afterQuery query device).script = device.script := by
  cases query with
  | seekEnd =>
    simp only [Device.afterQuery, Device.seekEnd, seekToEnd]
    split <;> exact ⟨rfl, rfl⟩
  | _ => exact ⟨rfl, rfl⟩

/-- Scripted devices with honest scripts read the content that they were given. -/
def medium (content : Content) : Medium ScriptedDevice where
  Obeys device := device.content = content ∧ device.IsHonest
  position := ScriptedDevice.position
  byteAt := content.byteAt
  obeys_read := by
    rintro device ⟨same, honest⟩ capacity
    obtain ⟨content, script⟩ := device.read_frame capacity
    refine ⟨content.trans same, fun step member => honest step ?_⟩
    exact List.mem_of_mem_tail (script ▸ member)
  obeys_seek := by
    rintro device ⟨same, honest⟩ target
    obtain ⟨content, script⟩ := device.seek_frame target
    exact ⟨content.trans same, fun step member => honest step (script ▸ member)⟩
  obeys_query := by
    rintro device ⟨same, honest⟩ query
    obtain ⟨content, script⟩ := device.afterQuery_frame query
    exact ⟨content.trans same, fun step member => honest step (script ▸ member)⟩
  position_read obeys read fits := (read_ok obeys.2 read fits).1
  position_seek := by
    intro device target answer _ sought
    simp only [Device.seek, seek] at sought ⊢
    split at sought
    · simp at sought
    · rfl
  position_failed_seek := by
    intro device target error _ failed
    simp only [Device.seek, seek] at failed ⊢
    split at failed
    · rfl
    · simp at failed
  position_query := by
    intro device query _ quiet
    cases query with
    | seekEnd => exact absurd rfl quiet
    | _ => rfl
  stored_read := by
    rintro device capacity count ⟨same, honest⟩ read fits
    rw [← same]
    exact (read_ok honest read fits).2

/-- Twelve bytes of which two cannot be read. The second read fails after it wrote to the buffer. -/
def damaged : ScriptedDevice where
  content := .pattern 12
  surface := [{ start := 3, stop := 5, code := 5 }]
  script := [{}, { action := .failed (.system 5), scribble := 4 }]
  mediaSize := .ok (some 12)
  seekEnd := .ok 12

theorem obeys_damaged : (medium (.pattern 12)).Obeys damaged :=
  ⟨rfl, by simp [IsHonest, damaged]⟩

/-- Ten bytes, of which the second read reports three more than it was asked for. -/
def boastful : ScriptedDevice where
  content := .pattern 10
  script := [{ action := .short 2 }, { action := .over 3, scribble := 9 }]
  mediaSize := .ok (some 10)
  seekEnd := .ok 10

end ScriptedDevice

end StorageMedia
