import StorageMedia.Proofs.Device.Alike
import StorageMedia.Proofs.Device.Medium

/-! # Devices that are disturbed for a while

A disturbed device does what another device does, but for faults that come between its reads. A
fault fails one read with an error. It may write to the buffer and leave the device anywhere, but it
signals no abort, and once the device is brought back to where it stood it goes on as if the fault
had not been.

Which reads the faults come before is a list. Its next entry is for the next read: a fault, or
nothing if the read goes through. All reads behind the end of the list go through.
-/

namespace StorageMedia

/-- Devices of one type with disturbed devices of another one. -/
structure Disturbance (σ τ : Type) [Device σ] [Device τ] where
  /-- The other device does what the device does, but for the faults that are still to come. -/
  InStep : List (Option IoError) → σ → τ → Prop
  /-- The device reads at an offset, as far as that matters to it. -/
  Stands : σ → Nat → Prop
  /-- Questions show no difference. -/
  answers (faults : List (Option IoError)) : Device.AnswersAlike (InStep faults)
  /-- Seeks succeed. -/
  seeks {faults : List (Option IoError)} {device : σ} {other : τ}
    (inStep : InStep faults device other) (target : Nat) :
    (∃ answer, (Device.seek device target).2 = .ok answer) ∧
      ∃ answer, (Device.seek other target).2 = .ok answer
  sought {faults : List (Option IoError)} {device : σ} {other : τ}
    (inStep : InStep faults device other) (target : Nat) :
    InStep faults (Device.seek device target).1 (Device.seek other target).1 ∧
      Stands (Device.seek device target).1 target
  /-- Nobody signals an abort during a seek. -/
  calm {faults : List (Option IoError)} {device : σ} {other : τ}
    (inStep : InStep faults device other) (target : Nat) :
    Device.signalsInSeek device target = false ∧ Device.signalsInSeek other target = false
  /-- A read without a fault shows no difference. -/
  reads {faults : List (Option IoError)} {device : σ} {other : τ}
    (inStep : InStep faults device other) (calm : faults.head?.join = none) (capacity : Nat) :
    (Device.read other capacity).result = (Device.read device capacity).result ∧
      (Device.read other capacity).stored = (Device.read device capacity).stored ∧
      (Device.read other capacity).abort = (Device.read device capacity).abort ∧
      InStep faults.tail (Device.read device capacity).device (Device.read other capacity).device
  /-- A read that gives only a part of what it was asked for moves past it. -/
  passes {faults : List (Option IoError)} {device : σ} {other : τ} {position capacity count : Nat}
    (inStep : InStep faults device other) (stands : Stands device position)
    (read : (Device.read device capacity).result = .ok count) (part : count < capacity) :
    Stands (Device.read device capacity).device (position + count)
  /-- A fault fails a read of the other device. Brought back, that is in step again. -/
  fails {faults : List (Option IoError)} {error : IoError} {device : σ} {other : τ}
    {position : Nat} (inStep : InStep (some error :: faults) device other)
    (stands : Stands device position) (capacity : Nat) :
    (Device.read other capacity).result = .error error ∧
      (Device.read other capacity).abort = false ∧
      (∃ answer, (Device.seek (Device.read other capacity).device position).2 = .ok answer) ∧
      Device.signalsInSeek (Device.read other capacity).device position = false ∧
      InStep faults device (Device.seek (Device.read other capacity).device position).1

/-- One script is another one with faults put in. -/
inductive ScriptedRead.Woven :
    List (Option IoError) → List ScriptedRead → List ScriptedRead → Prop
  | done (script : List ScriptedRead) : Woven [] script script
  | pass {faults : List (Option IoError)} {script woven : List ScriptedRead}
      (rest : Woven faults script.tail woven) :
      Woven (none :: faults) script (script.headD {} :: woven)
  | fault {faults : List (Option IoError)} {script woven : List ScriptedRead} (error : IoError)
      (scribble : Nat) (rest : Woven faults script woven) :
      Woven (some error :: faults) script ({ action := .failed error, scribble } :: woven)

namespace ScriptedRead.Woven

variable {faults : List (Option IoError)} {script woven : List ScriptedRead}

/-- A read without a fault is for the next step of both scripts. -/
theorem next (weaves : Woven faults script woven) (calm : faults.head?.join = none) :
    woven.headD {} = script.headD {} ∧ Woven faults.tail script.tail woven.tail := by
  cases weaves with
  | done => exact ⟨rfl, .done _⟩
  | pass rest => exact ⟨rfl, rest⟩
  | fault => cases calm

end ScriptedRead.Woven

namespace ScriptedDevice

variable {device : ScriptedDevice} {script : List ScriptedRead}

private theorem read_withScript (device : ScriptedDevice) (capacity : Nat)
    (next : script.headD {} = device.script.headD {}) :
    ({ device with script } : ScriptedDevice).read capacity =
      { device.read capacity with
        device := { (device.read capacity).device with script := script.tail } } := by
  simp only [read, next]
  cases action : (device.script.headD {}).action with
  | normal | short =>
    simp only [readSurface]
    cases fault : device.surface.fault? device.position <;> rfl
  | ended | «over» | failed => rfl

private theorem badSeeks_read (device : ScriptedDevice) (capacity : Nat) :
    (device.read capacity).device.badSeeks = device.badSeeks := by
  cases action : (device.script.headD {}).action with
  | normal | short =>
    simp only [read, action, readSurface]
    cases fault : device.surface.fault? device.position <;> rfl
  | ended | «over» | failed => simp only [read, action]

private theorem seek_of_good (device : ScriptedDevice) (good : device.badSeeks = [])
    (target : Nat) :
    Device.seek device target = ({ device with position := target }, .ok target) := by
  simp only [Device.seek, seek, good]
  rfl

/-- The device with faults put into its script. -/
structure Disturbed (faults : List (Option IoError)) (device other : ScriptedDevice) : Prop where
  weaves : ScriptedRead.Woven faults device.script other.script
  same : other = { device with script := other.script }
  seeks : device.badSeeks = []

private theorem Disturbed.good {faults : List (Option IoError)} {other : ScriptedDevice}
    (disturbed : Disturbed faults device other) : other.badSeeks = [] := by
  rw [disturbed.same]
  exact disturbed.seeks

private theorem Disturbed.asked {faults : List (Option IoError)} {other : ScriptedDevice}
    (disturbed : Disturbed faults device other) (query : Query) :
    Disturbed faults (Device.afterQuery query device) (Device.afterQuery query other) := by
  obtain ⟨weaves, same, seeks⟩ := disturbed
  generalize other.script = script at weaves same
  subst same
  cases query with
  | seekEnd =>
    simp only [Device.afterQuery, Device.seekEnd, seekToEnd]
    split <;> exact ⟨weaves, rfl, seeks⟩
  | _ => exact ⟨weaves, rfl, seeks⟩

/-- Faults may come between the reads of any scripted device that takes all seeks. -/
def disturbance : Disturbance ScriptedDevice ScriptedDevice where
  InStep := Disturbed
  Stands device position := device.position = position
  answers faults :=
    { asked disturbed query := disturbed.asked query
      mediaSize disturbed := by rw [disturbed.same]; rfl
      seekEnd disturbed := by
        rw [disturbed.same]
        simp only [Device.seekEnd, seekToEnd]
        split <;> rfl
      bytesPerSector disturbed := by rw [disturbed.same]; rfl
      maxTransferSize disturbed := by rw [disturbed.same]; rfl
      signals _ _ := rfl }
  seeks disturbed target :=
    ⟨⟨target, congrArg Prod.snd (seek_of_good _ disturbed.seeks target)⟩,
      target, congrArg Prod.snd (seek_of_good _ disturbed.good target)⟩
  sought := by
    intro faults device other disturbed target
    rw [seek_of_good _ disturbed.seeks, seek_of_good _ disturbed.good]
    exact ⟨⟨disturbed.weaves, by rw [disturbed.same], disturbed.seeks⟩, rfl⟩
  calm _ _ := ⟨rfl, rfl⟩
  reads := by
    rintro faults device other ⟨weaves, same, seeks⟩ calm capacity
    generalize other.script = script at weaves same
    subst same
    obtain ⟨next, rest⟩ := weaves.next calm
    have same : Device.read ({ device with script } : ScriptedDevice) capacity = _ :=
      read_withScript device capacity next
    have left : (Device.read device capacity).device.script = device.script.tail :=
      (device.read_frame capacity).2
    rw [same]
    exact ⟨rfl, rfl, rfl, left ▸ rest, rfl, (badSeeks_read device capacity).trans seeks⟩
  passes := by
    rintro faults device other position capacity count _ rfl read part
    exact (read_ok_of_head (fun _ => part) read (Nat.le_of_lt part)).1
  fails := by
    rintro faults error device other position ⟨weaves, same, seeks⟩ rfl capacity
    generalize other.script = script at weaves same
    subst same
    cases weaves with
    | @fault _ _ woven _ scribble rest =>
      have failed : Device.read { device with
            script := { action := .failed error, scribble } :: woven } capacity =
          { device := { device with script := woven }
            stored := scribbled { action := .failed error, scribble } capacity .empty
            result := .error error } := rfl
      have sought := seek_of_good { device with script := woven } seeks device.position
      rw [failed, sought]
      exact ⟨rfl, rfl, ⟨device.position, rfl⟩, rfl, rest, rfl, seeks⟩

end ScriptedDevice

end StorageMedia
