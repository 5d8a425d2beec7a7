import StorageMedia.Device.Raw
import StorageMedia.Proofs.Device.Medium

/-! # Files as media

Regular files and block devices read one fixed content. The file may be emptied while it is open;
then nothing is read from it any more, which is no other content.
-/

namespace StorageMedia.RawDevice

variable {device : RawDevice}

/-- The device is a file with bytes. -/
def HoldsBytes (device : RawDevice) : Prop := device.kind = .regular ∨ device.kind = .block

/-- A device is the same file as another one, wherever both stand, unless it was emptied. -/
structure Reads (origin device : RawDevice) : Prop where
  holds : device.HoldsBytes
  kind : device.kind = origin.kind
  behaviour : device.behaviour = origin.behaviour
  content : device.content = origin.content ∨ device.content.size = 0

private theorem read_cases (holds : device.HoldsBytes) (capacity : Nat) :
    (∃ error, device.read capacity = { device, result := .error error }) ∨
    ∃ bytes : Bytes,
      device.read capacity =
        { device := { device with position := device.position + bytes.size }
          stored := bytes
          result := .ok bytes.size } ∧
      ∃ length, bytes = .ofContent device.content device.position length := by
  rcases holds with kind | kind <;> simp only [read, kind] <;> split
  · exact .inl ⟨_, rfl⟩
  · exact .inr ⟨_, rfl, _, rfl⟩
  · exact .inl ⟨_, rfl⟩
  · exact .inr ⟨_, rfl, _, rfl⟩

private theorem seek_frame (holds : device.HoldsBytes) (target : Nat) :
    (∃ error, device.seek target = (device, .error error)) ∨
      device.seek target = ({ device with position := target }, .ok target) := by
  have kind : device.kind ≠ .null := by
    rcases holds with kind | kind <;> simp [kind]
  simp only [seek, if_neg kind]
  split
  · exact .inl ⟨_, rfl⟩
  · exact .inr rfl

private theorem afterQuery_cases (device : RawDevice) (query : Query) :
    Device.afterQuery query device = device ∨
      query = .seekEnd ∧ ∃ position, Device.afterQuery query device = { device with position } := by
  cases query with
  | seekEnd =>
    simp only [Device.afterQuery, Device.seekEnd, seekEnd]
    split
    · exact .inl rfl
    · exact .inr ⟨trivial, _, rfl⟩
  | _ => exact .inl rfl

/-- Moving the device does not change what it reads. -/
theorem Reads.moved {origin : RawDevice} (reads : Reads origin device) (position : Nat) :
    Reads origin { device with position } :=
  ⟨reads.holds, reads.kind, reads.behaviour, reads.content⟩

/-- Emptying the file takes nothing from what is read of it before. -/
theorem Reads.emptied {origin : RawDevice} (reads : Reads origin device) :
    Reads origin { device with content := .empty } :=
  ⟨reads.holds, reads.kind, reads.behaviour, .inr rfl⟩

/-- The same file has the same contents. -/
theorem Reads.tableOfContents {origin : RawDevice} (reads : Reads origin device) :
    (Device.tableOfContents device).2 = (Device.tableOfContents origin).2 := by
  have answer (device : RawDevice) : (Device.tableOfContents device).2 =
      if device.kind == .block then device.behaviour.drive.tableOfContents else .ok none := rfl
  rw [answer, answer, reads.kind, reads.behaviour]

def medium (origin : RawDevice) : Medium RawDevice where
  Obeys := Reads origin
  position := RawDevice.position
  byteAt := origin.content.byteAt
  obeys_read := by
    intro device reads capacity
    rcases read_cases reads.holds capacity with ⟨error, read⟩ | ⟨bytes, read, _⟩ <;>
      simp only [Device.read, read]
    · exact reads
    · exact reads.moved _
  obeys_seek := by
    intro device reads target
    rcases seek_frame reads.holds target with ⟨error, sought⟩ | sought <;>
      simp only [Device.seek, sought]
    · exact reads
    · exact reads.moved _
  obeys_query := by
    intro device reads query
    rcases afterQuery_cases device query with still | ⟨_, position, moved⟩
    · rwa [still]
    · rw [moved]
      exact reads.moved position
  position_read := by
    intro device capacity count same reads _
    simp only [Device.read] at reads ⊢
    rcases read_cases same.holds capacity with ⟨error, read⟩ | ⟨bytes, read, _⟩
    · simp [read] at reads
    · rw [read] at reads ⊢
      obtain rfl : bytes.size = count := by simpa using reads
      rfl
  position_seek := by
    intro device target answer same sought
    simp only [Device.seek] at sought ⊢
    rcases seek_frame same.holds target with ⟨error, failed⟩ | moved
    · simp [failed] at sought
    · rw [moved]
  position_failed_seek := by
    intro device target error same failed
    simp only [Device.seek] at failed ⊢
    rcases seek_frame same.holds target with ⟨error, stays⟩ | moved
    · rw [stays]
    · simp [moved] at failed
  position_query := by
    intro device query _ quiet
    rcases afterQuery_cases device query with still | ⟨toEnd, _⟩
    · rw [still]
    · exact absurd toEnd quiet
  stored_read := by
    intro device capacity count same reads _
    simp only [Device.read] at reads ⊢
    rcases read_cases same.holds capacity with ⟨error, read⟩ | ⟨bytes, read, length, rfl⟩
    · simp [read] at reads
    · rw [read] at reads ⊢
      obtain rfl : Bytes.size _ = count := by simpa using reads
      rw [← Bytes.length_toList, List.take_length, Bytes.toList_ofContent, Content.length_slice]
      rcases same.content with content | emptied
      · rw [content]
        rfl
      · simp [Content.slice, emptied]

end StorageMedia.RawDevice
