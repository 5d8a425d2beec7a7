import StorageMedia.Proofs.Device.Alike
import StorageMedia.Proofs.Stream.Session

/-! # How scripted devices describe their media

The answers of a scripted device to questions are given and do not depend on its script or its
position. All devices with the steady medium of a scripted device therefore describe it in one way.
-/

namespace StorageMedia

namespace ScriptedDevice

/-- Outcomes that differ at most in the script and the position of the device. -/
structure Alike {α : Type} (first second : Outcome ScriptedDevice ScriptedDevice α) : Prop where
  result : first.result = second.result
  settings : first.state.settings = second.state.settings

section Alike

variable {first second : ScriptedDevice}

private theorem agree {α : Type} (about : ScriptedDevice → α)
    (blind : ∀ device, about device.settings = about device)
    (same : first.settings = second.settings) : about second = about first := by
  rw [← blind first, same, blind]

private theorem settings_afterQuery (query : Query) (device : ScriptedDevice) :
    (Device.afterQuery query device).settings = device.settings := by
  cases query with
  | seekEnd =>
    simp only [Device.afterQuery, Device.seekEnd, seekToEnd]
    split <;> rfl
  | _ => rfl

private theorem answersAlike :
    Device.AnswersAlike fun first second : ScriptedDevice => first.settings = second.settings where
  asked same query := by rw [settings_afterQuery, settings_afterQuery, same]
  mediaSize := agree (·.mediaSize) fun _ => rfl
  seekEnd := by
    refine agree (fun device => (Device.seekEnd device).2) fun device => ?_
    cases given : device.seekEnd <;> simp only [Device.seekEnd, seekToEnd, settings, given]
  bytesPerSector := agree (fun device => (Device.bytesPerSector device).2) fun _ => rfl
  maxTransferSize := agree (fun device => (Device.maxTransferSize device).2) fun _ => rfl
  signals _ _ := rfl

/-- Devices with the same settings have the same geometry. -/
theorem resolveGeometry_alike (same : first.settings = second.settings) :
    Alike (resolveGeometry first) (resolveGeometry second) :=
  have alike := answersAlike.resolveGeometry same
  ⟨alike.result.symm, alike.state⟩

end Alike

section Description

variable {template : ScriptedDevice} {fits : template.content.size ≤ maxSeekOffset}

private theorem hasGeometry_unique {geometry other : Geometry}
    (has : (steadyMedium template fits).HasGeometry geometry)
    (also : (steadyMedium template fits).HasGeometry other) : other = geometry := by
  obtain ⟨first, steady, found⟩ := has
  obtain ⟨second, alike, result⟩ := also
  have same := (resolveGeometry_alike (alike.same.trans steady.same.symm)).result
  rw [found, result] at same
  exact Result.ok.inj same

private theorem informs_unique {result other : Result MediaInformation}
    (informs : (steadyMedium template fits).Informs result)
    (also : (steadyMedium template fits).Informs other) : other = result := by
  obtain ⟨first, steady, unknown, rfl⟩ := informs
  obtain ⟨second, alike, unasked, rfl⟩ := also
  have answer : (Device.mediaInformation second.device).2 =
      (Device.mediaInformation first.device).2 :=
    agree (fun device => (Device.mediaInformation device).2) (fun _ => rfl)
      (steady.same.trans alike.same.symm)
  simp only [Session.mediaInformation, unknown, unasked, answer]
  split <;> rfl

private theorem lists_unique {result other : Result TableOfContents}
    (lists : (steadyMedium template fits).Lists result)
    (also : (steadyMedium template fits).Lists other) : other = result := by
  obtain ⟨first, steady, unknown, rfl⟩ := lists
  obtain ⟨second, alike, unasked, rfl⟩ := also
  have answer : (Device.tableOfContents second.device).2 = (Device.tableOfContents first.device).2 :=
    agree (fun device => (Device.tableOfContents device).2) (fun _ => rfl)
      (steady.same.trans alike.same.symm)
  simp only [Session.tableOfContents, unknown, unasked, answer]
  split <;> rfl

/-- Devices with a steady medium describe it alike. -/
theorem description_unique {description other : Description}
    (isOf : description.IsOf (steadyMedium template fits))
    (also : other.IsOf (steadyMedium template fits)) : other = description := by
  have geometry := hasGeometry_unique isOf.geometry also.geometry
  have information := informs_unique isOf.information also.information
  have contents := lists_unique isOf.contents also.contents
  cases description
  cases other
  simp only at geometry information contents
  rw [geometry, information, contents]

end Description

end ScriptedDevice

end StorageMedia
