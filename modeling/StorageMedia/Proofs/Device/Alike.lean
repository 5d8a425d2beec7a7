import StorageMedia.Proofs.Device.Inquiry

/-! # Devices that answer alike

Two devices, possibly of different types, may be related in a way that shows in none of their
answers. If no question breaks the relation, then their geometries are found in the same way, and
the devices are still related afterwards.
-/

namespace StorageMedia

variable {σ τ : Type} [Device σ] [Device τ]

/-- Devices in a relation answer questions about their geometry alike, and no question leads out of
the relation. -/
structure Device.AnswersAlike (related : σ → τ → Prop) : Prop where
  asked {device : σ} {other : τ} (alike : related device other) (query : Query) :
    related (afterQuery query device) (afterQuery query other)
  mediaSize {device : σ} {other : τ} (alike : related device other) :
    (Device.mediaSize other).2 = (Device.mediaSize device).2
  seekEnd {device : σ} {other : τ} (alike : related device other) :
    (Device.seekEnd other).2 = (Device.seekEnd device).2
  bytesPerSector {device : σ} {other : τ} (alike : related device other) :
    (Device.bytesPerSector other).2 = (Device.bytesPerSector device).2
  maxTransferSize {device : σ} {other : τ} (alike : related device other) :
    (Device.maxTransferSize other).2 = (Device.maxTransferSize device).2
  signals {device : σ} {other : τ} (alike : related device other) (query : Query) :
    signalsInQuery other query = signalsInQuery device query

/-- Outcomes with one result that leave related devices and the same signal. -/
structure Outcome.Alike {α : Type} (related : σ → τ → Prop) (outcome : Outcome σ σ α)
    (other : Outcome τ τ α) : Prop where
  result : other.result = outcome.result
  state : related outcome.state other.state
  signal : other.events.any Event.raises = outcome.events.any Event.raises

variable {related : σ → τ → Prop}

/-- Alike outcomes go on alike. -/
theorem Outcome.Alike.andThen {α β : Type} {outcome : Outcome σ σ α} {other : Outcome τ τ α}
    {rest : α → σ → Outcome σ σ β} {others : α → τ → Outcome τ τ β}
    (alike : outcome.Alike related other)
    (onward : ∀ value {device : σ} {other : τ}, related device other →
      (rest value device).Alike related (others value other)) :
    (outcome.andThen rest).Alike related (other.andThen others) := by
  obtain ⟨result, state, signal⟩ := alike
  simp only [Outcome.andThen, result]
  split
  · refine ⟨(onward _ state).result, (onward _ state).state, ?_⟩
    rw [List.any_append, List.any_append, signal, (onward _ state).signal]
  · exact ⟨rfl, state, signal⟩
  · exact ⟨rfl, state, signal⟩

namespace Device.AnswersAlike

variable (answers : AnswersAlike related) {device : σ} {other : τ} (alike : related device other)

include answers alike

private theorem sizeFromMetadata :
    (sizeFromMetadata device).Alike related (sizeFromMetadata other) := by
  have asked := answers.asked alike .mediaSize
  have signal := answers.signals alike .mediaSize
  simp only [StorageMedia.sizeFromMetadata, answers.mediaSize alike]
  split
  · split <;> exact ⟨rfl, asked, congrArg (· || _) signal⟩
  · exact ⟨rfl, asked, congrArg (· || _) signal⟩
  · exact ⟨rfl, asked, congrArg (· || _) signal⟩

private theorem sizeFromEnd : (sizeFromEnd device).Alike related (sizeFromEnd other) := by
  have asked := answers.asked alike .seekEnd
  have signal := answers.signals alike .seekEnd
  simp only [StorageMedia.sizeFromEnd, answers.seekEnd alike]
  split <;> exact ⟨rfl, asked, congrArg (· || _) signal⟩

private theorem resolveBytesPerSector :
    (resolveBytesPerSector device).Alike related (resolveBytesPerSector other) := by
  have asked := answers.asked alike .bytesPerSector
  have signal := answers.signals alike .bytesPerSector
  simp only [StorageMedia.resolveBytesPerSector, answers.bytesPerSector alike]
  split <;> exact ⟨rfl, asked, congrArg (· || _) signal⟩

private theorem resolveMaxTransferSize :
    (resolveMaxTransferSize device).Alike related (resolveMaxTransferSize other) := by
  have asked := answers.asked alike .maxTransferSize
  have signal := answers.signals alike .maxTransferSize
  simp only [StorageMedia.resolveMaxTransferSize, answers.maxTransferSize alike]
  split <;> exact ⟨rfl, asked, congrArg (· || _) signal⟩

/-- Devices that answer alike have the same geometry. -/
theorem resolveGeometry : (resolveGeometry device).Alike related (resolveGeometry other) := by
  have sized : (resolveMediaSize device).Alike related (resolveMediaSize other) := by
    refine (answers.sizeFromMetadata alike).andThen fun size? device other alike => ?_
    cases size? with
    | some size => exact ⟨rfl, alike, rfl⟩
    | none => exact answers.sizeFromEnd alike
  refine sized.andThen fun mediaSize _ _ alike => ?_
  refine (answers.resolveBytesPerSector alike).andThen fun bytesPerSector _ _ alike => ?_
  have transfers := answers.resolveMaxTransferSize alike
  exact ⟨congrArg (Result.map _) transfers.result, transfers.state, transfers.signal⟩

end Device.AnswersAlike

end StorageMedia
