import StorageMedia.Proofs.Handle.Steps

/-! # Runs with their history

`Operation.Runs` keeps on which handle each of a list of operations was performed and where the run
has come to, so that a property of whole runs is proved by induction along their history. The
handles that operations reach are those to which runs of closed handles come.
-/

namespace StorageMedia

variable {σ : Type}

/-- An operation with the handle on which it is performed. -/
structure Call (σ : Type) where
  handle : Handle σ
  operation : Operation σ

variable [Device σ]

def Call.response (host : Host σ) (patience : Nat) (call : Call σ) : Response σ :=
  call.operation.apply host patience call.handle

namespace Operation

/-- Operations that were performed one after the other and have all returned. -/
inductive Runs (host : Host σ) (patience : Nat) : Handle σ → List (Call σ) → Handle σ → Prop
  | nil (handle : Handle σ) : Runs host patience handle [] handle
  | cons {handle after : Handle σ} {history : List (Call σ)} (operation : Operation σ)
      (returned : (operation.apply host patience handle).outcome.result ≠ .pending)
      (runs : Runs host patience (operation.apply host patience handle).outcome.state history
        after) :
      Runs host patience handle (⟨handle, operation⟩ :: history) after

variable {host : Host σ} {patience : Nat} {handle middle after : Handle σ}
  {history later : List (Call σ)}

namespace Runs

/-- Runs go on where others ended. -/
theorem append (first : Runs host patience handle history middle)
    (second : Runs host patience middle later after) :
    Runs host patience handle (history ++ later) after := by
  induction first with
  | nil => exact second
  | cons operation returned _ ih => exact .cons operation returned (ih second)

/-- A run goes to each of its calls and on from there. -/
theorem split {call : Call σ} (runs : Runs host patience handle history after)
    (member : call ∈ history) :
    ∃ before rest, history = before ++ call :: rest ∧ Runs host patience handle before call.handle ∧
      Runs host patience (call.response host patience).outcome.state rest after := by
  induction runs with
  | nil => simp at member
  | cons operation returned runs ih =>
    rcases List.mem_cons.mp member with rfl | later
    · exact ⟨[], _, rfl, .nil _, runs⟩
    · obtain ⟨before, rest, rfl, first, second⟩ := ih later
      exact ⟨_ :: before, rest, rfl, .cons operation returned first, second⟩

/-- A run leads from handles that operations reach to others. -/
theorem reachable (runs : Runs host patience handle history after)
    (reached : Reachable host patience handle) : Reachable host patience after := by
  induction runs with
  | nil => exact reached
  | cons operation returned _ ih => exact ih (reached.step operation returned)

end Runs

/-- The handles that operations reach are those to which runs of new handles come. -/
theorem reachable_iff_runs :
    Reachable host patience handle ↔
      ∃ options history, Runs host patience (.withOptions options) history handle := by
  constructor
  · intro reached
    induction reached with
    | fresh options => exact ⟨options, [], .nil _⟩
    | step operation _ returned ih =>
      obtain ⟨options, history, runs⟩ := ih
      exact ⟨options, _, runs.append (.cons operation returned (.nil _))⟩
  · rintro ⟨options, history, runs⟩
    exact runs.reachable (.fresh options)

end Operation

end StorageMedia
