import StorageMedia.Handle.Operation

/-! # What opening a handle comes to

A handle is opened through a path on the host or on a device that is given to it. An opening asks
the device nothing. If it succeeds, the handle was closed and now has a new session; if it fails, it
has changed nothing.
-/

namespace StorageMedia

variable {σ : Type}

def Operation.isOpening : Operation σ → Bool
  | openPath .. | openDevice .. => true
  | _ => false

/-- An operation that was answered so began a session. -/
def Operation.Begins (operation : Operation σ) (response : Response σ) : Prop :=
  operation.isOpening = true ∧ response.outcome.result = .ok .unit

/-- An opening is for a device under some path, which the host finds there or the caller brings. -/
inductive Operation.Opens (host : Host σ) : Operation σ → String → σ → Prop
  | path {path mode : String} {device : σ} (found : host.openDevice path = .ok device) :
      Opens host (.openPath path mode) path device
  | device (path : String) (device : σ) : Opens host (.openDevice path device) path device

namespace Operation

variable {host : Host σ} {operation : Operation σ} {path other : String} {device another : σ}

theorem Opens.isOpening (opens : operation.Opens host path device) :
    operation.isOpening = true := by
  cases opens <;> rfl

/-- There is one device that an opening is for, and one path. -/
theorem Opens.unique (opens : operation.Opens host path device)
    (again : operation.Opens host other another) : other = path ∧ another = device := by
  cases opens with
  | path found =>
    cases again with
    | path refound => exact ⟨rfl, Except.ok.inj (refound.symm.trans found)⟩
  | device =>
    cases again with
    | device => exact ⟨rfl, rfl⟩

variable [Device σ]

/-- Opening only reports. It begins a session with a device on a closed handle, or it fails and
changes nothing. -/
theorem apply_opening (host : Host σ) (patience : Nat) (handle : Handle σ)
    (operation : Operation σ) (opening : operation.isOpening = true) :
    (∀ event ∈ (operation.apply host patience handle).outcome.events,
      ∃ fact, event = .notice fact) ∧
      (operation.Begins (operation.apply host patience handle) ∧ handle.session = none ∧
          (∃ path device, operation.Opens host path device ∧
            (operation.apply host patience handle).outcome.state =
              handle.startSession path device) ∨
        ¬ operation.Begins (operation.apply host patience handle) ∧
          (operation.apply host patience handle).outcome.state = handle) := by
  cases operation with
  | openPath path mode =>
    simp only [apply, Response.of, Outcome.map, Handle.openPath]
    split
    · exact ⟨by simp [Outcome.refuse], .inr ⟨by rintro ⟨_, ⟨⟩⟩, rfl⟩⟩
    split
    · exact ⟨by simp [Outcome.refuse], .inr ⟨by rintro ⟨_, ⟨⟩⟩, rfl⟩⟩
    split
    · exact ⟨by simp [Outcome.refuse], .inr ⟨by rintro ⟨_, ⟨⟩⟩, rfl⟩⟩
    next closed =>
    split
    · exact ⟨by simp [Outcome.refuse], .inr ⟨by rintro ⟨_, ⟨⟩⟩, rfl⟩⟩
    next device found =>
    refine ⟨?_, .inl ⟨⟨rfl, rfl⟩, by simpa [Handle.isOpen] using closed, path, device, .path found,
      rfl⟩⟩
    split
    · split <;> simp
    · simp
  | openDevice path device =>
    simp only [apply, Response.of, Outcome.map, Handle.openDevice]
    split
    · exact ⟨by simp [Outcome.refuse], .inr ⟨by rintro ⟨_, ⟨⟩⟩, rfl⟩⟩
    split
    · exact ⟨by simp [Outcome.refuse], .inr ⟨by rintro ⟨_, ⟨⟩⟩, rfl⟩⟩
    next closed =>
    exact ⟨by simp, .inl ⟨⟨rfl, rfl⟩, by simpa [Handle.isOpen] using closed, path, device,
      .device path device, rfl⟩⟩
  | _ => cases opening

variable {patience : Nat} {handle : Handle σ}

theorem Begins.startsSession (begins : operation.Begins (operation.apply host patience handle)) :
    ∃ path device, operation.Opens host path device ∧
      (operation.apply host patience handle).outcome.state = handle.startSession path device := by
  obtain ⟨_, ⟨_, _, started⟩ | ⟨failed, _⟩⟩ := apply_opening host patience handle operation begins.1
  · exact started
  · exact absurd begins failed

/-- A session begins on the device that the opening is for. -/
theorem Opens.apply_state (opens : operation.Opens host path device)
    (begins : operation.Begins (operation.apply host patience handle)) :
    (operation.apply host patience handle).outcome.state = handle.startSession path device := by
  obtain ⟨_, _, same, started⟩ := begins.startsSession
  obtain ⟨rfl, rfl⟩ := opens.unique same
  exact started

end Operation

end StorageMedia
