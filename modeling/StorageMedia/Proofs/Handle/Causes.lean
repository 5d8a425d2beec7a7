import StorageMedia.Proofs.Handle.Steps

/-! # Why operations fail

An operation fails because the handle refuses it, because the device does not tell what it is asked
or because a transfer breaks off. `Handle.FailsAs` lists these causes, each with the handle that the
failure leaves, and `Operation.apply_failsAs` says that the list is complete.
-/

namespace StorageMedia

variable {σ : Type}

/-- A refusal without doing anything. -/
inductive Handle.Refuses (handle : Handle σ) : Error → Prop
  | argument (fault : ArgumentFault) : Refuses handle (.invalidArgument fault)
  | bounds (offset : Int) (origin : Origin) : Refuses handle (.outOfBounds offset origin)
  | closed (closed : handle.session = none) : Refuses handle .notOpen
  | opened (opened : handle.isOpen = true) : Refuses handle .alreadyOpen
  | unopened (error : IoError) : Refuses handle (.platform .opening error)

variable [Device σ]

namespace Session

variable {session : Session σ} {cause : Error}

theorem mediaInformation_error (failed : session.mediaInformation.result = .error cause) :
    ∃ error, cause = .platform .queryingMedia error := by
  simp only [mediaInformation] at failed
  split at failed
  · cases failed
  · split at failed
    · cases failed
    · cases failed
      exact ⟨_, rfl⟩

theorem tableOfContents_error (failed : session.tableOfContents.result = .error cause) :
    ∃ error, cause = .platform .readingContents error := by
  simp only [tableOfContents] at failed
  split at failed
  · cases failed
  · split at failed
    · cases failed
    · cases failed
      exact ⟨_, rfl⟩

end Session

namespace Handle

/-- Everything that an operation can fail as, with the handle that the failure leaves. -/
inductive FailsAs (patience : Nat) : Error → Handle σ → Prop
  | refused {handle : Handle σ} {cause : Error} (refuses : handle.Refuses cause) :
      FailsAs patience cause handle
  /-- The device does not tell its geometry. -/
  | unmeasured {handle : Handle σ} {session : Session σ} {cause : Error}
      (opened : handle.session = some session) (failed : session.geometry.result = .error cause) :
      FailsAs patience cause (handle.resume session.geometry)
  /-- The device does not tell its media information. -/
  | unidentified {handle : Handle σ} {session : Session σ} {cause : Error}
      (opened : handle.session = some session)
      (failed : session.mediaInformation.result = .error cause) :
      FailsAs patience cause (handle.resume session.mediaInformation)
  /-- The device does not tell the contents of its disc. -/
  | unsurveyed {handle : Handle σ} {session : Session σ} {cause : Error}
      (opened : handle.session = some session)
      (failed : session.tableOfContents.result = .error cause) :
      FailsAs patience cause (handle.resume session.tableOfContents)
  /-- A transfer breaks off. -/
  | broken {handle : Handle σ} {session : Session σ} {cause : Error} {bytes : Bytes}
      {transfer : Transfer σ}
      (runs : Transfer.read handle.options patience session handle.aborted handle.cursor bytes =
        (transfer, .error cause)) :
      FailsAs patience cause (handle.afterTransfer transfer (.error cause))
  /-- The data ends before the buffer is full. -/
  | unfilled (handle : Handle σ) :
      FailsAs patience (.platform .fillingBuffer .unfilledBuffer) handle

/-- The causes of a failing outcome are those that `FailsAs` lists. -/
structure Explained {α : Type} (patience : Nat) (outcome : Outcome σ (Handle σ) α) : Prop where
  failsAs : ∀ cause, outcome.result = .error cause → FailsAs patience cause outcome.state

variable {patience : Nat} {handle : Handle σ} {events : List (Event σ)} {α β : Type}

namespace Explained

variable {outcome : Outcome σ (Handle σ) α}

theorem refuse {cause : Error} (refuses : handle.Refuses cause) :
    Explained patience (.refuse cause handle : Outcome σ (Handle σ) α) :=
  ⟨by rintro _ ⟨⟩; exact .refused refuses⟩

theorem answer (value : α) (handle : Handle σ) :
    Explained patience (.answer value handle : Outcome σ (Handle σ) α) :=
  ⟨by rintro _ ⟨⟩⟩

theorem map (explained : Explained patience outcome) (f : α → β) :
    Explained patience (outcome.map f) := by
  refine ⟨fun cause failed => explained.failsAs cause ?_⟩
  cases result : outcome.result <;> simp_all [Outcome.map, Result.map]

theorem andThen (first : Explained patience outcome)
    {rest : α → Handle σ → Outcome σ (Handle σ) β}
    (second : ∀ value, outcome.result = .ok value →
      Explained patience (rest value outcome.state)) :
    Explained patience (outcome.andThen rest) := by
  refine ⟨fun cause failed => ?_⟩
  simp only [Outcome.andThen] at failed ⊢
  split at failed
  · next value succeeded => exact (second value succeeded).failsAs cause failed
  · next other broken =>
    obtain rfl : other = cause := Result.error.inj failed
    exact first.failsAs other broken
  · cases failed

theorem onSession {run : Session σ → Outcome σ (Session σ) α}
    (fails : ∀ session cause, handle.session = some session → (run session).result = .error cause →
      FailsAs patience cause (handle.resume (run session))) :
    Explained patience (handle.onSession run) := by
  cases opened : handle.session with
  | none =>
    rw [onSession_closed opened]
    exact .refuse (.closed opened)
  | some session =>
    simp only [Handle.onSession, opened, Outcome.mapState]
    exact ⟨fun cause failed => fails session cause opened failed⟩

end Explained

end Handle

end StorageMedia
