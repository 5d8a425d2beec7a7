import StorageMedia.Proofs.Stream.Ideal
import StorageMedia.Proofs.Transfer.Progress

/-! # Sessions with steady media

What a session on a steady medium keeps are answers that devices with this medium give, and so is
what it will answer next. In particular it always finds a geometry, whose size is that of the
medium.
-/

namespace StorageMedia

variable {σ : Type} [Device σ]

namespace SteadyMedium

variable (medium : SteadyMedium σ)

/-- A device with the medium has the geometry. -/
def HasGeometry (geometry : Geometry) : Prop :=
  ∃ device, medium.Obeys device ∧ (resolveGeometry device).result = .ok geometry

/-- A device with the medium answers this when it is asked for its media information. -/
def Informs (result : Result MediaInformation) : Prop :=
  ∃ session : Session σ, medium.Obeys session.device ∧ session.knownInformation = none ∧
    session.mediaInformation.result = result

/-- A device with the medium answers this when it is asked for the contents of its disc. -/
def Lists (result : Result TableOfContents) : Prop :=
  ∃ session : Session σ, medium.Obeys session.device ∧ session.knownContents = none ∧
    session.tableOfContents.result = result

variable {medium}

/-- All geometries that devices with the medium have agree about its size. -/
theorem HasGeometry.mediaSize {geometry : Geometry} (has : medium.HasGeometry geometry) :
    geometry.mediaSize.toNat = medium.size := by
  obtain ⟨device, obeys, found⟩ := has
  obtain ⟨mediaSize, resolved, size⟩ := medium.resolves obeys
  obtain ⟨other, result, same⟩ := resolveGeometry_of_mediaSize resolved
  obtain rfl : other = geometry := Result.ok.inj (result.symm.trans found)
  rw [same, size]

theorem exists_geometry {device : σ} (obeys : medium.Obeys device) :
    ∃ geometry, (resolveGeometry device).result = .ok geometry := by
  obtain ⟨mediaSize, resolved, _⟩ := medium.resolves obeys
  obtain ⟨geometry, found, _⟩ := resolveGeometry_of_mediaSize resolved
  exact ⟨geometry, found⟩

end SteadyMedium

/-- Devices with the medium tell what the description says. -/
structure Description.IsOf (medium : SteadyMedium σ) (description : Description) : Prop where
  geometry : medium.HasGeometry description.geometry
  information : medium.Informs description.information
  contents : medium.Lists description.contents

namespace Session

variable {medium : SteadyMedium σ} {session : Session σ} {description : Description}

/-- The session answers what the description says. -/
structure Tells (session : Session σ) (description : Description) : Prop where
  geometry : session.geometry.result = .ok description.geometry
  information : session.mediaInformation.result = description.information
  contents : session.tableOfContents.result = description.contents

/-- The session reads a steady medium, and all that it keeps comes from devices with this medium. -/
structure Steady (medium : SteadyMedium σ) (session : Session σ) : Prop where
  tracks : session.Tracks medium.toPositioned
  geometry : ∀ known, session.knownGeometry = some known → medium.HasGeometry known
  information : ∀ known, session.knownInformation = some known → medium.Informs (.ok known)
  contents : ∀ known, session.knownContents = some known → medium.Lists (.ok known)

theorem mediaInformation_ne_pending (session : Session σ) :
    session.mediaInformation.result ≠ .pending := by
  simp only [mediaInformation]
  split
  · rintro ⟨⟩
  · split <;> rintro ⟨⟩

theorem tableOfContents_ne_pending (session : Session σ) :
    session.tableOfContents.result ≠ .pending := by
  simp only [tableOfContents]
  split
  · rintro ⟨⟩
  · split <;> rintro ⟨⟩

namespace Steady

/-- A transfer keeps a session steady as long as it keeps track of the device. -/
theorem of_knowledge (steady : session.Steady medium) {after : Session σ}
    (tracks : after.Tracks medium.toPositioned) (same : after.knowledge = session.knowledge) :
    after.Steady medium := by
  simp only [knowledge, Prod.mk.injEq] at same
  obtain ⟨_, geometry, information, contents⟩ := same
  exact ⟨tracks, geometry ▸ steady.geometry, information ▸ steady.information,
    contents ▸ steady.contents⟩

/-- A session finds a geometry of its medium and stays steady. -/
theorem measure (steady : session.Steady medium) :
    (∃ geometry, session.geometry.result = .ok geometry ∧ medium.HasGeometry geometry) ∧
      session.geometry.state.Steady medium := by
  have tracks := steady.tracks.geometry
  cases known : session.knownGeometry with
  | some geometry =>
    rw [geometry_of_known known]
    exact ⟨⟨geometry, rfl, steady.geometry geometry known⟩, steady⟩
  | none =>
    obtain ⟨geometry, found⟩ := medium.exists_geometry steady.tracks.obeys
    have has : medium.HasGeometry geometry := ⟨session.device, steady.tracks.obeys, found⟩
    have result : session.geometry.result = .ok geometry := by
      simp only [Session.geometry, known, found]
    refine ⟨⟨geometry, result, has⟩, tracks, ?_, ?_, ?_⟩
    · intro other kept
      rw [knownGeometry_of_geometry_ok result] at kept
      exact Option.some.inj kept ▸ has
    · simp only [Session.geometry, known]
      exact steady.information
    · simp only [Session.geometry, known]
      exact steady.contents

/-- Nobody signals an abort while the geometry is found out. -/
theorem measure_calm (steady : session.Steady medium) :
    ∀ event ∈ session.geometry.events, event.raises = false :=
  steady.tracks.geometry_calm medium.calm

/-- A session answers what devices with its medium do and stays steady. -/
theorem identify (steady : session.Steady medium) :
    medium.Informs session.mediaInformation.result ∧
      session.mediaInformation.state.Steady medium := by
  have tracks := steady.tracks.mediaInformation
  cases known : session.knownInformation with
  | some information =>
    rw [mediaInformation_of_known known]
    exact ⟨steady.information information known, steady⟩
  | none =>
    have informs : medium.Informs session.mediaInformation.result :=
      ⟨session, steady.tracks.obeys, known, rfl⟩
    refine ⟨informs, ?_⟩
    cases answer : (Device.mediaInformation session.device).2 with
    | ok information? =>
      simp only [mediaInformation, known, answer] at informs tracks ⊢
      refine ⟨tracks, steady.geometry, ?_, steady.contents⟩
      rintro _ ⟨⟩
      exact informs
    | error error =>
      simp only [mediaInformation, known, answer] at tracks ⊢
      exact ⟨tracks, steady.geometry, by rintro _ ⟨⟩, steady.contents⟩

theorem survey (steady : session.Steady medium) :
    medium.Lists session.tableOfContents.result ∧
      session.tableOfContents.state.Steady medium := by
  have tracks := steady.tracks.tableOfContents
  cases known : session.knownContents with
  | some contents =>
    rw [tableOfContents_of_known known]
    exact ⟨steady.contents contents known, steady⟩
  | none =>
    have lists : medium.Lists session.tableOfContents.result :=
      ⟨session, steady.tracks.obeys, known, rfl⟩
    refine ⟨lists, ?_⟩
    cases answer : (Device.tableOfContents session.device).2 with
    | ok contents? =>
      simp only [tableOfContents, known, answer] at lists tracks ⊢
      refine ⟨tracks, steady.geometry, steady.information, ?_⟩
      rintro _ ⟨⟩
      exact lists
    | error error =>
      simp only [tableOfContents, known, answer] at tracks ⊢
      exact ⟨tracks, steady.geometry, steady.information, by rintro _ ⟨⟩⟩

/-- At any time there is a description of the medium that says what the session answers. -/
theorem exists_description (steady : session.Steady medium) :
    ∃ description : Description, description.IsOf medium ∧ session.Tells description := by
  obtain ⟨geometry, found, has⟩ := steady.measure.1
  exact ⟨⟨geometry, session.mediaInformation.result, session.tableOfContents.result⟩,
    ⟨has, steady.identify.1, steady.survey.1⟩, found, rfl, rfl⟩

end Steady

end Session

end StorageMedia
