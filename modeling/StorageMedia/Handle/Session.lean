import StorageMedia.Geometry.Resolution

/-! # Open sessions

A session is an opened device together with what is already known about it. Geometry, media
information and contents are asked for when they are first needed and then kept. The position of
the device is kept as long as it is certain, so that a read which continues where the last one
ended needs no seek.
-/

namespace StorageMedia

/-- An opened device and what is known about it. -/
structure Session (σ : Type) where
  path : String
  device : σ
  knownGeometry : Option Geometry := none
  knownInformation : Option MediaInformation := none
  knownContents : Option TableOfContents := none
  /-- Position of the device, if it is certain. -/
  position : Option Nat := none

namespace Session

variable {σ : Type} [Device σ]

/-- Geometry of the media. Finding it out may move the device, so its position is uncertain
afterwards, also when no geometry was found. -/
def geometry (session : Session σ) : Outcome σ (Session σ) Geometry :=
  match session.knownGeometry with
  | some geometry => .answer geometry session
  | none =>
    let found := resolveGeometry session.device
    { result := found.result
      state := { session with
        device := found.state
        position := none
        knownGeometry := match found.result with
          | .ok geometry => some geometry
          | _ => none }
      events := found.events }

/-- Media, bus and identification of the device. A device that does not support the question is
unknown in every respect. -/
def mediaInformation (session : Session σ) : Outcome σ (Session σ) MediaInformation :=
  match session.knownInformation with
  | some information => .answer information session
  | none =>
    let asked := Device.mediaInformation session.device
    match asked.2 with
    | .ok information? =>
      let information := information?.getD {}
      { result := .ok information
        state := { session with device := asked.1, knownInformation := some information }
        events := [.query session.device .mediaInformation,
          .notice (.mediaInformation information.mediaType information.busType)] }
    | .error error =>
      { result := .error (.platform .queryingMedia error)
        state := { session with device := asked.1 }
        events := [.query session.device .mediaInformation] }

/-- Sessions and tracks of the media. A device that does not support the question has none. -/
def tableOfContents (session : Session σ) : Outcome σ (Session σ) TableOfContents :=
  match session.knownContents with
  | some contents => .answer contents session
  | none =>
    let asked := Device.tableOfContents session.device
    match asked.2 with
    | .ok contents? =>
      let contents := contents?.getD {}
      { result := .ok contents
        state := { session with device := asked.1, knownContents := some contents }
        events := [.query session.device .tableOfContents,
          .notice (.contents contents.sessions.length contents.tracks.length)] }
    | .error error =>
      { result := .error (.platform .readingContents error)
        state := { session with device := asked.1 }
        events := [.query session.device .tableOfContents] }

/-- Bring the device to an offset, without a seek if it is known to stand there. -/
def moveTo (session : Session σ) (offset : Nat) : Outcome σ (Session σ) Unit :=
  if session.position = some offset then .answer () session
  else
    let moved := Device.seek session.device offset
    match moved.2 with
    | .ok _ =>
      { result := .ok ()
        state := { session with device := moved.1, position := some offset }
        events := [.seek session.device offset] }
    | .error error =>
      { result := .error (.platform .seeking error)
        state := { session with device := moved.1 }
        events := [.seek session.device offset] }

/-- A known geometry is the answer, and nothing happens. -/
theorem geometry_of_known {session : Session σ} {known : Geometry}
    (cached : session.knownGeometry = some known) :
    session.geometry = .answer known session := by
  simp [geometry, cached]

/-- Known media information is the answer, and nothing happens. -/
theorem mediaInformation_of_known {session : Session σ} {known : MediaInformation}
    (cached : session.knownInformation = some known) :
    session.mediaInformation = .answer known session := by
  simp [mediaInformation, cached]

/-- Known contents are the answer, and nothing happens. -/
theorem tableOfContents_of_known {session : Session σ} {known : TableOfContents}
    (cached : session.knownContents = some known) :
    session.tableOfContents = .answer known session := by
  simp [tableOfContents, cached]

/-- A device that is known to stand at an offset is not moved. -/
theorem moveTo_of_position {session : Session σ} {offset : Nat}
    (stands : session.position = some offset) : session.moveTo offset = .answer () session := by
  simp [moveTo, stands]

end Session

end StorageMedia
