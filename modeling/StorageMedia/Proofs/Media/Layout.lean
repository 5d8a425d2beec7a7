import StorageMedia.Media.Contents

/-! # Layouts tile the disc

The layout of a disc compares each track with its neighbour only, and works out sessions without a
look at the tracks. Still both cover the sectors from the first track to the lead-out in order,
without a gap or an overlap: neighbours in order put all tracks in order, so that no distance is
taken backwards. Two tilings of one disc agree where they share a boundary, which is why a last
session that starts with a track cuts no track in two.
-/

namespace StorageMedia

/-! ## Tilings -/

namespace SectorRange

def Holds (range : SectorRange) (sector : Nat) : Prop :=
  range.start ≤ sector ∧ sector < range.start + range.count

def total : List SectorRange → Nat
  | [] => 0
  | range :: ranges => range.count + total ranges

/-- Ranges cover the sectors from a first one up to another, each from where the one before it
ends. -/
def Tiles : List SectorRange → (start stop : Nat) → Prop
  | [], start, stop => start = stop
  | range :: ranges, start, stop => range.start = start ∧ Tiles ranges (start + range.count) stop

variable {ranges : List SectorRange} {range cut : SectorRange} {start stop sector : Nat}

/-- The ranges of a tiling are as long together as what they tile. -/
theorem Tiles.start_add_total (tiles : Tiles ranges start stop) : start + total ranges = stop := by
  induction ranges generalizing start with
  | nil => exact tiles
  | cons range ranges ih =>
    rw [total, ← Nat.add_assoc]
    exact ih tiles.2

theorem Tiles.start_le_stop (tiles : Tiles ranges start stop) : start ≤ stop := by
  have := tiles.start_add_total
  omega

/-- No range of a tiling starts before the tiling does. -/
theorem Tiles.le_start_of_mem (tiles : Tiles ranges start stop) (member : range ∈ ranges) :
    start ≤ range.start := by
  induction ranges generalizing start with
  | nil => cases member
  | cons head ranges ih =>
    rcases List.mem_cons.mp member with rfl | later
    · exact Nat.le_of_eq tiles.1.symm
    · exact Nat.le_trans (Nat.le_add_right ..) (ih tiles.2 later)

/-- No range of a tiling ends after the tiling does. -/
theorem Tiles.end_le_of_mem (tiles : Tiles ranges start stop) (member : range ∈ ranges) :
    range.start + range.count ≤ stop := by
  induction ranges generalizing start with
  | nil => cases member
  | cons head ranges ih =>
    rcases List.mem_cons.mp member with rfl | later
    · rw [tiles.1]
      exact tiles.2.start_le_stop
    · exact ih tiles.2 later

/-- A sector lies in some range of a tiling exactly if it lies in what is tiled. -/
theorem Tiles.exists_holds_iff (tiles : Tiles ranges start stop) :
    (∃ range ∈ ranges, range.Holds sector) ↔ start ≤ sector ∧ sector < stop := by
  constructor
  · rintro ⟨range, member, from_start, before⟩
    exact ⟨Nat.le_trans (tiles.le_start_of_mem member) from_start,
      Nat.lt_of_lt_of_le before (tiles.end_le_of_mem member)⟩
  · intro ⟨behind, before⟩
    induction ranges generalizing start with
    | nil =>
      obtain rfl : start = stop := tiles
      omega
    | cons head ranges ih =>
      rcases Nat.lt_or_ge sector (start + head.count) with inside | later
      · refine ⟨head, List.mem_cons_self, ?_⟩
        rw [Holds, tiles.1]
        exact ⟨behind, inside⟩
      · obtain ⟨range, member, holds⟩ := ih tiles.2 later
        exact ⟨range, List.mem_cons_of_mem _ member, holds⟩

/-- No boundary of a tiling lies inside one of its ranges. -/
theorem Tiles.uncut (tiles : Tiles ranges start stop) (member : range ∈ ranges)
    (boundary : cut ∈ ranges) :
    range.start + range.count ≤ cut.start ∨ cut.start ≤ range.start := by
  induction ranges generalizing start with
  | nil => cases member
  | cons head ranges ih =>
    rcases List.mem_cons.mp member with rfl | later <;>
      rcases List.mem_cons.mp boundary with rfl | behind
    · exact .inr (Nat.le_refl _)
    · rw [tiles.1]
      exact .inl (tiles.2.le_start_of_mem behind)
    · rw [tiles.1]
      exact .inr (Nat.le_trans (Nat.le_add_right ..) (tiles.2.le_start_of_mem later))
    · exact ih tiles.2 later behind

end SectorRange

def Track.range (track : Track) : SectorRange := ⟨track.start, track.count⟩

/-- The entry that a track was listed with. -/
def Track.entry (track : Track) : TocEntry := ⟨track.number, track.start, track.type == .data⟩

namespace TableOfContents

open SectorRange

/-! ## Tracks -/

/-- Tracks start one after another, none of them after the lead-out. -/
structure InOrder (entries : List TocEntry) (leadOut : Nat) : Prop where
  starts : (entries.map (·.start)).Pairwise (· ≤ ·)
  leadOut : ∀ entry ∈ entries, entry.start ≤ leadOut

variable {entries rest : List TocEntry} {entry first : TocEntry} {tracks : List Track}
  {contents : TableOfContents} {leadOut : Nat} {lastSession : Option Nat}

theorem inOrder_nil : InOrder [] leadOut := ⟨.nil, by rintro _ ⟨⟩⟩

/-- What comes after some entries starts before each of them if they are in order. -/
theorem InOrder.nextStart_le (inOrder : InOrder rest leadOut) (member : entry ∈ rest) :
    nextStart leadOut rest ≤ entry.start := by
  cases rest with
  | nil => cases member
  | cons next rest =>
    rcases List.mem_cons.mp member with rfl | later
    · exact Nat.le_refl _
    · exact (List.pairwise_cons.mp inOrder.starts).1 _ (List.mem_map_of_mem later)

theorem InOrder.nextStart_le_leadOut (inOrder : InOrder rest leadOut) :
    nextStart leadOut rest ≤ leadOut := by
  cases rest with
  | nil => exact Nat.le_refl _
  | cons next rest => exact inOrder.leadOut next List.mem_cons_self

/-- All tracks are in order if each one is with its neighbour. -/
theorem inOrder_cons :
    InOrder (entry :: rest) leadOut ↔
      entry.start ≤ nextStart leadOut rest ∧ InOrder rest leadOut := by
  constructor
  · intro ⟨starts, before⟩
    obtain ⟨least, starts⟩ := List.pairwise_cons.mp starts
    refine ⟨?_, starts, fun other member => before other (List.mem_cons_of_mem _ member)⟩
    cases rest with
    | nil => exact before entry List.mem_cons_self
    | cons next rest => exact least next.start List.mem_cons_self
  · intro ⟨neighbour, inOrder⟩
    refine ⟨List.pairwise_cons.mpr ⟨?_, inOrder.starts⟩, fun other member => ?_⟩
    · intro start listed
      obtain ⟨other, member, rfl⟩ := List.mem_map.mp listed
      exact Nat.le_trans neighbour (inOrder.nextStart_le member)
    · rcases List.mem_cons.mp member with rfl | later
      · exact Nat.le_trans neighbour inOrder.nextStart_le_leadOut
      · exact inOrder.leadOut other later

/-- The first entry gets a track when it starts before its end and the others get theirs. -/
theorem tracksOf_cons_eq_ok_iff :
    tracksOf leadOut (entry :: rest) = .ok tracks ↔
      entry.start ≤ nextStart leadOut rest ∧ ∃ later, tracksOf leadOut rest = .ok later ∧
        ⟨entry.number, entry.start, nextStart leadOut rest - entry.start, entry.type⟩ :: later =
          tracks := by
  rw [tracksOf]
  split
  · next early =>
    exact ⟨by rintro ⟨⟩, fun ⟨neighbour, _⟩ => absurd early (Nat.not_lt.mpr neighbour)⟩
  · next neighbour =>
    cases tracksOf leadOut rest with
    | error error => exact ⟨by rintro ⟨⟩, by rintro ⟨_, _, ⟨⟩, _⟩⟩
    | ok later => simp [Except.map, Nat.le_of_not_lt neighbour]

/-- Tracks are found exactly for entries that are in order. -/
theorem exists_tracksOf_eq_ok_iff :
    (∃ tracks, tracksOf leadOut entries = .ok tracks) ↔ InOrder entries leadOut := by
  induction entries with
  | nil => exact ⟨fun _ => inOrder_nil, fun _ => ⟨[], rfl⟩⟩
  | cons entry rest ih =>
    rw [inOrder_cons, ← ih]
    constructor
    · intro ⟨tracks, found⟩
      obtain ⟨neighbour, later, others, _⟩ := tracksOf_cons_eq_ok_iff.mp found
      exact ⟨neighbour, later, others⟩
    · intro ⟨neighbour, later, others⟩
      exact ⟨_, tracksOf_cons_eq_ok_iff.mpr ⟨neighbour, later, others, rfl⟩⟩

theorem trackOrder_of_tracksOf_eq_error {error : IoError}
    (refused : tracksOf leadOut entries = .error error) :
    ∃ before entry rest, entries = before ++ entry :: rest ∧
      nextStart leadOut rest < entry.start ∧
      error = .trackOrder entry.number (nextStart leadOut rest) entry.start := by
  induction entries with
  | nil => cases refused
  | cons entry rest ih =>
    rw [tracksOf] at refused
    split at refused
    · next early =>
      cases refused
      exact ⟨[], entry, rest, rfl, early, rfl⟩
    · cases others : tracksOf leadOut rest with
      | ok later => simp [others, Except.map] at refused
      | error found =>
        obtain rfl : found = error := by simpa [others, Except.map] using refused
        obtain ⟨before, behind, after, rfl, early, named⟩ := ih others
        exact ⟨entry :: before, behind, after, rfl, early, named⟩

/-- There is one track for each entry, with the number, the start and the type of the entry. -/
theorem map_entry_of_tracksOf (found : tracksOf leadOut entries = .ok tracks) :
    tracks.map Track.entry = entries := by
  induction entries generalizing tracks with
  | nil =>
    cases found
    rfl
  | cons entry rest ih =>
    obtain ⟨_, later, others, rfl⟩ := tracksOf_cons_eq_ok_iff.mp found
    obtain ⟨number, start, isData⟩ := entry
    rw [List.map_cons, ih others]
    cases isData <;> rfl

/-- Tracks tile the sectors from the first of them to the lead-out. -/
theorem tiles_of_tracksOf (found : tracksOf leadOut entries = .ok tracks) :
    Tiles (tracks.map Track.range) (nextStart leadOut entries) leadOut := by
  induction entries generalizing tracks with
  | nil =>
    cases found
    rfl
  | cons entry rest ih =>
    obtain ⟨neighbour, later, others, rfl⟩ := tracksOf_cons_eq_ok_iff.mp found
    refine ⟨rfl, ?_⟩
    have ends : entry.start + (nextStart leadOut rest - entry.start) = nextStart leadOut rest :=
      Nat.add_sub_cancel' neighbour
    rw [← ends] at ih
    exact ih others

/-! ## Sessions -/

/-- Sessions tile the disc, wherever the last one of them is said to start. -/
theorem tiles_sessionsOf {first : Nat} (inOrder : first ≤ leadOut) (lastSession : Option Nat) :
    Tiles (sessionsOf first leadOut lastSession) first leadOut := by
  have whole : Tiles [⟨first, leadOut - first⟩] first leadOut :=
    ⟨rfl, Nat.add_sub_cancel' inOrder⟩
  cases lastSession with
  | none => exact whole
  | some last =>
    rw [sessionsOf]
    split
    · next between =>
      have earlier : first + (last - first) = last := Nat.add_sub_cancel' (Nat.le_of_lt between.1)
      refine ⟨rfl, earlier.symm, ?_⟩
      rw [Tiles, earlier]
      exact Nat.add_sub_cancel' (Nat.le_of_lt between.2)
    · exact whole

/-- The last session is apart if it starts inside of the disc. -/
theorem starts_of_between {first last : Nat} (after : first < last) (before : last < leadOut) :
    (sessionsOf first leadOut (some last)).map (·.start) = [first, last] := by
  rw [sessionsOf, if_pos ⟨after, before⟩]
  rfl

/-- All of the disc is one session if the last one is not known to start inside of it. -/
theorem starts_of_outside {first : Nat}
    (outside : ∀ last, lastSession = some last → last ≤ first ∨ leadOut ≤ last) :
    (sessionsOf first leadOut lastSession).map (·.start) = [first] := by
  cases lastSession with
  | none => rfl
  | some last =>
    have notBetween : ¬(first < last ∧ last < leadOut) := by
      have := outside last rfl
      omega
    rw [sessionsOf, if_neg notBetween]
    rfl

/-- A range of the disc that the start of the last session does not cut lies in one session. -/
theorem holds_of_uncut {first sector other : Nat} {range session : SectorRange}
    (uncut : ∀ last, lastSession = some last →
      range.start + range.count ≤ last ∨ last ≤ range.start)
    (begins : first ≤ range.start) (ends : range.start + range.count ≤ leadOut)
    (member : session ∈ sessionsOf first leadOut lastSession)
    (here : range.Holds sector) (there : range.Holds other) (inside : session.Holds sector) :
    session.Holds other := by
  simp only [Holds] at here there inside ⊢
  cases lastSession with
  | none =>
    obtain rfl := List.mem_singleton.mp member
    dsimp only
    omega
  | some last =>
    have apart := uncut last rfl
    rw [sessionsOf] at member
    split at member
    · simp only [List.mem_cons, List.not_mem_nil, or_false] at member
      rcases member with rfl | rfl <;> dsimp only at inside ⊢ <;> omega
    · obtain rfl := List.mem_singleton.mp member
      dsimp only
      omega

/-- Tracks that tile the disc lie in one session each if the last session starts with one of
them. -/
theorem holds_of_starts {first last sector other : Nat} {track : Track} {session : SectorRange}
    (tiles : Tiles (tracks.map Track.range) first leadOut)
    (starts : last ∈ tracks.map (·.start)) (member : track ∈ tracks)
    (within : session ∈ sessionsOf first leadOut (some last))
    (here : track.range.Holds sector) (there : track.range.Holds other)
    (inside : session.Holds sector) : session.Holds other := by
  obtain ⟨cut, cutMember, rfl⟩ := List.mem_map.mp starts
  have boundary : cut.range ∈ tracks.map Track.range := List.mem_map_of_mem cutMember
  have inTiling : track.range ∈ tracks.map Track.range := List.mem_map_of_mem member
  refine holds_of_uncut ?_ (tiles.le_start_of_mem inTiling) (tiles.end_le_of_mem inTiling)
    within here there inside
  rintro _ ⟨⟩
  exact tiles.uncut inTiling boundary

/-! ## The disc -/

/-- What the layout of a disc says about the sectors from its first track to its lead-out. -/
structure LaysOut (entries : List TocEntry) (first leadOut : Nat) (lastSession : Option Nat)
    (contents : TableOfContents) : Prop where
  /-- One track for each entry, in order. -/
  listed : contents.tracks.map Track.entry = entries
  tracks : Tiles (contents.tracks.map Track.range) first leadOut
  sectors : first + total (contents.tracks.map Track.range) = leadOut
  sessions : Tiles contents.sessions first leadOut
  covered : ∀ sector, (∃ session ∈ contents.sessions, session.Holds sector) ↔
    first ≤ sector ∧ sector < leadOut
  one : (∀ last, lastSession = some last → last ≤ first ∨ leadOut ≤ last) →
    contents.sessions.map (·.start) = [first]
  two : ∀ last, lastSession = some last → first < last → last < leadOut →
    contents.sessions.map (·.start) = [first, last]
  /-- The sector after a session is not held back at the largest offset. -/
  stops : leadOut ≤ maxOffset →
    ∀ session ∈ contents.sessions, session.stop = session.start + session.count
  /-- Sectors of one track are in the same session. -/
  uncut : ∀ last, lastSession = some last → last ∈ entries.map (·.start) →
    ∀ track ∈ contents.tracks, ∀ session ∈ contents.sessions, ∀ sector other,
      track.range.Holds sector → track.range.Holds other → session.Holds sector →
      session.Holds other

/-- The last session has no part in the tracks, nor in whether they are in order. -/
theorem map_tracks_ofEntries (entries : List TocEntry) (leadOut : Nat)
    (lastSession : Option Nat) :
    (ofEntries entries leadOut lastSession).map (·.tracks) = tracksOf leadOut entries := by
  unfold ofEntries
  cases tracksOf leadOut entries <;> rfl

theorem tracksOf_of_ofEntries (found : ofEntries entries leadOut lastSession = .ok contents) :
    tracksOf leadOut entries = .ok contents.tracks := by
  rw [← map_tracks_ofEntries entries leadOut lastSession, found]
  rfl

theorem sessions_of_ofEntries
    (found : ofEntries (first :: rest) leadOut lastSession = .ok contents) :
    contents.sessions = sessionsOf first.start leadOut lastSession := by
  rw [ofEntries, tracksOf_of_ofEntries found, Except.map] at found
  exact congrArg TableOfContents.sessions (Except.ok.inj found).symm

/-- Only entries that are out of order have no layout. -/
theorem exists_ofEntries_eq_ok_iff :
    (∃ contents, ofEntries entries leadOut lastSession = .ok contents) ↔
      InOrder entries leadOut := by
  rw [← exists_tracksOf_eq_ok_iff]
  constructor
  · exact fun ⟨contents, found⟩ => ⟨contents.tracks, tracksOf_of_ofEntries found⟩
  · intro ⟨tracks, found⟩
    unfold ofEntries
    rw [found]
    exact ⟨_, rfl⟩

/-- A refusal names the track that is out of order and the two sectors. -/
theorem trackOrder_of_ofEntries_eq_error {error : IoError}
    (refused : ofEntries entries leadOut lastSession = .error error) :
    ∃ before entry rest, entries = before ++ entry :: rest ∧
      nextStart leadOut rest < entry.start ∧
      error = .trackOrder entry.number (nextStart leadOut rest) entry.start := by
  refine trackOrder_of_tracksOf_eq_error ?_
  rw [← map_tracks_ofEntries entries leadOut lastSession, refused]
  rfl

theorem laysOut_of_ofEntries
    (found : ofEntries (first :: rest) leadOut lastSession = .ok contents) :
    LaysOut (first :: rest) first.start leadOut lastSession contents := by
  have listing := tracksOf_of_ofEntries found
  have listed := map_entry_of_tracksOf listing
  have tiles : Tiles (contents.tracks.map Track.range) first.start leadOut :=
    tiles_of_tracksOf listing
  have same := sessions_of_ofEntries found
  have sessions : Tiles contents.sessions first.start leadOut := by
    rw [same]
    exact tiles_sessionsOf tiles.start_le_stop lastSession
  exact
    { listed
      tracks := tiles
      sectors := tiles.start_add_total
      sessions
      covered := fun _ => sessions.exists_holds_iff
      one := fun outside => by rw [same, starts_of_outside outside]
      two := by
        rintro last rfl after before
        rw [same, starts_of_between after before]
      stops := fun small session member =>
        Nat.min_eq_left (Nat.le_trans (sessions.end_le_of_mem member) small)
      uncut := by
        rintro last rfl boundary track member session within sector other
        rw [← listed, List.map_map] at boundary
        rw [same] at within
        exact holds_of_starts tiles boundary member within }

/-- A layout with a first track is laid out from there. -/
theorem laysOut_of_head (found : ofEntries entries leadOut lastSession = .ok contents)
    {track : Track} (head : contents.tracks.head? = some track) :
    LaysOut entries track.start leadOut lastSession contents := by
  have listed := map_entry_of_tracksOf (tracksOf_of_ofEntries found)
  have heads : entries.head? = some track.entry := by
    rw [← listed, List.head?_map, head]
    rfl
  cases entries with
  | nil => cases heads
  | cons first rest =>
    obtain rfl : first = track.entry := Option.some.inj heads
    exact laysOut_of_ofEntries found

/-- Entries have a layout exactly if they are in order, none of them after the lead-out. The layout
has a track for each of them, and both tracks and sessions tile the disc from the first start to the
lead-out: in one session, or in two where the last one is known to start inside of the disc. No
track is cut in two by a session that starts with a track. -/
theorem layout_tiles_disc (entries : List TocEntry) (leadOut : Nat) (lastSession : Option Nat) :
    ofEntries [] leadOut lastSession = .ok {} ∧
    ((∃ contents, ofEntries entries leadOut lastSession = .ok contents) ↔
      InOrder entries leadOut) ∧
    ∀ contents first rest, entries = first :: rest →
      ofEntries entries leadOut lastSession = .ok contents →
      LaysOut entries first.start leadOut lastSession contents := by
  refine ⟨ofEntries_nil .., exists_ofEntries_eq_ok_iff, ?_⟩
  rintro contents first rest rfl found
  exact laysOut_of_ofEntries found

/-- A track without sectors stands at the start of the second session. -/
theorem two_sessions_tile_disc :
    LaysOut [⟨1, 0, false⟩, ⟨2, 100, true⟩, ⟨3, 100, true⟩] 0 250 (some 100)
      { sessions := [⟨0, 100⟩, ⟨100, 150⟩]
        tracks := [⟨1, 0, 100, .audio⟩, ⟨2, 100, 0, .data⟩, ⟨3, 100, 150, .data⟩] } :=
  (layout_tiles_disc _ 250 (some 100)).2.2 _ ⟨1, 0, false⟩ _ rfl rfl

end TableOfContents

end StorageMedia
