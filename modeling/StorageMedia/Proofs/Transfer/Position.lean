import StorageMedia.Proofs.Device.Medium
import StorageMedia.Proofs.Transfer.Steps

/-! # The device stands where its session believes

`Session.Tracks` says that the position that a session keeps is the true one. Every step of a
transfer keeps it so, and reads the device only where the next byte is.
-/

namespace StorageMedia

variable {σ : Type} [Device σ] {rules : Positioned σ}

/-- A read happens while the device stands at the offset that it is for. -/
def Event.InPlace (rules : Positioned σ) : Event σ → Prop
  | read device offset _ _ => rules.position device = offset
  | _ => True

theorem Event.inPlace_of_isInquiry {event : Event σ} (inquiry : event.isInquiry = true) :
    event.InPlace rules := by
  cases event with
  | read => simp [Event.isInquiry] at inquiry
  | _ => trivial

/-- The device of a session obeys the laws and stands where the session believes it to stand. -/
structure Session.Tracks (rules : Positioned σ) (session : Session σ) : Prop where
  obeys : rules.Obeys session.device
  stands : ∀ offset, session.position = some offset → rules.position session.device = offset

namespace Session.Tracks

variable {session : Session σ}

/-- Finding out the geometry may move the device, but then the session knows no position. -/
theorem geometry (tracks : session.Tracks rules) : session.geometry.state.Tracks rules := by
  simp only [Session.geometry]
  split
  · exact tracks
  · have kept : rules.Obeys (resolveGeometry session.device).state :=
      resolveGeometry_keeps rules.Obeys (fun _ query obeys => rules.obeys_query obeys query)
        tracks.obeys
    exact ⟨kept, by rintro _ ⟨⟩⟩

/-- Nobody signals an abort while the geometry of calm devices is found out. -/
theorem geometry_calm (tracks : session.Tracks rules)
    (calm : ∀ {device}, rules.Obeys device → Device.IsCalm device) :
    ∀ event ∈ session.geometry.events, event.raises = false :=
  Session.geometry_calm (fun _ query obeys => rules.obeys_query obeys query) (fun _ => calm)
    tracks.obeys

private theorem afterQuery (tracks : session.Tracks rules) (query : Query)
    (quiet : query ≠ .seekEnd) {after : Session σ}
    (device : after.device = Device.afterQuery query session.device)
    (position : after.position = session.position) : after.Tracks rules := by
  refine ⟨device ▸ rules.obeys_query tracks.obeys query, fun offset known => ?_⟩
  rw [device, rules.position_query tracks.obeys quiet]
  exact tracks.stands offset (position ▸ known)

theorem mediaInformation (tracks : session.Tracks rules) :
    session.mediaInformation.state.Tracks rules := by
  simp only [Session.mediaInformation]
  split
  · exact tracks
  · split <;> exact afterQuery tracks .mediaInformation (by decide) rfl rfl

theorem tableOfContents (tracks : session.Tracks rules) :
    session.tableOfContents.state.Tracks rules := by
  simp only [Session.tableOfContents]
  split
  · exact tracks
  · split <;> exact afterQuery tracks .tableOfContents (by decide) rfl rfl

/-- A device that was brought to an offset stands there; one that refused stands where it was. -/
theorem moveTo (tracks : session.Tracks rules) (offset : Nat) :
    (session.moveTo offset).state.Tracks rules ∧
      ((session.moveTo offset).result = .ok () →
        rules.position (session.moveTo offset).state.device = offset) := by
  simp only [Session.moveTo]
  split
  · next known => exact ⟨tracks, fun _ => tracks.stands offset known⟩
  split
  · next sought =>
    have arrived := rules.position_seek tracks.obeys sought
    refine ⟨⟨rules.obeys_seek tracks.obeys offset, ?_⟩, fun _ => arrived⟩
    rintro _ ⟨⟩
    exact arrived
  · next failed =>
    refine ⟨⟨rules.obeys_seek tracks.obeys offset, fun other known => ?_⟩, by rintro ⟨⟩⟩
    rw [rules.position_failed_seek tracks.obeys failed]
    exact tracks.stands other known

end Session.Tracks

namespace Transfer

variable {options : Options} {start : Nat} {transfer : Transfer σ}

/-- The transfer knows where its device stands, and all its reads happened in place. -/
structure Tracks (rules : Positioned σ) (transfer : Transfer σ) : Prop where
  session : transfer.session.Tracks rules
  events : ∀ event ∈ transfer.events, event.InPlace rules

namespace Tracks

theorem brought (tracks : transfer.Tracks rules) (start : Nat) :
    (transfer.brought start).Tracks rules :=
  ⟨(tracks.session.moveTo _).1, forall_events_brought (fun _ _ => trivial) tracks.events⟩

/-- The read of a step happens in place and leaves the device behind the bytes it reports. -/
theorem fetched (tracks : transfer.Tracks rules) {outcome : Except IoError Nat}
    (fetches : transfer.Fetches start outcome) :
    (transfer.fetched start).loseTrack.Tracks rules ∧
      ∀ count, outcome = .ok count → count ≤ transfer.buffer.free →
        rules.position (transfer.fetched start).session.device =
          start + transfer.buffer.done + count := by
  have moved := tracks.brought start
  have arrived := (tracks.session.moveTo (start + transfer.buffer.done)).2 fetches.arrived
  refine ⟨⟨⟨rules.obeys_read moved.session.obeys _, by rintro _ ⟨⟩⟩, ?_⟩, ?_⟩
  · rintro event (_ | ⟨_, before⟩)
    · exact arrived
    · exact moved.events event before
  · rintro count rfl fits
    have passed := rules.position_read moved.session.obeys fetches.reported fits
    exact passed.trans (congrArg (· + count) arrived)

/-- A notice changes nothing about the device. -/
theorem report (tracks : transfer.Tracks rules) (fact : Notice) :
    (transfer.report fact).Tracks rules := by
  refine ⟨tracks.session, ?_⟩
  rintro event (_ | ⟨_, before⟩)
  · trivial
  · exact tracks.events event before

theorem loseTrack (tracks : transfer.Tracks rules) : transfer.loseTrack.Tracks rules :=
  ⟨⟨tracks.session.obeys, by rintro _ ⟨⟩⟩, tracks.events⟩

theorem giveUp (tracks : transfer.Tracks rules) : (transfer.giveUp options start).Tracks rules := by
  refine ⟨tracks.session, ?_⟩
  rintro event (_ | ⟨_, before⟩)
  · trivial
  · exact tracks.events event before

theorem tolerate (tracks : transfer.Tracks rules) (error : IoError) :
    (transfer.tolerate options start error).Tracks rules := by
  have counted : ({ transfer with failures := transfer.failures + 1 } : Transfer σ).Tracks rules :=
    ⟨tracks.session, tracks.events⟩
  rcases tolerate_cases options start transfer error with ⟨_, same⟩ | ⟨_, same⟩
  · rw [same]
    exact (counted.report _).giveUp
  · rw [same]
    exact counted.report _

/-- A step keeps track of the device. -/
theorem step (tracks : transfer.Tracks rules) :
    (transfer.step options start).transfer.Tracks rules := by
  have cases := step_stepsTo options start transfer
  generalize transfer.step options start = outcome at cases ⊢
  cases cases with
  | full => exact tracks
  | aborted => exact (tracks.report _).loseTrack
  | astray => exact tracks.brought start
  | drained fetches =>
    obtain ⟨lost, passed⟩ := tracks.fetched fetches
    refine ⟨⟨lost.session.obeys, fun offset known => ?_⟩, lost.events⟩
    -- The end of the data was read in place, so what the session knew is still true.
    have arrived := (tracks.session.moveTo (start + transfer.buffer.done)).2 fetches.arrived
    have stood := (tracks.brought start).session.stands offset known
    exact (passed 0 rfl (Nat.zero_le _)).trans (arrived.symm.trans stood)
  | overrun fetches => exact (tracks.fetched fetches).1
  | kept fetches _ fits =>
    obtain ⟨lost, passed⟩ := tracks.fetched fetches
    refine ⟨⟨lost.session.obeys, ?_⟩, lost.events⟩
    rintro _ ⟨⟩
    exact passed _ rfl fits
  | interrupted fetches => exact (tracks.fetched fetches).1
  | tolerated fetches => exact (tracks.fetched fetches).1.tolerate _
  | failed fetches => exact (tracks.fetched fetches).1

end Tracks

end Transfer

/-- A whole transfer keeps track of the device. -/
theorem Session.Tracks.read {session : Session σ} (tracks : session.Tracks rules)
    (options : Options) (patience : Nat) (aborted : Bool) (start : Nat) (bytes : Bytes) :
    (Transfer.read options patience session aborted start bytes).1.Tracks rules := by
  have started : ({ session, aborted, buffer := .ofBytes bytes } : Transfer σ).Tracks rules :=
    ⟨tracks, by simp⟩
  exact Transfer.run_keeps (Transfer.Tracks rules) (fun _ => Transfer.Tracks.step) _ started

end StorageMedia
