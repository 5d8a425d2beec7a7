import StorageMedia.Proofs.Handle.Bounds

/-! # Where seeks lead

A seek leads to a distance from a base: the start of the media, the offset of the handle or the end
of the media. It reaches exactly the offsets up to the largest signed number, and it counts from
bases up to there. No seek leaves an offset behind that lies further on, but a read may: on a media
that is larger than any seek reaches. From there, and from the end of such a media, all seeks are
refused, also those that lead back to an offset that can be reached from the start.
-/

namespace StorageMedia

variable {σ : Type} [Device σ]

namespace Handle

/-! ## How far the offset gets -/

omit [Device σ] in
/-- The offset is one that seeks reach, or lies on the media or at its end. -/
def StaysInReach (handle : Handle σ) : Prop := handle.cursor ≤ max maxSeekOffset handle.knownSize

variable {patience : Nat} {handle after : Handle σ} {events : List (Event σ)}

/-- A seek ends in its reach, and a read on the media. -/
theorem Step.staysInReach (step : Step patience handle events after)
    (before : handle.StaysInReach) : after.StaysInReach := by
  have larger := step.knownSize_le
  simp only [StaysInReach] at before ⊢
  cases step with
  | move _ reachable => exact Nat.le_trans reachable (Nat.le_max_left _ _)
  | measure | identify | survey =>
    rw [cursor_resume]
    omega
  | @transfer session geometry bytes opened known positive fits =>
    have size : handle.knownSize = geometry.mediaSize.toNat :=
      knownSize_eq (by simp [knownGeometry, opened, known])
    generalize read : Transfer.read handle.options patience session handle.aborted handle.cursor
      bytes = transfer at larger ⊢
    cases result : transfer.2 with
    | ok count =>
      have given := (Transfer.read_done (read ▸ result)).2
      rw [result] at larger
      simp only [afterTransfer] at larger ⊢
      omega
    | error | pending =>
      rw [result] at larger
      simp only [afterTransfer] at larger ⊢
      omega

end Handle

namespace Operation

open Handle

variable {host : Host σ} {patience : Nat} {handle : Handle σ}

/-- Whatever was done with a handle before, its offset lies in the reach of seeks or on the media. -/
theorem Reachable.staysInReach (reached : Reachable host patience handle) :
    handle.StaysInReach := by
  induction reached with
  | fresh => exact Nat.zero_le _
  | @step handle operation _ _ before =>
    have effect := apply_effect host patience handle operation
    generalize (operation.apply host patience handle).outcome.events = events at effect
    generalize (operation.apply host patience handle).outcome.state = after at effect ⊢
    cases effect with
    | works steps => exact steps.keep Step.staysInReach before
    | opens | closes => exact Nat.zero_le _
    | configures | signals => exact before

end Operation

namespace Handle

/-! ## What a seek comes to -/

variable {handle : Handle σ} {base : Nat} {offset : Int} {origin : Origin}

/-- Offset that an origin stands for. The end of the media has none if its size is not found out. -/
def base? (handle : Handle σ) : Origin → Option Nat
  | .start => some 0
  | .current => some handle.cursor
  | .mediaEnd =>
    match handle.mediaSize.result with
    | .ok size => some size.toNat
    | _ => none

/-- A seek leads to its distance from a base if that is an offset which seeks reach, and is refused
and leaves the offset alone otherwise. -/
def SeeksExactly (handle : Handle σ) (base : Nat) (offset : Int) (origin : Origin) : Prop :=
  let sought := handle.seek offset origin
  if 0 ≤ base + offset ∧ base + offset ≤ maxSeekOffset then
    sought.result = .ok (base + offset).toNat ∧ sought.state.cursor = (base + offset).toNat
  else
    sought.result = .error (.outOfBounds offset origin) ∧ sought.state.cursor = handle.cursor

/-- The size of the media is not known, and the device tells it neither as a positive number nor by
a seek to its end. -/
def IsUnmeasurable (handle : Handle σ) : Prop :=
  ∃ session, handle.session = some session ∧ session.knownGeometry = none ∧
    (∀ size, (Device.mediaSize session.device).2 = .ok (some size) → size = 0) ∧
    ∃ error, (Device.seekEnd (Device.mediaSize session.device).1).2 = .error error

/-- An open handle has no media size exactly if its media cannot be measured. -/
theorem mediaSize_error_iff (opened : handle.isOpen = true) (cause : Error) :
    handle.mediaSize.result = .error cause ↔
      cause = .geometryUnavailable ∧ handle.IsUnmeasurable := by
  obtain ⟨session, found⟩ := Option.isSome_iff_exists.mp opened
  have fails : handle.mediaSize.result = .error cause ↔ session.geometry.result = .error cause := by
    simp only [mediaSize, geometry, onSession, found, Outcome.map, Outcome.mapState, Result.map]
    cases session.geometry.result <;> simp
  rw [fails]
  cases known : session.knownGeometry with
  | some geometry =>
    rw [Session.geometry_of_known known]
    simp [Outcome.answer, IsUnmeasurable, found, known]
  | none =>
    simp only [Session.geometry, known, resolveGeometry_error_iff]
    simp [IsUnmeasurable, found, known]

theorem mediaSize_ne_pending (handle : Handle σ) : handle.mediaSize.result ≠ .pending := by
  cases opened : handle.session with
  | none => simp [mediaSize, geometry, onSession_closed opened, Outcome.refuse, Outcome.map, Result.map]
  | some session =>
    have returns := session.geometry_ne_pending
    simp only [mediaSize, geometry, onSession, opened, Outcome.map, Outcome.mapState, Result.map]
    cases result : session.geometry.result <;> simp_all

/-- An origin stands for no offset exactly if it is the end of a media that cannot be measured. -/
theorem base?_eq_none_iff (opened : handle.isOpen = true) :
    handle.base? origin = none ↔ origin = .mediaEnd ∧ handle.IsUnmeasurable := by
  cases origin with
  | start | current => simp [base?]
  | mediaEnd =>
    have unmeasured := mediaSize_error_iff opened .geometryUnavailable
    simp only [base?, true_and]
    cases result : handle.mediaSize.result with
    | ok size => simpa [result] using unmeasured
    | error cause => simpa using ((mediaSize_error_iff opened cause).mp result).2
    | pending => exact absurd result (mediaSize_ne_pending handle)

private theorem seek_of_base (opened : handle.isOpen = true)
    (counts : handle.base? origin = some base) (offset : Int) :
    ∃ middle : Handle σ, middle.cursor = handle.cursor ∧
      (handle.seek offset origin).result = (middle.seekFrom base offset origin).result ∧
      (handle.seek offset origin).state = (middle.seekFrom base offset origin).state := by
  cases origin with
  | start | current =>
    obtain rfl := Option.some.inj counts
    refine ⟨handle, rfl, ?_⟩
    rw [seek, if_pos opened]
    exact ⟨rfl, rfl⟩
  | mediaEnd =>
    simp only [base?] at counts
    split at counts
    · next size found =>
      obtain rfl := Option.some.inj counts
      refine ⟨handle.mediaSize.state, cursor_mediaSize handle, ?_⟩
      rw [seek, Outcome.andThen_of_ok found]
      exact ⟨rfl, rfl⟩
    · cases counts

/-- Seeks from a base that they reach are exact. -/
theorem seeksExactly_of_le (opened : handle.isOpen = true)
    (counts : handle.base? origin = some base) (reachable : base ≤ maxSeekOffset) :
    handle.SeeksExactly base offset origin := by
  obtain ⟨middle, cursor, result, state⟩ := seek_of_base opened counts offset
  simp only [SeeksExactly, result, state, seekFrom, ← cursor]
  by_cases inside : 0 ≤ (base : Int) + offset ∧ (base : Int) + offset ≤ maxSeekOffset
  · rw [if_pos inside, if_pos ⟨reachable, inside⟩]
    exact ⟨rfl, rfl⟩
  · rw [if_neg inside, if_neg fun all => inside all.2]
    exact ⟨rfl, rfl⟩

/-- Seeks from a base that they do not reach are refused. -/
theorem seek_of_lt (opened : handle.isOpen = true) (counts : handle.base? origin = some base)
    (beyond : maxSeekOffset < base) (offset : Int) :
    (handle.seek offset origin).result = .error (.outOfBounds offset origin) ∧
      (handle.seek offset origin).state.cursor = handle.cursor := by
  obtain ⟨middle, cursor, result, state⟩ := seek_of_base opened counts offset
  rw [result, state, seekFrom, if_neg fun all => absurd all.1 (Nat.not_le.mpr beyond)]
  exact ⟨rfl, cursor⟩

/-- A seek without a base fails as the question for the size of the media does. -/
theorem seek_of_no_base (opened : handle.isOpen = true) (unmeasured : handle.base? origin = none) :
    (handle.seek offset origin).result = .error .geometryUnavailable ∧
      (handle.seek offset origin).state.cursor = handle.cursor := by
  obtain ⟨rfl, fails⟩ := (base?_eq_none_iff opened).mp unmeasured
  have failed := (mediaSize_error_iff opened _).mpr ⟨rfl, fails⟩
  rw [seek, Outcome.andThen, failed]
  exact ⟨rfl, cursor_mediaSize handle⟩

/-- A base that no seek reaches lies on a media that is larger than any seek reaches. -/
theorem le_mediaSize_of_lt (bounded : handle.StaysInReach)
    (counts : handle.base? origin = some base) (beyond : maxSeekOffset < base) :
    ∃ size, handle.mediaSize.result = .ok size ∧ base ≤ size.toNat := by
  cases origin with
  | start =>
    obtain rfl := Option.some.inj counts
    exact absurd beyond (Nat.not_lt_zero _)
  | current =>
    obtain rfl := Option.some.inj counts
    have within : handle.cursor ≤ handle.knownSize := by
      simp only [StaysInReach] at bounded
      omega
    cases known : handle.knownGeometry with
    | none =>
      simp only [knownSize, known] at within
      exact absurd within (by simp; omega)
    | some geometry =>
      rw [knownSize_eq known] at within
      obtain ⟨session, found, kept⟩ := Option.bind_eq_some_iff.mp known
      refine ⟨geometry.mediaSize, ?_, within⟩
      simp [mediaSize, Handle.geometry, onSession, found, Session.geometry_of_known kept,
        Outcome.answer, Outcome.map, Outcome.mapState, Result.map]
  | mediaEnd =>
    simp only [base?] at counts
    split at counts
    · next size measured =>
      obtain rfl := Option.some.inj counts
      exact ⟨size, measured, Nat.le_refl _⟩
    · cases counts

end Handle

namespace Operation

open Handle

variable {host : Host σ} {patience : Nat} {handle : Handle σ}

/-- On every open handle that operations reach, a seek from a base in the reach of seeks is exact: it
leads to its distance from there if that lies in the reach of seeks, and is out of bounds otherwise. A
base beyond is the offset of a read on a media that is larger than any seek reaches, or the end of
such a media; from there every seek is out of bounds. Only a seek from the end of a media that cannot
be measured has no base, and it fails because the size of the media is not available. A seek that
fails leaves the offset alone. -/
theorem seek_exact_in_reach (reached : Reachable host patience handle)
    (opened : handle.isOpen = true) (offset : Int) (origin : Origin) :
    let sought := handle.seek offset origin
    (∀ base, handle.base? origin = some base →
      (base ≤ maxSeekOffset → handle.SeeksExactly base offset origin) ∧
      (maxSeekOffset < base →
        sought.result = .error (.outOfBounds offset origin) ∧
        sought.state.cursor = handle.cursor ∧
        ∃ size, handle.mediaSize.result = .ok size ∧ base ≤ size.toNat)) ∧
    (handle.base? origin = none ↔ origin = .mediaEnd ∧ handle.IsUnmeasurable) ∧
    (handle.base? origin = none →
      sought.result = .error .geometryUnavailable ∧ sought.state.cursor = handle.cursor) := by
  intro sought
  refine ⟨fun base counts => ⟨seeksExactly_of_le opened counts, fun beyond => ?_⟩,
    base?_eq_none_iff opened, seek_of_no_base opened⟩
  obtain ⟨refused, stays⟩ := seek_of_lt opened counts beyond offset
  exact ⟨refused, stays, le_mediaSize_of_lt reached.staysInReach counts beyond⟩

end Operation

/-- A media with one byte more than seeks reach. -/
def ScriptedDevice.lofty : ScriptedDevice where
  content := .pattern (maxSeekOffset + 1)
  mediaSize := .ok (some 0x8000_0000_0000_0000)
  seekEnd := .ok 0x8000_0000_0000_0000

namespace Operation

/-- A handle that has read the last byte of a media, where no seek leads. -/
def loftyHandle : Handle ScriptedDevice :=
  let opened := (Handle.withOptions {}).startSession "drive" ScriptedDevice.lofty
  ((opened.seek maxSeekOffset .start).state.read 0 1).state

theorem reachable_loftyHandle : Reachable Host.empty 0 loftyHandle := by
  have opened : Reachable Host.empty 0
      ((Handle.withOptions {}).startSession "drive" ScriptedDevice.lofty) :=
    (Reachable.fresh {}).step (.openDevice "drive" ScriptedDevice.lofty) (by rintro ⟨⟩)
  have moved := opened.step (.seek maxSeekOffset .start) (by rintro ⟨⟩)
  exact moved.step (.read 1) (by rintro ⟨⟩)

/-- A read has carried the offset out of the reach of seeks, and the way back is barred. -/
theorem lofty_not_seeksExactly :
    Reachable Host.empty 0 loftyHandle ∧ loftyHandle.isOpen = true ∧
      loftyHandle.base? .current = some (maxSeekOffset + 1) ∧
      ¬ loftyHandle.SeeksExactly (maxSeekOffset + 1) (-1) .current := by
  refine ⟨reachable_loftyHandle, rfl, rfl, ?_⟩
  rw [Handle.SeeksExactly, if_pos (by decide)]
  rintro ⟨result, _⟩
  cases result

/-- It still leads anywhere from the start. -/
theorem lofty_exact_in_reach :
    Reachable Host.empty 0 loftyHandle ∧ loftyHandle.isOpen = true ∧
      loftyHandle.SeeksExactly 0 maxSeekOffset .start ∧
      (loftyHandle.seek (-1) .current).result = .error (.outOfBounds (-1) .current) ∧
      ∃ size, loftyHandle.mediaSize.result = .ok size ∧ maxSeekOffset + 1 ≤ size.toNat := by
  have opened : loftyHandle.isOpen = true := rfl
  have current : loftyHandle.base? .current = some (maxSeekOffset + 1) := rfl
  obtain ⟨starts, _, _⟩ := seek_exact_in_reach reachable_loftyHandle opened maxSeekOffset .start
  obtain ⟨counts, _, _⟩ := seek_exact_in_reach reachable_loftyHandle opened (-1) .current
  obtain ⟨refused, _, large⟩ := (counts _ current).2 (Nat.lt_succ_self _)
  exact ⟨reachable_loftyHandle, opened, (starts 0 rfl).1 (Nat.zero_le _), refused, large⟩

end Operation

end StorageMedia
