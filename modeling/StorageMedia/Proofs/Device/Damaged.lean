import StorageMedia.Proofs.Device.Medium

/-! # Devices with damage that stays

A damaged medium has offsets that can never be read. A read that starts at one of them always fails,
with an error that is worth a retry, and every other read before the end gives at least one byte and
stops short before the next such offset. The damage may lie anywhere, and how many bytes a read
gives is left open.

Scripted devices without a script are of this kind if their bad regions do not heal.
-/

namespace StorageMedia

/-- Devices of a type that read one fixed media, some offsets of which can never be read. -/
structure DamagedMedium (σ : Type) [Device σ] extends Medium σ where
  /-- Number of bytes of the media. -/
  size : Nat
  /-- The offsets that cannot be read. -/
  Bad : Nat → Prop
  seeks {device : σ} (obeys : Obeys device) (target : Nat) :
    ∃ answer, (Device.seek device target).2 = .ok answer
  calm {device : σ} (obeys : Obeys device) : Device.IsCalm device
  /-- A read at a bad offset fails in a way that may be tried again. -/
  fails {device : σ} {capacity : Nat} (obeys : Obeys device) (room : 0 < capacity)
    (bad : Bad (position device)) :
    ∃ error, (Device.read device capacity).result = .error error ∧
      error.isInterrupted = false ∧ error.isRetryable = true
  /-- Any other read before the end gives bytes, none of them at a bad offset. -/
  gives {device : σ} {capacity : Nat} (obeys : Obeys device) (room : 0 < capacity)
    (good : ¬ Bad (position device)) (inside : position device < size) :
    ∃ count, (Device.read device capacity).result = .ok count ∧ 0 < count ∧ count ≤ capacity ∧
      position device + count ≤ size ∧
      ∀ offset, position device ≤ offset → offset < position device + count → ¬ Bad offset
  /-- A read from the end on gives nothing. -/
  ends {device : σ} {capacity : Nat} (obeys : Obeys device) (room : 0 < capacity)
    (good : ¬ Bad (position device)) (behind : size ≤ position device) :
    (Device.read device capacity).result = .ok 0

namespace BadRegion

/-- The region never heals, and its error is worth a retry. -/
structure IsLasting (region : BadRegion) : Prop where
  left : region.left = none
  counted : (IoError.system region.code).isInterrupted = false
  retryable : (IoError.system region.code).isRetryable = true

/-- Failed reads do not wear a lasting region off. -/
theorem IsLasting.wear {region : BadRegion} (lasting : region.IsLasting) :
    region.wear = region := by
  rw [BadRegion.wear, lasting.left, Option.map_none, ← lasting.left]

end BadRegion

namespace Surface

variable {surface : Surface} {position length offset : Nat}

theorem wear_of_lasting (lasting : ∀ region ∈ surface, region.IsLasting) (position : Nat) :
    surface.wear position = surface := by
  induction surface with
  | nil => rfl
  | cons region rest ih =>
    have others : ∀ other ∈ rest, other.IsLasting :=
      fun other member => lasting other (List.mem_cons_of_mem region member)
    rw [wear, (lasting region (by simp)).wear, ih others, ite_self]

def IsBad (surface : Surface) (offset : Nat) : Prop := surface.fault? offset ≠ none

theorem not_isBad_iff : ¬ surface.IsBad offset ↔ surface.fault? offset = none := by
  simp [IsBad]

/-- Each fault is that of a region. -/
theorem exists_of_fault {code : Int} (fault : surface.fault? position = some code) :
    ∃ region ∈ surface, region.code = code := by
  obtain ⟨region, found, same⟩ := Option.map_eq_some_iff.mp fault
  exact ⟨region, List.mem_of_find?_eq_some found, same⟩

theorem fault?_eq_none_iff :
    surface.fault? position = none ↔ ∀ region ∈ surface, region.fails position = false := by
  simp [fault?]

private theorem fails_of_lt_reach {region : BadRegion} (good : region.fails position = false)
    (first : position ≤ offset)
    (before : region.isBad = true → position < region.start → offset < region.start) :
    region.fails offset = false := by
  simp only [BadRegion.fails, Bool.and_eq_false_iff, decide_eq_false_iff_not] at good ⊢
  cases bad : region.isBad with
  | false => simp
  | true =>
    have := before bad
    simp only [bad] at good
    rcases good with (contra | early) | late
    · cases contra
    · exact .inl (.inr (by omega))
    · exact .inr (by omega)

/-- What is reached from a good position is good. -/
theorem fault?_of_lt_reach (good : surface.fault? position = none) (first : position ≤ offset)
    (last : offset < position + surface.reach position length) : surface.fault? offset = none := by
  rw [fault?_eq_none_iff] at good ⊢
  induction surface generalizing length with
  | nil => simp
  | cons region rest ih =>
    rw [List.forall_mem_cons] at good ⊢
    rw [reach] at last
    split at last
    · next before =>
      have most := reach_le rest position (min length (region.start - position))
      simp only [Bool.and_eq_true, decide_eq_true_eq] at before
      exact ⟨fails_of_lt_reach good.1 first fun _ _ => by omega, ih good.2 last⟩
    · next behind =>
      simp only [Bool.and_eq_true, decide_eq_true_eq, not_and] at behind
      exact ⟨fails_of_lt_reach good.1 first fun bad before => absurd before (behind bad),
        ih good.2 last⟩

/-- From every position something is reached. -/
theorem reach_pos (some : 0 < length) : 0 < surface.reach position length := by
  induction surface generalizing length with
  | nil => exact some
  | cons region rest ih =>
    rw [reach]
    split
    · next before =>
      simp only [Bool.and_eq_true, decide_eq_true_eq] at before
      exact ih (by omega)
    · exact ih some

end Surface

namespace ScriptedDevice

variable {template device : ScriptedDevice} {capacity : Nat}

/-- The device reads its surface, whose bad regions do not heal. -/
structure HasDamage (template : ScriptedDevice) : Prop where
  script : template.script = []
  badSeeks : template.badSeeks = []
  maxRead : template.maxRead ≠ some 0
  surface : ∀ region ∈ template.surface, region.IsLasting

/-- The device differs from another one in nothing but its position. -/
def IsMoved (device template : ScriptedDevice) : Prop :=
  device = { template with position := device.position }

theorem IsMoved.moveTo (moved : device.IsMoved template) (position : Nat) :
    IsMoved { device with position } template := by
  have same : ({ device with position } : ScriptedDevice) = { template with position } :=
    congrArg (fun other : ScriptedDevice => { other with position }) moved
  exact same

namespace HasDamage

private theorem read_of_fault (damage : template.HasDamage) (moved : device.IsMoved template)
    {code : Int} (fault : template.surface.fault? device.position = some code) :
    device.read capacity =
      { device, stored := scribbled {} capacity .empty, result := .error (.system code) } := by
  have surface : device.surface = template.surface := congrArg (·.surface) moved
  have script : device.script = [] := (congrArg (·.script) moved).trans damage.script
  simp only [read, script, List.headD_nil, List.tail_nil, readSurface, surface, fault,
    Surface.wear_of_lasting damage.surface]
  rw [← script, ← surface]

private theorem read_of_good (damage : template.HasDamage) (moved : device.IsMoved template)
    (good : template.surface.fault? device.position = none) (capacity : Nat) :
    ∃ count, (device.read capacity).result = .ok count ∧
      (device.read capacity).device = { device with position := device.position + count } ∧
      (device.read capacity).abort = false ∧
      count = min
        (template.surface.reach device.position (min capacity (template.maxRead.getD capacity)))
        (template.content.size - device.position) := by
  have surface : device.surface = template.surface := congrArg (·.surface) moved
  have script : device.script = [] := (congrArg (·.script) moved).trans damage.script
  have content : device.content = template.content := congrArg (·.content) moved
  have maxRead : device.maxRead = template.maxRead := congrArg (·.maxRead) moved
  simp only [read, script, List.headD_nil, List.tail_nil, readSurface, surface, good, Nat.min_self,
    content, maxRead]
  refine ⟨_, rfl, ?_, trivial, ?_⟩
  · rw [← script, ← surface, ← content, ← maxRead]
  · rw [← Bytes.length_toList, Bytes.toList_ofContent, Content.length_slice]

private theorem limit_pos (damage : template.HasDamage) (room : 0 < capacity) :
    0 < min capacity (template.maxRead.getD capacity) := by
  cases most : template.maxRead with
  | none => simpa using room
  | some limit =>
    have some : limit ≠ 0 := by
      rintro rfl
      exact damage.maxRead most
    simp only [Option.getD_some]
    omega

theorem read (damage : template.HasDamage) (moved : device.IsMoved template) (capacity : Nat) :
    (device.read capacity).device.IsMoved template ∧ (device.read capacity).abort = false := by
  cases fault : template.surface.fault? device.position with
  | some code =>
    rw [damage.read_of_fault moved fault]
    exact ⟨moved, rfl⟩
  | none =>
    obtain ⟨count, _, leaves, calm, _⟩ := damage.read_of_good moved fault capacity
    rw [leaves]
    exact ⟨moved.moveTo _, calm⟩

theorem fails (damage : template.HasDamage) (moved : device.IsMoved template)
    (bad : template.surface.IsBad device.position) :
    ∃ error, (device.read capacity).result = .error error ∧
      error.isInterrupted = false ∧ error.isRetryable = true := by
  obtain ⟨code, fault⟩ := Option.ne_none_iff_exists'.mp bad
  obtain ⟨region, member, rfl⟩ := Surface.exists_of_fault fault
  have lasting := damage.surface region member
  refine ⟨.system region.code, ?_, lasting.counted, lasting.retryable⟩
  rw [damage.read_of_fault moved fault]

theorem gives (damage : template.HasDamage) (moved : device.IsMoved template) (room : 0 < capacity)
    (good : ¬ template.surface.IsBad device.position)
    (inside : device.position < template.content.size) :
    ∃ count, (device.read capacity).result = .ok count ∧ 0 < count ∧ count ≤ capacity ∧
      device.position + count ≤ template.content.size ∧
      ∀ offset, device.position ≤ offset → offset < device.position + count →
        ¬ template.surface.IsBad offset := by
  rw [Surface.not_isBad_iff] at good
  obtain ⟨count, reports, _, _, size⟩ := damage.read_of_good moved good capacity
  have most := Surface.reach_le template.surface device.position
    (min capacity (template.maxRead.getD capacity))
  have some : 0 < template.surface.reach device.position
      (min capacity (template.maxRead.getD capacity)) := Surface.reach_pos (damage.limit_pos room)
  refine ⟨count, reports, by omega, by omega, by omega, fun offset first last => ?_⟩
  have reached : offset < device.position + template.surface.reach device.position
      (min capacity (template.maxRead.getD capacity)) := by omega
  exact Surface.not_isBad_iff.mpr (Surface.fault?_of_lt_reach good first reached)

theorem ends (damage : template.HasDamage) (moved : device.IsMoved template)
    (good : ¬ template.surface.IsBad device.position)
    (behind : template.content.size ≤ device.position) :
    (device.read capacity).result = .ok 0 := by
  rw [Surface.not_isBad_iff] at good
  obtain ⟨count, reports, _, _, size⟩ := damage.read_of_good moved good capacity
  obtain rfl : count = 0 := by omega
  exact reports

theorem seek (damage : template.HasDamage) (moved : device.IsMoved template) (target : Nat) :
    device.seek target = ({ device with position := target }, .ok target) := by
  have badSeeks : device.badSeeks = [] := (congrArg (·.badSeeks) moved).trans damage.badSeeks
  simp only [ScriptedDevice.seek, badSeeks]
  rfl

theorem sought (damage : template.HasDamage) (moved : device.IsMoved template) (target : Nat) :
    (Device.seek device target).1.IsMoved template := by
  rw [show Device.seek device target = device.seek target from rfl, damage.seek moved target]
  exact moved.moveTo target

end HasDamage

theorem IsMoved.afterQuery (moved : device.IsMoved template) (query : Query) :
    (Device.afterQuery query device).IsMoved template := by
  cases query with
  | seekEnd =>
    simp only [Device.afterQuery, Device.seekEnd, seekToEnd]
    split
    · exact moved.moveTo _
    · exact moved
  | _ => exact moved

private theorem HasDamage.obeys (damage : template.HasDamage) (moved : device.IsMoved template) :
    (medium template.content).Obeys device := by
  have script : device.script = [] := (congrArg (·.script) moved).trans damage.script
  exact ⟨congrArg (·.content) moved, by simp [IsHonest, script]⟩

/-- Scripted devices with bad regions that do not heal read the rest of their content. -/
def damagedMedium (template : ScriptedDevice) (damage : template.HasDamage) :
    DamagedMedium ScriptedDevice where
  toMedium :=
    { medium template.content with
      Obeys := (·.IsMoved template)
      obeys_read := fun moved capacity => (damage.read moved capacity).1
      obeys_seek := fun moved target => damage.sought moved target
      obeys_query := fun moved query => moved.afterQuery query
      position_read := fun moved => (medium template.content).position_read (damage.obeys moved)
      position_seek := fun moved => (medium template.content).position_seek (damage.obeys moved)
      position_failed_seek := fun moved =>
        (medium template.content).position_failed_seek (damage.obeys moved)
      position_query := fun moved => (medium template.content).position_query (damage.obeys moved)
      stored_read := fun moved => (medium template.content).stored_read (damage.obeys moved) }
  size := template.content.size
  Bad := template.surface.IsBad
  seeks := fun moved target => ⟨target, congrArg Prod.snd (damage.seek moved target)⟩
  calm := fun moved =>
    ⟨fun capacity => (damage.read moved capacity).2, fun _ => rfl, fun _ => rfl⟩
  fails := fun moved _ bad => damage.fails moved bad
  gives := fun moved room good inside => damage.gives moved room good inside
  ends := fun moved _ good behind => damage.ends moved good behind

/-- Twelve bytes of which two can never be read, in pieces of three at most. -/
def scratched : ScriptedDevice where
  content := .pattern 12
  surface := [{ start := 2, stop := 3, code := 5 }, { start := 5, stop := 6, code := 5 }]
  maxRead := some 3
  mediaSize := .ok (some 12)
  seekEnd := .ok 12

theorem isMoved_scratched : scratched.IsMoved scratched := rfl

theorem hasDamage_scratched : scratched.HasDamage where
  script := rfl
  badSeeks := rfl
  maxRead := by decide
  surface := by
    simp only [scratched, List.forall_mem_cons, List.not_mem_nil, false_implies, implies_true,
      and_true]
    exact ⟨⟨rfl, rfl, rfl⟩, ⟨rfl, rfl, rfl⟩⟩

end ScriptedDevice

end StorageMedia
