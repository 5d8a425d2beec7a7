import StorageMedia.Device.Content

/-! # Bytes by the stretch

A read may ask for far more bytes than the media delivers, and a block that is given up is zeroed
as a whole. Bytes are therefore kept as stretches, each of which takes the same room whatever its
size. `toList` is what they stand for, and every operation has one equation through it.
-/

namespace StorageMedia

/-- Consecutive bytes. -/
inductive Stretch
  /-- One byte over and over. -/
  | repeated (count : Nat) (byte : UInt8)
  /-- So many bytes from an offset of some content on. -/
  | part (byteAt : Nat → UInt8) (offset count : Nat)

namespace Stretch

def size : Stretch → Nat
  | repeated count _ | part _ _ count => count

def toList : Stretch → List UInt8
  | repeated count byte => List.replicate count byte
  | part byteAt offset count => (List.range' offset count).map byteAt

/-- The first bytes of a stretch. -/
def take (number : Nat) : Stretch → Stretch
  | repeated count byte => repeated (min number count) byte
  | part byteAt offset count => part byteAt offset (min number count)

def drop (number : Nat) : Stretch → Stretch
  | repeated count byte => repeated (count - number) byte
  | part byteAt offset count => part byteAt (offset + number) (count - number)

@[simp] theorem length_toList (stretch : Stretch) : stretch.toList.length = stretch.size := by
  cases stretch <;> simp [toList, size]

@[simp] theorem toList_take (number : Nat) (stretch : Stretch) :
    (stretch.take number).toList = stretch.toList.take number := by
  cases stretch with
  | repeated => simp [take, toList]
  | part => apply List.ext_getElem <;> simp [take, toList]

@[simp] theorem toList_drop (number : Nat) (stretch : Stretch) :
    (stretch.drop number).toList = stretch.toList.drop number := by
  cases stretch <;> simp [drop, toList, ← List.map_drop, List.drop_range']

end Stretch

/-- Bytes in order, stretch after stretch. -/
structure Bytes where
  stretches : List Stretch

namespace Bytes

def empty : Bytes := ⟨[]⟩

/-- One byte over and over. -/
def replicate (count : Nat) (byte : UInt8) : Bytes := ⟨[.repeated count byte]⟩

/-- Bytes of a range of a content, as far as it lies in the content. -/
def ofContent (content : Content) (offset count : Nat) : Bytes :=
  ⟨[.part content.byteAt offset (min count (content.size - offset))]⟩

def ofList (bytes : List UInt8) : Bytes := ofContent (.ofArray bytes.toArray) 0 bytes.length

/-- Bytes of a text in UTF-8. -/
def ofText (text : String) : Bytes := ofList text.toUTF8.toList

def toList (bytes : Bytes) : List UInt8 := bytes.stretches.flatMap Stretch.toList

def size (bytes : Bytes) : Nat := bytes.stretches.foldr (·.size + ·) 0

/-- Content with these bytes. -/
def toContent (bytes : Bytes) : Content := .ofArray bytes.toList.toArray

instance : Append Bytes := ⟨fun front back => ⟨front.stretches ++ back.stretches⟩⟩

/-- Move the first bytes of a list of stretches to the end of another one, whose last stretch comes
first. -/
def shift : Nat → List Stretch → List Stretch → List Stretch × List Stretch
  | _, front, [] => (front, [])
  | number, front, stretch :: rest =>
    if number = 0 then (front, stretch :: rest)
    else if number < stretch.size then (stretch.take number :: front, stretch.drop number :: rest)
    else shift (number - stretch.size) (stretch :: front) rest

/-- Take the last bytes off a list of stretches whose last stretch comes first. -/
def retract : Nat → List Stretch → List Stretch
  | _, [] => []
  | number, stretch :: rest =>
    if number < stretch.size then stretch.take (stretch.size - number) :: rest
    else retract (number - stretch.size) rest

def take (number : Nat) (bytes : Bytes) : Bytes := ⟨(shift number [] bytes.stretches).1.reverse⟩

def drop (number : Nat) (bytes : Bytes) : Bytes := ⟨(shift number [] bytes.stretches).2⟩

@[simp] theorem toList_empty : empty.toList = [] := rfl

@[simp] theorem toList_replicate (count : Nat) (byte : UInt8) :
    (replicate count byte).toList = List.replicate count byte := by
  simp [replicate, toList, Stretch.toList]

@[simp] theorem toList_ofContent (content : Content) (offset count : Nat) :
    (ofContent content offset count).toList = content.slice offset count := by
  simp [ofContent, toList, Stretch.toList, Content.slice]

@[simp] theorem toList_ofList (bytes : List UInt8) : (ofList bytes).toList = bytes := by
  apply List.ext_getElem <;> simp +contextual [ofList, Content.slice, Content.ofArray]

@[simp] theorem toList_append (front back : Bytes) :
    (front ++ back).toList = front.toList ++ back.toList :=
  List.flatMap_append

@[simp] theorem length_toList (bytes : Bytes) : bytes.toList.length = bytes.size := by
  obtain ⟨stretches⟩ := bytes
  induction stretches with
  | nil => rfl
  | cons stretch rest ih => simpa [toList, size] using ih

/-- Shifting takes the first bytes off one list and puts them at the end of the other. -/
theorem flatMap_shift (number : Nat) (front back : List Stretch) :
    (shift number front back).1.reverse.flatMap Stretch.toList =
        front.reverse.flatMap Stretch.toList ++ (back.flatMap Stretch.toList).take number ∧
      (shift number front back).2.flatMap Stretch.toList =
        (back.flatMap Stretch.toList).drop number := by
  induction back generalizing number front with
  | nil => simp [shift]
  | cons stretch back ih =>
    simp only [shift]
    split
    · next none => simp [none]
    · split
      · next some less =>
        simp [List.take_append_of_le_length, List.drop_append_of_le_length, Nat.le_of_lt less]
      · next some all =>
        have long : stretch.toList.length ≤ number := by simpa using all
        simp [ih, List.take_append, List.drop_append, List.take_of_length_le long,
          List.drop_of_length_le long]

/-- Retracting takes the last bytes off. -/
theorem flatMap_retract (number : Nat) (front : List Stretch) :
    (retract number front).reverse.flatMap Stretch.toList =
      (front.reverse.flatMap Stretch.toList).take
        ((front.reverse.flatMap Stretch.toList).length - number) := by
  induction front generalizing number with
  | nil => simp [retract]
  | cons stretch front ih =>
    simp only [retract]
    split
    · next some =>
      have whole : (front.reverse.flatMap Stretch.toList).length ≤
          (front.reverse.flatMap Stretch.toList).length + stretch.size - number := by omega
      simp only [List.reverse_cons, List.flatMap_append, List.flatMap_singleton,
        Stretch.toList_take, List.length_append, Stretch.length_toList, List.take_append,
        List.take_of_length_le whole]
      congr 2
      omega
    · next all =>
      simp only [ih, List.reverse_cons, List.flatMap_append, List.flatMap_singleton,
        List.length_append, Stretch.length_toList]
      rw [List.take_append_of_le_length (by omega)]
      congr 1
      omega

@[simp] theorem toList_take (number : Nat) (bytes : Bytes) :
    (bytes.take number).toList = bytes.toList.take number := by
  simp [take, toList, (flatMap_shift number [] bytes.stretches).1]

@[simp] theorem toList_drop (number : Nat) (bytes : Bytes) :
    (bytes.drop number).toList = bytes.toList.drop number :=
  (flatMap_shift number [] bytes.stretches).2

@[simp] theorem size_replicate (count : Nat) (byte : UInt8) :
    (replicate count byte).size = count := by
  rw [← length_toList, toList_replicate, List.length_replicate]

@[simp] theorem size_append (front back : Bytes) :
    (front ++ back).size = front.size + back.size := by
  rw [← length_toList, toList_append, List.length_append, length_toList, length_toList]

@[simp] theorem size_take (number : Nat) (bytes : Bytes) :
    (bytes.take number).size = min number bytes.size := by
  rw [← length_toList, toList_take, List.length_take, length_toList]

@[simp] theorem size_drop (number : Nat) (bytes : Bytes) :
    (bytes.drop number).size = bytes.size - number := by
  rw [← length_toList, toList_drop, List.length_drop, length_toList]

end Bytes

end StorageMedia
