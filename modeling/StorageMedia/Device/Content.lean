/-! # Contents of files and media

A content is a size and the byte at each offset, so that even a content as large as an address
space takes no room. Offsets from the size on hold no data.
-/

namespace StorageMedia

/-- Bytes of a file or a media. -/
structure Content where
  size : Nat
  byteAt : Nat → UInt8

namespace Content

def empty : Content := ⟨0, fun _ => 0⟩

def ofArray (bytes : Array UInt8) : Content := ⟨bytes.size, fun offset => bytes.getD offset 0⟩

/-- Content of a given size whose bytes run from zero up to 250 again and again. -/
def pattern (size : Nat) : Content := ⟨size, fun offset => UInt8.ofNat (offset % 251)⟩

/-- Bytes of a range, as far as it lies in the content. -/
def slice (content : Content) (offset count : Nat) : List UInt8 :=
  (List.range' offset (min count (content.size - offset))).map content.byteAt

def toList (content : Content) : List UInt8 := content.slice 0 content.size

/-- A slice is as long as the part of its range that lies in the content. -/
@[simp] theorem length_slice (content : Content) (offset count : Nat) :
    (content.slice offset count).length = min count (content.size - offset) := by
  simp [slice]

/-- Each byte of a slice is the byte at its offset. -/
theorem getElem_slice (content : Content) (offset count index : Nat)
    (bound : index < (content.slice offset count).length) :
    (content.slice offset count)[index] = content.byteAt (offset + index) := by
  simp [slice]

end Content

end StorageMedia
