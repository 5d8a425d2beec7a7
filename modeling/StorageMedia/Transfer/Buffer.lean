import StorageMedia.Device.Bytes

/-! # Buffers that are filled from the front

A buffer is split at the place where the next byte goes. `bytes` is the whole buffer in order; the
part that is done is kept backwards, so that a step costs no more than the stretches that it
touches.
-/

namespace StorageMedia

/-- A buffer with a part that is done and a part that is still free. -/
structure Buffer where
  /-- The part that is done, last stretch first. -/
  filled : List Stretch
  /-- The part that is free, with whatever bytes it holds. -/
  rest : Bytes
  /-- Number of bytes that are done. -/
  done : Nat
  /-- Number of bytes that are free. -/
  free : Nat
  done_eq : done = (filled.reverse.flatMap Stretch.toList).length
  free_eq : free = rest.toList.length

namespace Buffer

/-- A buffer with these bytes, all of it free. -/
def ofBytes (bytes : Bytes) : Buffer := ⟨[], bytes, 0, bytes.size, rfl, by simp⟩

/-- All bytes of a buffer in order. -/
def bytes (buffer : Buffer) : Bytes := ⟨buffer.filled.reverse⟩ ++ buffer.rest

/-- Put bytes at the front of the free part, as far as they fit, without counting them as done. -/
def store (buffer : Buffer) (bytes : Bytes) : Buffer :=
  { buffer with
    rest := bytes.take buffer.free ++ buffer.rest.drop bytes.size
    free_eq := by
      have := buffer.free_eq
      simp only [Bytes.toList_append, Bytes.toList_take, Bytes.toList_drop, List.length_append,
        List.length_take, List.length_drop, Bytes.length_toList] at this ⊢
      omega }

/-- Count bytes at the front of the free part as done. -/
def advance (buffer : Buffer) (count : Nat) : Buffer :=
  let shifted := Bytes.shift count buffer.filled buffer.rest.stretches
  { filled := shifted.1
    rest := ⟨shifted.2⟩
    done := buffer.done + min count buffer.free
    free := buffer.free - count
    done_eq := by
      simp only [shifted, (Bytes.flatMap_shift ..).1, List.length_append, List.length_take,
        ← buffer.done_eq]
      rw [buffer.free_eq, Bytes.toList]
    free_eq := by
      simp only [Bytes.toList, shifted, (Bytes.flatMap_shift ..).2, List.length_drop]
      rw [buffer.free_eq, Bytes.toList] }

private theorem done_zeroed (buffer : Buffer) (back ahead : Nat) :
    buffer.done + min ahead buffer.free =
      ((.repeated (min back buffer.done + min ahead buffer.free) 0 ::
        Bytes.retract back buffer.filled).reverse.flatMap Stretch.toList).length := by
  simp only [List.reverse_cons, List.flatMap_append, List.flatMap_singleton,
    List.length_append, Bytes.flatMap_retract, List.length_take, ← buffer.done_eq,
    Stretch.length_toList, Stretch.size]
  omega

/-- Zero the last `back` bytes that are done and the first `ahead` bytes that are free, and count
all of them as done. -/
def zero (buffer : Buffer) (back ahead : Nat) : Buffer where
  filled :=
    .repeated (min back buffer.done + min ahead buffer.free) 0 :: Bytes.retract back buffer.filled
  rest := buffer.rest.drop ahead
  done := buffer.done + min ahead buffer.free
  free := buffer.free - ahead
  done_eq := done_zeroed buffer back ahead
  free_eq := by simp only [Bytes.toList_drop, List.length_drop, ← buffer.free_eq]

/-- The whole buffer is the part that is done followed by the part that is free. -/
theorem toList_bytes (buffer : Buffer) :
    buffer.bytes.toList = buffer.filled.reverse.flatMap Stretch.toList ++ buffer.rest.toList :=
  Bytes.toList_append ..

@[simp] theorem bytes_ofBytes (bytes : Bytes) : (ofBytes bytes).bytes.toList = bytes.toList := by
  simp [toList_bytes, ofBytes]

/-- A buffer never changes its size. -/
theorem length_bytes (buffer : Buffer) :
    buffer.bytes.toList.length = buffer.done + buffer.free := by
  rw [toList_bytes, List.length_append, ← buffer.done_eq, ← buffer.free_eq]

/-- Stored bytes start where the free part starts. -/
theorem bytes_store (buffer : Buffer) (bytes : Bytes) :
    (buffer.store bytes).bytes.toList =
      buffer.bytes.toList.take buffer.done ++ bytes.toList.take buffer.free ++
        buffer.bytes.toList.drop (buffer.done + bytes.size) := by
  simp only [toList_bytes, store, Bytes.toList_append, Bytes.toList_take, Bytes.toList_drop]
  simp [buffer.done_eq, List.drop_append]

/-- Counting bytes as done changes none of them. -/
@[simp] theorem bytes_advance (buffer : Buffer) (count : Nat) :
    (buffer.advance count).bytes.toList = buffer.bytes.toList := by
  simp only [toList_bytes, advance, (Bytes.flatMap_shift ..).1]
  simp [Bytes.toList, (Bytes.flatMap_shift ..).2]

/-- Zeroing replaces the bytes around the place where the free part starts. -/
theorem bytes_zero (buffer : Buffer) {back ahead : Nat} (before : back ≤ buffer.done)
    (after : ahead ≤ buffer.free) :
    (buffer.zero back ahead).bytes.toList =
      buffer.bytes.toList.take (buffer.done - back) ++ List.replicate (back + ahead) 0 ++
        buffer.bytes.toList.drop (buffer.done + ahead) := by
  have done := buffer.done_eq
  have all : (buffer.filled.reverse.flatMap Stretch.toList).length ≤ buffer.done + ahead := by omega
  simp only [toList_bytes, zero, Nat.min_eq_left before, Nat.min_eq_left after, List.reverse_cons,
    List.flatMap_append, List.flatMap_singleton, Bytes.flatMap_retract, Stretch.toList,
    Bytes.toList_drop, List.take_append, List.drop_append, List.drop_of_length_le all, ← done]
  rw [show buffer.done - back - buffer.done = 0 by omega]
  simp

end Buffer

end StorageMedia
