/-! # Reading bytes as text

Bytes that are no UTF-8 still have to be shown. `decodeLossy` reads well-formed sequences as their
characters and puts one replacement character for each longest run of bytes that starts a
sequence but does not finish it, or for a single byte that starts none.
-/

namespace StorageMedia.Text

/-- The character that stands for bytes without a meaning. -/
def replacement : Char := '\ufffd'

/-- How a sequence goes on after its first byte: the bounds of the second byte and the number of
bytes after it, which are all continuation bytes. -/
structure Lead where
  bits : Nat
  lower : UInt8
  upper : UInt8
  more : Nat
deriving DecidableEq, Repr

/-- What a first byte announces. The bounds of the second byte leave out overlong forms,
surrogates and numbers above the last code point. -/
def lead? (byte : UInt8) : Option Lead :=
  if 0xc2 ≤ byte ∧ byte ≤ 0xdf then some ⟨byte.toNat - 0xc0, 0x80, 0xbf, 0⟩
  else if byte = 0xe0 then some ⟨0, 0xa0, 0xbf, 1⟩
  else if byte = 0xed then some ⟨0xd, 0x80, 0x9f, 1⟩
  else if 0xe1 ≤ byte ∧ byte ≤ 0xef then some ⟨byte.toNat - 0xe0, 0x80, 0xbf, 1⟩
  else if byte = 0xf0 then some ⟨0, 0x90, 0xbf, 2⟩
  else if 0xf1 ≤ byte ∧ byte ≤ 0xf3 then some ⟨byte.toNat - 0xf0, 0x80, 0xbf, 2⟩
  else if byte = 0xf4 then some ⟨4, 0x80, 0x8f, 2⟩
  else none

def isContinuation (byte : UInt8) : Bool := 0x80 ≤ byte && byte ≤ 0xbf

/-- Read `more` continuation bytes onto the bits read so far. The second part is the number of
bytes that were read, also when the sequence breaks off. -/
def continuation (bits : Nat) : Nat → List UInt8 → Option Nat × Nat
  | 0, _ => (some bits, 0)
  | _ + 1, [] => (none, 0)
  | more + 1, byte :: rest =>
    if isContinuation byte then
      let (read, used) := continuation (bits * 64 + (byte.toNat - 0x80)) more rest
      (read, used + 1)
    else (none, 0)

/-- The character at the front of some bytes, and how many of the bytes after the first it uses. -/
def decodeFirst (byte : UInt8) (rest : List UInt8) : Char × Nat :=
  if byte < 0x80 then (Char.ofNat byte.toNat, 0)
  else
    match lead? byte, rest with
    | some lead, second :: others =>
      if lead.lower ≤ second ∧ second ≤ lead.upper then
        match continuation (lead.bits * 64 + (second.toNat - 0x80)) lead.more others with
        | (some code, used) => (Char.ofNat code, used + 1)
        | (none, used) => (replacement, used + 1)
      else (replacement, 0)
    | _, _ => (replacement, 0)

/-- Characters of some bytes, with replacement characters for what is no UTF-8. -/
def decodeLossy : List UInt8 → List Char
  | [] => []
  | byte :: rest =>
    (decodeFirst byte rest).1 :: decodeLossy (rest.drop (decodeFirst byte rest).2)
termination_by bytes => bytes.length
decreasing_by
  simp only [List.length_drop, List.length_cons]
  omega

end StorageMedia.Text
