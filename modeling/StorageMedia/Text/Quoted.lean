import StorageMedia.Text.Visible

/-! # Quoted text in messages

Messages show names and arguments between double quotes. A quote, a backslash and the common
controls are written with a backslash, and every other character that is not visible as its code
point in hexadecimal, so that a quoted text always stands on one line. An apostrophe needs no
escape between double quotes.
-/

namespace StorageMedia.Text

/-- One character as it stands between the quotes. -/
def escape (c : Char) : List Char :=
  if c = '"' then ['\\', '"']
  else if c = '\\' then ['\\', '\\']
  else if c = '\t' then ['\\', 't']
  else if c = '\n' then ['\\', 'n']
  else if c = '\r' then ['\\', 'r']
  else if c.toNat = 0 then ['\\', '0']
  else if isVisible c then [c]
  else ['\\', 'u', '{'] ++ Nat.toDigits 16 c.toNat ++ ['}']

def quote (text : String) : String :=
  String.ofList ('"' :: text.toList.flatMap escape ++ ['"'])

/-- A visible character that is no quote or backslash stands for itself. -/
theorem escape_eq_self {c : Char} (visible : isVisible c = true) (quote : c ≠ '"')
    (backslash : c ≠ '\\') : escape c = [c] := by
  have ne (d : Char) (hidden : isVisible d = false) : c ≠ d := fun same => by simp_all
  have nul : c.toNat ≠ 0 := fun zero => by simp [isVisible, zero] at visible
  simp [escape, quote, backslash, ne '\t' (by decide), ne '\n' (by decide),
    ne '\r' (by decide), nul, visible]

end StorageMedia.Text
