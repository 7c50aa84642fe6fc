/-!
Contract: reading bytes as text when they may not be well formed.

Owns: decoding of UTF-8 where every maximal run of bytes that begins a character
but does not complete it, and every byte that can begin none, is read as one
replacement character.

Does not own: encoding, which is the standard library's.
-/

namespace PartitionBench.Text

/-- The character that stands for bytes that are no text. -/
def replacement : Char := Char.ofNat 0xFFFD

/-- How a first byte opens a character: how many bytes follow, the range of the
byte right behind it, and the bits it contributes. -/
structure Opening where
  follow : Nat
  low : Nat
  high : Nat
  bits : Nat

/-- The opening that a byte makes, if any character can begin with it. -/
def opening? (byte : Nat) : Option Opening :=
  if byte < 0x80 then some ⟨0, 0, 0, byte⟩
  else if 0xC2 ≤ byte ∧ byte ≤ 0xDF then some ⟨1, 0x80, 0xBF, byte % 0x20⟩
  else if byte = 0xE0 then some ⟨2, 0xA0, 0xBF, 0⟩
  else if byte = 0xED then some ⟨2, 0x80, 0x9F, 0xD⟩
  else if 0xE1 ≤ byte ∧ byte ≤ 0xEF then some ⟨2, 0x80, 0xBF, byte % 0x10⟩
  else if byte = 0xF0 then some ⟨3, 0x90, 0xBF, 0⟩
  else if 0xF1 ≤ byte ∧ byte ≤ 0xF3 then some ⟨3, 0x80, 0xBF, byte % 0x08⟩
  else if byte = 0xF4 then some ⟨3, 0x80, 0x8F, 4⟩
  else none

/-- Read the bytes that are still owed by an opened character, and then the rest.
`owed` is their number, `low` and `high` bound the next of them and `bits` are
those read so far. -/
def decodeFrom (owed low high bits : Nat) : List UInt8 → List Char
  | [] => if owed = 0 then [] else [replacement]
  | byte :: rest =>
      let value := byte.toNat
      if owed ≠ 0 ∧ low ≤ value ∧ value ≤ high then
        let gathered := bits * 0x40 + value % 0x40
        if owed = 1 then Char.ofNat gathered :: decodeFrom 0 0 0 0 rest
        else decodeFrom (owed - 1) 0x80 0xBF gathered rest
      else
        let broken := if owed = 0 then [] else [replacement]
        match opening? value with
        | none => broken ++ replacement :: decodeFrom 0 0 0 0 rest
        | some start =>
            if start.follow = 0 then broken ++ Char.ofNat start.bits :: decodeFrom 0 0 0 0 rest
            else broken ++ decodeFrom start.follow start.low start.high start.bits rest

def decodeUtf8 (bytes : List UInt8) : String :=
  String.ofList (decodeFrom 0 0 0 0 bytes)

end PartitionBench.Text
