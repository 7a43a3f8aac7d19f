/-! # Base64

Four characters of an alphabet of 64 write three bytes. Characters outside the alphabet are passed
over; padding ends the text where it fills the last group of four. -/

namespace Fieldwise.Text

def sixBits? (char : Char) : Option Nat :=
  if 'A' ≤ char ∧ char ≤ 'Z' then some (char.toNat - 'A'.toNat)
  else if 'a' ≤ char ∧ char ≤ 'z' then some (char.toNat - 'a'.toNat + 26)
  else if '0' ≤ char ∧ char ≤ '9' then some (char.toNat - '0'.toNat + 52)
  else if char = '+' then some 62
  else if char = '/' then some 63
  else none

/-- The state of decoding: how many characters of the current group are read, the bits that do not
yet make a byte, and how many padding marks stand directly before. -/
structure Base64Group where
  count : Nat := 0
  bits : Nat := 0
  pads : Nat := 0

/-- Decodes characters from the state of a group; a group that is left unfinished is an error. -/
def decodeBase64From (group : Base64Group) : List Char → Option (List UInt8)
  | [] => if group.count = 0 then some [] else none
  | '=' :: rest =>
    if 2 ≤ group.count then
      if 4 ≤ group.count + group.pads + 1 then some []
      else decodeBase64From { group with pads := group.pads + 1 } rest
    else decodeBase64From group rest
  | char :: rest =>
    match sixBits? char with
    | none => decodeBase64From group rest
    | some value =>
      let bits := group.bits * 64 + value
      match group.count with
      | 0 => decodeBase64From ⟨1, bits, 0⟩ rest
      | 1 => (UInt8.ofNat (bits / 16) :: ·) <$> decodeBase64From ⟨2, bits % 16, 0⟩ rest
      | 2 => (UInt8.ofNat (bits / 4) :: ·) <$> decodeBase64From ⟨3, bits % 4, 0⟩ rest
      | _ => (UInt8.ofNat bits :: ·) <$> decodeBase64From {} rest

def decodeBase64 (chars : List Char) : Option (List UInt8) :=
  decodeBase64From {} chars

end Fieldwise.Text
