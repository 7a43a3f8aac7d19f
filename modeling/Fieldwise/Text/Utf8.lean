import Fieldwise.Text.Quoted

/-! # UTF-8

Decoding of bytes into text. A fault is reported with the range of bytes that belong to the broken
character: a byte that starts none, a character cut off by the end of the data, or a byte that does
not continue the character before it. Overlong forms and surrogates count as wrong continuations. -/

namespace Fieldwise.Text

/-- Why a run of bytes is no character. -/
inductive Utf8Fault where
  | start
  | continuation
  | ending
  deriving DecidableEq, Repr

/-- The first fault of some bytes: bytes `first` to `last` and what is wrong with them. -/
structure Utf8Error where
  first : Nat
  last : Nat
  byte : UInt8
  fault : Utf8Fault
  deriving DecidableEq, Repr

def Utf8Fault.message : Utf8Fault → String
  | .start => "invalid start byte"
  | .continuation => "invalid continuation byte"
  | .ending => "unexpected end of data"

def Utf8Error.message (error : Utf8Error) : String :=
  "'utf-8' codec can't decode " ++
    (if error.first = error.last then
      "byte 0x" ++ String.ofList (hexText 2 error.byte.toNat) ++ " in position " ++
        toString error.first
    else "bytes in position " ++ toString error.first ++ "-" ++ toString error.last) ++
    ": " ++ error.fault.message

/-- A byte of the form `10xxxxxx`. -/
def isContinuation (byte : UInt8) : Bool :=
  byte &&& 0xc0 == 0x80

/-- The number of bytes announced by a first byte. -/
def sequenceLength (byte : UInt8) : Option Nat :=
  if byte < 0x80 then some 1
  else if byte < 0xc2 then none
  else if byte < 0xe0 then some 2
  else if byte < 0xf0 then some 3
  else if byte < 0xf5 then some 4
  else none

/-- Whether a second byte may follow a first one: no overlong form, no surrogate, nothing beyond the
last code point. -/
def continues (lead second : UInt8) : Bool :=
  isContinuation second &&
    !(lead == 0xe0 && second < 0xa0) && !(lead == 0xed && 0xa0 ≤ second) &&
    !(lead == 0xf0 && second < 0x90) && !(lead == 0xf4 && 0x90 ≤ second)

/-- The bytes that follow a first byte, up to `wanted` of them: how many are right, and whether the
data ends before the next one. -/
def goodFollowers (lead : UInt8) (wanted : Nat) (bytes : List UInt8) : Nat × Bool :=
  let good := match bytes with
    | [] => 0
    | second :: rest =>
      if continues lead second then 1 + ((rest.take (wanted - 1)).takeWhile isContinuation).length
      else 0
  (min good wanted, (bytes.drop good).isEmpty)

/-- The code point of a complete sequence. -/
def sequenceValue (lead : UInt8) (count : Nat) (followers : List UInt8) : Nat :=
  let head := match count with
    | 1 => lead.toNat
    | 2 => lead.toNat % 32
    | 3 => lead.toNat % 16
    | _ => lead.toNat % 8
  followers.foldl (fun value byte => 64 * value + byte.toNat % 64) head

/-- Decodes the bytes that start at `position`. -/
def decodeFrom (position : Nat) : List UInt8 → Except Utf8Error (List Char)
  | [] => .ok []
  | lead :: rest =>
    match sequenceLength lead with
    | none => .error ⟨position, position, lead, .start⟩
    | some count =>
      let (good, ended) := goodFollowers lead (count - 1) rest
      if good + 1 = count then do
        let chars ← decodeFrom (position + count) (rest.drop good)
        return Char.ofNat (sequenceValue lead count (rest.take good)) :: chars
      else .error ⟨position, position + good, lead, if ended then .ending else .continuation⟩
termination_by bytes => bytes.length
decreasing_by
  have := List.length_drop (i := good) (l := rest)
  grind

def decode (bytes : List UInt8) : Except Utf8Error String :=
  (decodeFrom 0 bytes).map String.ofList

/-- Carriage returns, alone or before a line feed, become line feeds. -/
def plainNewlines : List Char → List Char
  | [] => []
  | '\r' :: '\n' :: rest => '\n' :: plainNewlines rest
  | '\r' :: rest => '\n' :: plainNewlines rest
  | char :: rest => char :: plainNewlines rest

/-- Decodes a text file: UTF-8 with any convention for line ends. -/
def decodeLines (bytes : List UInt8) : Except Utf8Error String :=
  (decodeFrom 0 bytes).map fun chars => String.ofList (plainNewlines chars)

end Fieldwise.Text
