/-!
# UTF-8

Byte sequences as strings and back.
-/

namespace ChatService

/-- The byte that ends a line. -/
def lineFeed : UInt8 := 10

namespace Text

/-- The string that bytes encode, if they are well-formed. -/
def ofUtf8? (bytes : List UInt8) : Option String := String.fromUTF8? ⟨bytes.toArray⟩

/-- The bytes of a string. -/
def toUtf8 (s : String) : List UInt8 := s.toUTF8.toList

/-! ## What is said of bytes that encode nothing -/

/-- Bytes that encode nothing. -/
structure DecodeFault where
  /-- How many bytes stand before them. -/
  position : Nat
  first : UInt8
  /-- How many follow the first one. -/
  more : Nat
  reason : String
deriving DecidableEq, Repr

def DecodeFault.message (f : DecodeFault) : String :=
  let place :=
    if f.more = 0 then
      "byte 0x" ++ String.ofList (Nat.toDigits 16 f.first.toNat) ++ " in position " ++ toString f.position
    else "bytes in position " ++ toString f.position ++ "-" ++ toString (f.position + f.more)
  "'utf-8' codec can't decode " ++ place ++ ": " ++ f.reason

/-- How many bytes follow a first byte; some begin nothing. -/
def followers? (first : UInt8) : Option Nat :=
  if first < 0x80 then some 0
  else if first < 0xC2 then none
  else if first < 0xE0 then some 1
  else if first < 0xF0 then some 2
  else if first < 0xF5 then some 3
  else none

def isFollower (b : UInt8) : Bool := 0x80 ≤ b && b < 0xC0

/-- Whether a byte may follow a first byte: overlong forms, halves of UTF-16 pairs and numbers beyond the last
code point are left out. -/
def mayFollow (first b : UInt8) : Bool :=
  isFollower b &&
    (if first = 0xE0 then 0xA0 ≤ b
    else if first = 0xED then b < 0xA0
    else if first = 0xF0 then 0x90 ≤ b
    else if first = 0xF4 then b < 0x90
    else true)

/-- How many of the bytes behind a first byte may stand there. -/
def followed (first : UInt8) : List UInt8 → Nat
  | [] => 0
  | b :: rest => if mayFollow first b then (rest.takeWhile isFollower).length + 1 else 0

theorem length_drop_lt (first : UInt8) (rest : List UInt8) (count : Nat) :
    (rest.drop count).length < (first :: rest).length := by
  rw [List.length_drop, List.length_cons]
  exact Nat.lt_succ_of_le (Nat.sub_le ..)

/-- The first bytes that encode nothing, behind a number of others. -/
def decodeFault? (position : Nat) (bytes : List UInt8) : Option DecodeFault :=
  match bytes with
  | [] => none
  | first :: rest =>
    match followers? first with
    | none => some ⟨position, first, 0, "invalid start byte"⟩
    | some count =>
      let right := followed first (rest.take count)
      if right = count then decodeFault? (position + 1 + count) (rest.drop count)
      else some ⟨position, first, right,
        if right = rest.length then "unexpected end of data" else "invalid continuation byte"⟩
termination_by bytes.length
decreasing_by exact length_drop_lt ..

end Text

end ChatService
