/-!
# UTF-8

`encode` writes a text as octets. `decode` reads octets back: each item of its answer is a
character, or `none` for the longest start of a character that breaks off. Reading strictly refuses
such an item, reading leniently puts U+FFFD in its place.

- `Utf8.read?`: the text, when every octet belongs to a character.
- `Utf8.readLossy`: the text with U+FFFD for every piece that is not a character.
-/

namespace ScriptBridge.Utf8

def encode (s : String) : List UInt8 := s.toList.flatMap String.utf8EncodeChar

/-- A character that has begun: its bits so far, how many octets follow (at least one), and the
least and the greatest value the next one may have. -/
structure Pending where
  bits : Nat
  need : Nat
  low : Nat := 0x80
  high : Nat := 0xbf
  deriving DecidableEq

def first (b : Nat) : List (Option Char) × Option Pending :=
  if b ≤ 0x7f then ([some (Char.ofNat b)], none)
  else if b < 0xc2 then ([none], none)
  else if b ≤ 0xdf then ([], some { bits := b % 0x20, need := 1 })
  else if b = 0xe0 then ([], some { bits := 0, need := 2, low := 0xa0 })
  else if b = 0xed then ([], some { bits := 0xd, need := 2, high := 0x9f })
  else if b ≤ 0xef then ([], some { bits := b % 0x10, need := 2 })
  else if b = 0xf0 then ([], some { bits := 0, need := 3, low := 0x90 })
  else if b ≤ 0xf3 then ([], some { bits := b % 8, need := 3 })
  else if b = 0xf4 then ([], some { bits := 4, need := 3, high := 0x8f })
  else ([none], none)

/-- One octet: the items it completes, and the character it leaves begun. An octet that cannot go on
the character begun ends it and starts anew. -/
def step (state : Option Pending) (b : Nat) : List (Option Char) × Option Pending :=
  match state with
  | none => first b
  | some p =>
    if p.low ≤ b ∧ b ≤ p.high then
      let bits := p.bits * 64 + b % 64
      if p.need ≤ 1 then ([some (Char.ofNat bits)], none)
      else ([], some { bits, need := p.need - 1 })
    else
      let (items, next) := first b
      (none :: items, next)

/-- The items of octets that follow a character begun. -/
def decodeFrom (state : Option Pending) : List UInt8 → List (Option Char)
  | [] => if state.isSome then [none] else []
  | b :: rest =>
    let (items, next) := step state b.toNat
    items ++ decodeFrom next rest

/-- The characters of octets, `none` standing for a piece that is not a character. -/
def decode (octets : List UInt8) : List (Option Char) := decodeFrom none octets

/-- The text that octets spell, if they are well formed. -/
def read? (octets : List UInt8) : Option String :=
  ((decode octets).mapM id).map String.ofList

/-- The text that octets spell, with U+FFFD for every piece that is not a character. -/
def readLossy (octets : List UInt8) : String :=
  String.ofList ((decode octets).map (·.getD '\ufffd'))

end ScriptBridge.Utf8
