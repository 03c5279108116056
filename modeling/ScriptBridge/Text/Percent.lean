import ScriptBridge.Text.Utf8

/-!
# Percent encoding

In the path of a URI an octet outside a small alphabet is written as a percent sign and two
hexadecimal digits. Reading takes any text in which every percent sign starts such a group, and
requires the octets to be UTF-8.

- `Percent.encode`: octets as text.
- `Percent.decode?`: text as octets.
- `Percent.read?`: text as text.
-/

namespace ScriptBridge.Percent

/-- The octets that stand for themselves: letters, digits and `-._~/:`. -/
def isPlain (b : UInt8) : Bool :=
  let c := Char.ofNat b.toNat
  c.isAlphanum || c = '-' || c = '.' || c = '_' || c = '~' || c = '/' || c = ':'

def hexDigit (n : Nat) : Char := (Nat.digitChar n).toUpper

def encodeOctet (b : UInt8) : List Char :=
  if isPlain b then [Char.ofNat b.toNat]
  else ['%', hexDigit (b.toNat / 16), hexDigit (b.toNat % 16)]

def encode (octets : List UInt8) : List Char := octets.flatMap encodeOctet

def hexValue? (b : UInt8) : Option Nat :=
  let n := b.toNat
  if 0x30 ≤ n ∧ n ≤ 0x39 then some (n - 0x30)
  else if 0x41 ≤ n ∧ n ≤ 0x46 then some (n - 0x41 + 10)
  else if 0x61 ≤ n ∧ n ≤ 0x66 then some (n - 0x61 + 10)
  else none

/-- The octet that two characters after a percent sign stand for; in place of the first digit there
may be a plus sign. -/
def groupValue? (high low : UInt8) : Option UInt8 := do
  let h ← if high = 0x2b then some 0 else hexValue? high
  let l ← hexValue? low
  return UInt8.ofNat (16 * h + l)

/-- The octets that an encoded text stands for. -/
def decode? : List UInt8 → Option (List UInt8)
  | [] => some []
  | b :: rest =>
    if b = 0x25 then
      match rest with
      | high :: low :: rest => do
        let octet ← groupValue? high low
        let octets ← decode? rest
        return octet :: octets
      | _ => none
    else (decode? rest).map (b :: ·)

/-- The text that an encoded text stands for. -/
def read? (s : String) : Option String := (decode? (Utf8.encode s)).bind Utf8.read?

end ScriptBridge.Percent
