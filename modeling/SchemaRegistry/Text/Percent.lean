import SchemaRegistry.Text.Hex
import SchemaRegistry.Text.Utf8

/-!
Percent-encoding. A byte outside the kept set is written as `%` and two upper-case hexadecimal
digits. Decoding replaces each `%` that two hexadecimal digits follow, and keeps every other byte.
-/

namespace SchemaRegistry.Percent

def hexByte? (b : UInt8) : Option Nat := Hex.value? (Char.ofNat b.toNat)

def escape (b : UInt8) : List Char :=
  ['%', Hex.digit (b.toNat / 16), Hex.digit (b.toNat % 16)]

/-- Control characters and all bytes of characters beyond ASCII. Every set below contains them. -/
def isControl (b : UInt8) : Bool := b < 0x20 || 0x7E < b

def encodeChar (escaped : List Char) (c : Char) : List Char :=
  (String.utf8EncodeChar c).flatMap fun b =>
    if isControl b || escaped.contains (Char.ofNat b.toNat) then escape b
    else [Char.ofNat b.toNat]

/-- Encodes every character of a text that is in `escaped` or is a control character. -/
def encode (escaped : List Char) (text : List Char) : List Char :=
  text.flatMap (encodeChar escaped)

/-- Replaces every `%` that is followed by two hexadecimal digits by the byte they denote. -/
def decodeBytes : List UInt8 → List UInt8
  | 0x25 :: high :: low :: rest =>
    match hexByte? high, hexByte? low with
    | some h, some l => UInt8.ofNat (16 * h + l) :: decodeBytes rest
    | _, _ => 0x25 :: decodeBytes (high :: low :: rest)
  | b :: rest => b :: decodeBytes rest
  | [] => []

/-- The percent-decoded text, if its bytes are well-formed. -/
def decode? (text : List Char) : Option (List Char) :=
  Utf8.decode? (decodeBytes (Utf8.encode text))

end SchemaRegistry.Percent
