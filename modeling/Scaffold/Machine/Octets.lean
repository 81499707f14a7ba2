import Scaffold.Text.Basic
import Scaffold.Text.Utf8

/-!
# Texts of bytes

Programs of a machine work on bytes. Inside of them a text has one character for each byte, with the
byte for its code point, so that counting, comparing and matching characters is counting, comparing
and matching bytes. `Octets.ofText` and `Octets.toText` lead there and back.
-/

namespace Scaffold

namespace Octets

/-- Bytes as characters. -/
def chars (bs : Bytes) : List Char := bs.map fun b => Char.ofNat b.toNat

/-- Bytes as a text of bytes. -/
def ofBytes (bs : Bytes) : String := String.ofList (chars bs)

/-- Characters as bytes. -/
def charBytes (cs : List Char) : Bytes := cs.map fun c => c.toNat.toUInt8

/-- The bytes of a text of bytes. -/
def bytes (s : String) : Bytes := charBytes s.toList

/-- A text as a text of bytes. -/
def ofText (s : String) : String := ofBytes (Utf8.encode s)

/-- A text of bytes as a text; what is ill formed reads as the replacement character. -/
def toText (s : String) : String := Utf8.decodeLossy (bytes s)

theorem length_ofText (s : String) : (ofText s).length = (Utf8.encode s).length := by
  simp [ofText, ofBytes, chars]

end Octets

end Scaffold
