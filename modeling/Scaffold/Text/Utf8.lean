/-!
# Bytes and text

Files and process output are bytes. `Utf8.encode` writes a text as bytes, `Utf8.decode?` reads bytes
that are well formed, and `Utf8.decodeLossy` reads any bytes, putting the replacement character for
each maximal ill-formed run.
-/

namespace Scaffold

/-- Content of a file, or output of a process. -/
abbrev Bytes := List UInt8

namespace Utf8

/-- A text as bytes. -/
def encode (s : String) : Bytes := s.toUTF8.toList

/-- Lower and upper bound of the second byte after a leading byte, and the number of bytes after
the leading one. -/
def leading (b : UInt8) : Option (Nat × UInt8 × UInt8) :=
  if 0xC2 ≤ b && b ≤ 0xDF then some (1, 0x80, 0xBF)
  else if b == 0xE0 then some (2, 0xA0, 0xBF)
  else if b == 0xED then some (2, 0x80, 0x9F)
  else if 0xE1 ≤ b && b ≤ 0xEF then some (2, 0x80, 0xBF)
  else if b == 0xF0 then some (3, 0x90, 0xBF)
  else if 0xF1 ≤ b && b ≤ 0xF3 then some (3, 0x80, 0xBF)
  else if b == 0xF4 then some (3, 0x80, 0x8F)
  else none

/-- Continue a sequence: `n` more bytes, the next one between `lo` and `hi`. The result has the code
point if the sequence is complete, and how many bytes were taken. -/
def continued (n : Nat) (lo hi : UInt8) (acc taken : Nat) (bs : Bytes) : Option Nat × Nat :=
  match n, bs with
  | 0, _ => (some acc, taken)
  | _ + 1, [] => (none, taken)
  | n + 1, b :: bs =>
    if lo ≤ b && b ≤ hi then
      continued n 0x80 0xBF (acc * 64 + (b.toNat - 0x80)) (taken + 1) bs
    else (none, taken)

/-- The first character of non-empty bytes, `none` for an ill-formed start, and the number of
bytes after the first one that belong to it. -/
def first (b : UInt8) (bs : Bytes) : Option Char × Nat :=
  if b < 0x80 then (some (Char.ofNat b.toNat), 0)
  else match leading b with
    | none => (none, 0)
    | some (n, lo, hi) =>
      let start := b.toNat % (if n == 1 then 32 else if n == 2 then 16 else 8)
      match continued n lo hi start 0 bs with
      | (some code, taken) => (some (Char.ofNat code), taken)
      | (none, taken) => (none, taken)

/-- The characters of bytes, `none` for each maximal ill-formed run. -/
def chars : Bytes → List (Option Char)
  | [] => []
  | b :: bs =>
    let (c, taken) := first b bs
    c :: chars (bs.drop taken)
termination_by bs => bs.length
decreasing_by
  simp only [List.length_drop, List.length_cons]
  omega

/-- The text of well-formed bytes. -/
def decode? (bs : Bytes) : Option String :=
  ((chars bs).mapM id).map String.ofList

/-- The text of any bytes; an ill-formed run reads as the replacement character. -/
def decodeLossy (bs : Bytes) : String :=
  String.ofList ((chars bs).map fun c => c.getD '\uFFFD')

end Utf8

end Scaffold
