import Scaffold.Machine.Glob

/-!
# Sets of bytes in ordered expressions

The sets that escapes, classes and properties of characters stand for. A byte counts as the
character of its number, so that properties are those of the first 256 characters.
-/

namespace Scaffold

namespace Ordered

/-- Ranges of bytes. -/
abbrev Ranges := List (Char × Char)

namespace Ranges

/-- Ranges between numbers of bytes. -/
def ofNumbers (pairs : List (Nat × Nat)) : Ranges :=
  pairs.map fun (a, b) => (Char.ofNat a, Char.ofNat b)

/-- Whether ranges have a byte. -/
def contains (rs : Ranges) (c : Char) : Bool :=
  rs.any fun r => decide (r.1 ≤ c) && decide (c ≤ r.2)

/-- The ranges of the bytes that pass a test. -/
def satisfying (p : Char → Bool) : Ranges :=
  (((List.range 256).map Char.ofNat).filter p).foldr
    (fun c rs => match rs with
      | (lo, hi) :: rest =>
        if lo.toNat = c.toNat + 1 then (c, hi) :: rest else (c, c) :: (lo, hi) :: rest
      | [] => [(c, c)]) []

/-- All other bytes. -/
def others (rs : Ranges) : Ranges := satisfying fun c => !rs.contains c

/-- The letter in the other case. -/
def otherCase (c : Char) : Char := if c.isUpper then c.toLower else c.toUpper

/-- Ranges with each letter in both cases. -/
def bothCases (rs : Ranges) : Ranges :=
  satisfying fun c => rs.contains c || rs.contains (otherCase c)

end Ranges

/-- A set of ranges, with letters in both cases if that is asked for. -/
def setOf (ignoreCase negated : Bool) (rs : Ranges) : ByteSet :=
  { negated, ranges := if ignoreCase then rs.bothCases else rs }

/-- The ranges of a class by its name. -/
def class? (ignoreCase : Bool) (name : String) : Option Ranges :=
  match name with
  | "ascii" => some (.ofNumbers [(0, 127)])
  | "word" => some [('0', '9'), ('A', 'Z'), ('_', '_'), ('a', 'z')]
  | name =>
    ByteSet.class? (if ignoreCase && (name = "upper" || name = "lower") then "alpha" else name)

/-- The ranges of the letter of an escape that stands for a set. -/
def escape? (c : Char) : Option Ranges :=
  let positive : Char → Option Ranges := fun
    | 'd' => some [('0', '9')]
    | 's' => some [('\t', '\r'), (' ', ' ')]
    | 'w' => some [('0', '9'), ('A', 'Z'), ('_', '_'), ('a', 'z')]
    | 'h' => some (.ofNumbers [(9, 9), (32, 32), (160, 160)])
    | 'v' => some (.ofNumbers [(10, 13), (133, 133)])
    | _ => none
  if c.isUpper then (positive c.toLower).map Ranges.others else positive c

/-! ### Properties -/

/-- The general categories of the first 256 characters. -/
def categories : List (String × List (Nat × Nat)) :=
  [("cc", [(0, 31), (127, 159)]), ("cf", [(173, 173)]), ("cn", []), ("co", []), ("cs", []),
   ("ll", [(97, 122), (181, 181), (223, 246), (248, 255)]), ("lm", []),
   ("lo", [(170, 170), (186, 186)]), ("lt", []),
   ("lu", [(65, 90), (192, 214), (216, 222)]), ("mc", []), ("me", []), ("mn", []),
   ("nd", [(48, 57)]), ("nl", []), ("no", [(178, 179), (185, 185), (188, 190)]),
   ("pc", [(95, 95)]), ("pd", [(45, 45)]), ("pe", [(41, 41), (93, 93), (125, 125)]),
   ("pf", [(187, 187)]), ("pi", [(171, 171)]),
   ("po", [(33, 35), (37, 39), (42, 42), (44, 44), (46, 47), (58, 59), (63, 64), (92, 92),
     (161, 161), (167, 167), (182, 183), (191, 191)]),
   ("ps", [(40, 40), (91, 91), (123, 123)]), ("sc", [(36, 36), (162, 165)]),
   ("sk", [(94, 94), (96, 96), (168, 168), (175, 175), (180, 180), (184, 184)]),
   ("sm", [(43, 43), (60, 62), (124, 124), (126, 126), (172, 172), (177, 177), (215, 215),
     (247, 247)]),
   ("so", [(166, 166), (169, 169), (174, 174), (176, 176)]), ("zl", []), ("zp", []),
   ("zs", [(32, 32), (160, 160)])]

/-- The characters of all categories that start with a letter. -/
def categoryGroup? (letter : String) : Option (List (Nat × Nat)) :=
  let found := categories.filter fun (name, _) => Text.startsWith letter name
  if found.isEmpty || letter.length != 1 then none else some (found.flatMap Prod.snd)

/-- Scripts that none of the first 256 characters belongs to. -/
def otherScripts : List String :=
  ["arabic", "armenian", "bengali", "cyrillic", "devanagari", "ethiopic", "georgian", "greek",
   "hangul", "han", "hebrew", "hiragana", "inherited", "katakana", "khmer", "lao", "mongolian",
   "tamil", "telugu", "thai", "tibetan"]

/-- The characters with a property, by its name in small letters. -/
def property? (name : String) : Option (List (Nat × Nat)) :=
  let category (name : String) : List (Nat × Nat) :=
    ((categories.find? (·.1 == name)).map (·.2)).getD []
  let letters := [(65, 90), (97, 122), (170, 170), (181, 181), (186, 186), (192, 214), (216, 246),
    (248, 255)]
  let digits := category "nd" ++ category "no"
  match name with
  | "any" => some [(0, 255)]
  | "ascii" => some [(0, 127)]
  | "l&" => some (category "lu" ++ category "ll")
  | "lc" => some (category "lu" ++ category "ll")
  | "alphabetic" => some letters
  | "alpha" => some letters
  | "lowercase" => some (category "ll" ++ category "lo")
  | "lower" => some (category "ll" ++ category "lo")
  | "uppercase" => some (category "lu")
  | "upper" => some (category "lu")
  | "whitespace" => some [(9, 13), (32, 32), (133, 133), (160, 160)]
  | "wspace" => some [(9, 13), (32, 32), (133, 133), (160, 160)]
  | "xan" => some (letters ++ digits)
  | "xwd" => some ((95, 95) :: letters ++ digits)
  | "xsp" => some [(9, 13), (32, 32), (133, 133), (160, 160)]
  | "xps" => some [(9, 13), (32, 32), (133, 133), (160, 160)]
  | "latin" => some
    [(65, 90), (97, 122), (170, 170), (186, 186), (192, 214), (216, 246), (248, 255)]
  | "common" => some
    [(0, 64), (91, 96), (123, 169), (171, 185), (187, 191), (215, 215), (247, 247)]
  | name =>
    match categories.find? (·.1 == name), categoryGroup? name with
    | some (_, found), _ => some found
    | none, some found => some found
    | none, none => if otherScripts.contains name then some [] else none

/-- A name of a property as it is looked up: in small letters, without what only parts words. -/
def propertyName (cs : List Char) : String :=
  let name := String.ofList ((cs.filter fun c => !" \t_-".toList.contains c).map Char.toLower)
  (["sc:", "sc=", "script:", "script=", "scx:", "scx="].findSome? fun start =>
    Text.stripPrefix? start name).getD name

end Ordered

end Scaffold
