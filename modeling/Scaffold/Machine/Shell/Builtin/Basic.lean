import Scaffold.Machine.Shell.Expand

/-!
# Commands of the shell

What the commands that are part of the shell share: how they read options and numbers, how they
quote, and how they list variables. Such a command gets its arguments and gives a status.
-/

namespace Scaffold

namespace Shell

/-- A command of the shell: from its arguments to its status. -/
abbrev Builtin := List String → Sh Nat

namespace Builtin

/-! ### Arguments -/

/-- One letter of an argument with options: the option with its argument, and what is left of the
argument and of the others. `allowed` has the letters, a colon behind those that take an argument.
-/
def letter (allowed : List Char) (c : Char) (cs : List Char) (rest : List String) :
    Sh ((Char × String) × List Char × List String) := do
  match allowed.dropWhile (· != c) with
  | [] => Sh.fail ("Illegal option -" ++ String.singleton c)
  | _ :: behind =>
    if c != ':' && behind.head? == some ':' then
      match cs, rest with
      | [], [] => Sh.fail ("No arg for -" ++ String.singleton c ++ " option")
      | [], arg :: rest => return ((c, arg), [], rest)
      | cs, rest => return ((c, String.ofList cs), [], rest)
    else return ((c, ""), cs, rest)

/-- All letters of one argument. -/
def letters (allowed : List Char) : (fuel : Nat) → List Char → List String →
    Sh (List (Char × String) × List String)
  | 0, _, rest => return ([], rest)
  | _ + 1, [], rest => return ([], rest)
  | fuel + 1, c :: cs, rest => do
    let (option, cs, rest) ← letter allowed c cs rest
    let (more, rest) ← letters allowed fuel cs rest
    return (option :: more, rest)

/-- Read options at the front of arguments. -/
def readOptions (allowed : String) : (fuel : Nat) → List String →
    Sh (List (Char × String) × List String)
  | 0, args => return ([], args)
  | _ + 1, [] => return ([], [])
  | fuel + 1, arg :: rest => do
    match arg.toList with
    | ['-', '-'] => return ([], rest)
    | '-' :: c :: cs =>
      let (here, rest) ← letters allowed.toList (cs.length + 1) (c :: cs) rest
      let (more, rest) ← readOptions allowed fuel rest
      return (here ++ more, rest)
    | _ => return ([], arg :: rest)

/-- The options at the front of arguments, and the other arguments. -/
def options (allowed : String) (args : List String) : Sh (List (Char × String) × List String) :=
  readOptions allowed (args.length + 1) args

/-- Skip the mark for the end of options; there are none. -/
def operands (args : List String) : Sh (List String) := do return (← options "" args).2

/-- The largest number that an argument can be. -/
def largest : Int := 2147483647

/-- A number that is not negative. -/
def number (text : String) : Sh Nat := do
  let r := Integer.scan 10 text.toList
  if r.found && r.rest.all Integer.isSpace && 0 ≤ r.value && r.value ≤ largest then
    return r.value.toNat
  else Sh.fail ("Illegal number: " ++ text)

/-! ### Listings -/

/-- Go through a text for `quoted`: stretches of single quotes stand between double quotes, all else
between single quotes. -/
def quotedFrom : (fuel : Nat) → List Char → List Char
  | 0, _ => []
  | fuel + 1, cs =>
    let plain := cs.takeWhile (· != '\x27')
    let rest := cs.drop plain.length
    let quotes := rest.takeWhile (· == '\x27')
    let here := '\x27' :: plain ++ ['\x27']
    if quotes.isEmpty then here
    else
      let here := here ++ '"' :: quotes ++ ['"']
      match rest.drop quotes.length with
      | [] => here
      | rest => here ++ quotedFrom fuel rest

/-- A text such that the shell reads it back as one word. -/
def quoted (s : String) : String := String.ofList (quotedFrom (s.length + 1) s.toList)

/-- A line about a variable. -/
def variableLine (front name : String) (v : Variable) : String :=
  front ++ name ++ (match v.value with
    | some value => "=" ++ quoted value
    | none => "") ++ "\n"

/-- List variables. -/
def listVariables (front : String) (p : Variable → Bool) : Sh Unit := do
  for (name, v) in (← get).vars.entries do
    if p v then Sh.say (variableLine front name v)

/-- The place of a name in the tables that the shell lists in their own order. -/
def bucket (size : Nat) (name : String) : Nat :=
  let cs := name.toList.map Char.toNat
  (cs.foldl (· + ·) (cs.headD 0 * 16)) % size

/-- Put entries into the order of a table of a size. -/
def inTableOrder {α : Type} (size : Nat) (entries : List (String × α)) : List (String × α) :=
  entries.mergeSort fun a b => decide (bucket size a.1 ≤ bucket size b.1)

end Builtin

end Shell

end Scaffold
