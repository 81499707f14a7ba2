import Scaffold.Text.Basic

/-!
# Options of a command line

Options may stand anywhere among the operands, up to a double dash. Short options are letters behind
one dash, long ones are names behind two, which may be cut off as long as one name remains. Reading
gives a list of steps in order, because a tool deals with each option before the next is looked at.
-/

namespace Scaffold

namespace Options

/-- Whether an option takes an argument. -/
inductive Arity where
  | none
  | required
  | optional
deriving DecidableEq, Repr, Inhabited

/-- The options of a tool. A long option has the code that its short form has. -/
structure Grammar where
  short : List (Char × Arity)
  long : List (String × Arity × String) := []
  /-- Whether operands may stand between options. -/
  mixed : Bool := true
deriving Inhabited

/-- A step of reading: an option, or what is wrong. -/
inductive Step where
  | option (code : String) (argument : Option String)
  | mistake (message : String)
deriving DecidableEq, Repr, Inhabited

/-- What a command line holds. -/
structure Line where
  steps : List Step := []
  operands : List String := []
deriving Inhabited

/-- Letters that take no argument. -/
def flags (letters : String) : List (Char × Arity) := letters.toList.map fun c => (c, .none)

/-- Letters that take an argument. -/
def valued (letters : String) : List (Char × Arity) := letters.toList.map fun c => (c, .required)

/-- Put a step in front. -/
def Line.with (s : Step) (l : Line) : Line := { l with steps := s :: l.steps }

/-- Read the letters of one argument. `further` has the arguments behind it; the result says whether
the next one was used. -/
def letters (g : Grammar) (further : List String) : List Char → List Step × Bool
  | [] => ([], false)
  | c :: cs =>
    match g.short.lookup c with
    | none => ([.mistake ("invalid option -- '" ++ String.singleton c ++ "'")], false)
    | some .none =>
      let (steps, used) := letters g further cs
      (.option (String.singleton c) none :: steps, used)
    | some .optional =>
      ([.option (String.singleton c) (if cs.isEmpty then none else some (String.ofList cs))], false)
    | some .required =>
      if !cs.isEmpty then ([.option (String.singleton c) (some (String.ofList cs))], false)
      else match further with
        | value :: _ => ([.option (String.singleton c) (some value)], true)
        | [] =>
          ([.mistake ("option requires an argument -- '" ++ String.singleton c ++ "'")], false)

/-- The long option that a name stands for, or the reason why none does. -/
def longOption (g : Grammar) (name : String) : Except String (String × Arity × String) :=
  match g.long.find? fun o => o.1 = name with
  | some o => .ok o
  | none =>
    match g.long.filter fun o => Text.startsWith name o.1 with
    | [] => .error ("unrecognized option '--" ++ name ++ "'")
    | o :: more =>
      if more.all fun p => p.2 == o.2 then .ok o
      else
        let names := (o :: more).map fun p => " '--" ++ p.1 ++ "'"
        .error ("option '--" ++ name ++ "' is ambiguous; possibilities:" ++ Text.join "" names)

/-- Read one long option, without its dashes. -/
def long (g : Grammar) (further : List String) (text : String) : Step × Bool :=
  let (name, value) : String × Option String :=
    match Chars.splitFirst? '=' text.toList with
    | some (a, b) => (String.ofList a, some (String.ofList b))
    | none => (text, none)
  match longOption g name with
  | .error message => (.mistake message, false)
  | .ok (full, arity, code) =>
    match arity, value with
    | .none, some _ => (.mistake ("option '--" ++ full ++ "' doesn't allow an argument"), false)
    | .none, none => (.option code none, false)
    | .optional, value => (.option code value, false)
    | .required, some v => (.option code (some v), false)
    | .required, none =>
      match further with
      | v :: _ => (.option code (some v), true)
      | [] => (.mistake ("option '--" ++ full ++ "' requires an argument"), false)

/-- Read a command line. -/
def readFrom (g : Grammar) : (fuel : Nat) → List String → Line
  | 0, rest => { operands := rest }
  | _ + 1, [] => {}
  | fuel + 1, arg :: rest =>
    let operand : Line :=
      if g.mixed then
        let l := readFrom g fuel rest
        { l with operands := arg :: l.operands }
      else { operands := arg :: rest }
    match arg.toList with
    | ['-', '-'] => { operands := rest }
    | '-' :: '-' :: text =>
      let (step, used) := long g rest (String.ofList text)
      (readFrom g fuel (if used then rest.drop 1 else rest)).with step
    | '-' :: c :: cs =>
      let (steps, used) := letters g rest (c :: cs)
      let l := readFrom g fuel (if used then rest.drop 1 else rest)
      { l with steps := steps ++ l.steps }
    | _ => operand

/-- Read a command line. -/
def read (g : Grammar) (args : List String) : Line := readFrom g (args.length + 1) args

end Options

end Scaffold
