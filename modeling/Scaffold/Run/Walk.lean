import Scaffold.Run.Evaluate

/-!
# Walking a section

The control flow of sections. Entries are taken in order; an `if` takes an `else` directly behind it
as its other branch, a loop walks its body once a round, a scope pushes its labels for its body, and
everything that is no control construct is a leaf. Before each entry the walk stops if the run was
cancelled.

What a leaf does is left to a `Walker`, so running a section and collecting its dependencies are two
walkers over one control flow. The walk gives what its leaves gave, in order.
-/

namespace Scaffold

/-- What a walk does at its leaves and where it is cut short. -/
structure Walker (W α : Type) where
  /-- Carry out a leaf entry. -/
  leaf : Entry → Run W (List α)
  /-- The part of the program that walks. -/
  origin : Origin
  /-- An entry is not reached because the run was cancelled. -/
  skipped : Entry → Run W Unit
  /-- Whether a loop ends with the round in which the run was cancelled. -/
  stopsLoops : Bool

/-- The labels of a scope tag: the words after the first. -/
def scopeLabels (tag : String) : List String := (Text.words tag).drop 1

/-- The message for an `else` without an `if`. -/
def danglingElse : String := "Encountered 'else' with no associated 'if', skipping"

namespace Run

variable {W α : Type}

/-- Carry out the rounds of a loop. -/
def rounds (stops : Bool) (body : Run W (List α)) : List Bindings → Run W (List α)
  | [] => pure []
  | b :: rest => do
    bindAll b
    let here ← body
    if stops && (← isCancelled) then return here
    return here ++ (← rounds stops body rest)

/-- Run a body, if the argument it is written as is a section. -/
def bodyOrFail (body : Except SyntaxError (Run W (List α))) : Run W (List α) :=
  match body with
  | .ok x => x
  | .error e => fail (.syntaxFault e)

/-- What one computation gave, then what the next gave. -/
def andThen (x y : Run W (List α)) : Run W (List α) := do
  let here ← x
  return here ++ (← y)

/-- Walk one entry that is reached. `body` runs its argument as a section, `other` the one of an
`else` directly behind it, and `next` goes on behind it. -/
def walkEntry (host : Host W) (p : Walker W α) (paired : Bool) (e : Entry)
    (body : Except SyntaxError (Run W (List α)))
    (other : Option (Except SyntaxError (Run W (List α))))
    (next : (paired : Bool) → Run W (List α)) : Run W (List α) :=
  match Construct.ofTag e.tag with
  | .assign => do
    assign host e.tag e.argument
    next paired
  | .cond => do
    if ← condition host e.tag then andThen (bodyOrFail body) (next other.isSome)
    else match other with
      | some alternative => andThen (bodyOrFail alternative) (next true)
      | none => next false
  | .otherwise => do
    if !paired then log p.origin .warn danglingElse
    next false
  | .loop =>
    match body with
    | .error x => fail (.syntaxFault x)
    | .ok x => do
      let bindings ← expandLoop host e.tag
      andThen (rounds p.stopsLoops x bindings) (next paired)
  | .scope =>
    match body with
    | .error x => fail (.syntaxFault x)
    | .ok x => andThen (withScope (scopeLabels e.tag) x) (next paired)
  | .command => andThen (p.leaf e) (next paired)

/-- Walk a section. `paired` says that an `else` at its front belongs to an `if` already done. -/
def walk (host : Host W) (p : Walker W α) (paired : Bool) (s : Section) : Run W (List α) :=
  match s with
  | [] => pure []
  | e :: rest => do
    if ← isCancelled then
      p.skipped e
      return []
    else
      let body := match _h : e.body with
        | .ok b => .ok (walk host p false b)
        | .error x => .error x
      let other := match rest with
        | [] => none
        | f :: _ =>
          if f.tag = "else" then
            match _h : f.body with
            | .ok b => some (.ok (walk host p false b))
            | .error x => some (.error x)
          else none
      walkEntry host p paired e body other fun paired => walk host p paired rest
termination_by Section.size s
decreasing_by
  · have := Entry.size_body_lt _h
    simp only [Section.size_cons]
    omega
  · have := Entry.size_body_lt _h
    simp only [Section.size_cons]
    omega
  · simp only [Section.size_cons, Entry.size]
    omega

end Run

end Scaffold
