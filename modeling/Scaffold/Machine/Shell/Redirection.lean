import Scaffold.Machine.Shell.Expand

/-!
# Redirections

Redirections are carried out in two steps: first the words of all of them are expanded, then the
channels are connected one after the other. A redirection that fails does so with an error of the
shell; what was connected before stays until somebody restores the channels.
-/

namespace Scaffold

namespace Shell

/-- A redirection whose words are expanded. -/
inductive Connection where
  | file (channel : Nat) (mode : Mode) (path : String)
  /-- The channel of another number, or none. -/
  | copy (channel : Nat) (source : Option Nat)
  | here (channel : Nat) (id : Nat)
deriving Inhabited

/-- Expand the words of redirections. -/
def expandRedirects (run : Command → Sh Ending) : List Redirect → Sh (List Connection)
  | [] => return []
  | r :: rest => do
    let here ← match r with
      | .file channel mode target => do
        pure (Connection.file channel mode (← expandText run { tilde := true } target))
      | .copy channel target => do
        let text ← expandText run { tilde := true } target
        if text = "-" then pure (Connection.copy channel none)
        else match channelNumber? text with
          | some n => pure (Connection.copy channel (some n))
          | none => Sh.fail "Syntax error: Bad fd number"
      | .here channel id => pure (Connection.here channel id)
    return here :: (← expandRedirects run rest)

/-- The reason why a file could not be opened or created. -/
def openReason (creating : Bool) : IoError → String
  | .noEntry => if creating then "Directory nonexistent" else "No such file"
  | .notDirectory => if creating then "Directory nonexistent" else "No such file"
  | e => e.reason

/-- Open a file for a channel. -/
def openFor (mode : Mode) (path : String) : Sh Nat := do
  let s ← get
  let item := s.machine.files.item? (Machine.path s.dir) (Machine.path path)
  let isFile := match item with
    | some (.file _ _) => true
    | some (.tool _) => true
    | _ => false
  let access : Machine.Access := match mode with
    | .read => .read
    | .readWrite => .readWrite
    | .write => if s.has "noclobber" && isFile then .fresh else .write
    | .clobber => .write
    | .append => .append
  let opened ← Sh.onMachine fun m => m.openPath s.channels (Machine.path s.dir) path access
  match opened with
  | .ok k => return k
  | .error e =>
    let creating := mode != .read
    Sh.fail ((if creating then "cannot create " else "cannot open ") ++ path ++ ": " ++
      openReason creating e)

/-- Connect a channel. -/
def connect (run : Command → Sh Ending) : Connection → Sh Unit
  | .file channel mode path => do
    let k ← openFor mode path
    modify fun s => { s with channels := s.channels.set channel k }
  | .copy channel none => modify fun s => { s with channels := s.channels.close channel }
  | .copy channel (some n) => do
    if n = channel then return
    match (← get).channels.get? n with
    | some k => modify fun s => { s with channels := s.channels.set channel k }
    | none => Sh.fail (toString n ++ ": Bad file descriptor")
  | .here channel id => do
    let text ← match List.lookup id (← get).texts with
      | some t => expandText run {} t.body
      | none => pure ""
    let k ← Sh.onMachine fun m => m.openPipe (Octets.bytes text) true
    modify fun s => { s with channels := s.channels.set channel k }

/-- Connect channels; the result says whether all could be. What breaks the shell off for another
reason goes on doing so. -/
def connectAll (run : Command → Sh Ending) (connections : List Connection) : Sh Bool := do
  match ← Sh.attempt (connections.forM (connect run)) with
  | .ok () => return true
  | .error .failed =>
    Sh.setStatus 2
    return false
  | .error flow => throw flow

end Shell

end Scaffold
