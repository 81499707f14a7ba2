import Scaffold.Machine.Tool.Copy.Settings

/-!
# Copying

`cp` copies files, links and directories, to a name or into a directory. Directories are copied
entry by entry; a directory that is copied into itself ends when its copy is met. A copy remembers
what it made from what, so that it does not overwrite its own work, and so that names of one file
can become names of one file again.
-/

namespace Scaffold

namespace Tool

namespace Copy

/-! ### Looking at files -/

/-- What a name leads to. -/
inductive Sight where
  | there (key : String) (item : Item)
  | missing
  | failed (e : IoError)
deriving Inhabited

/-- Look at what a name leads to, through links or not. -/
def look (name : String) (follow : Bool) : Tool Sight := do
  match ← find name follow with
  | .ok { item := some item, key } => return .there key item
  | .ok _ => return .missing
  | .error .noEntry => return .missing
  | .error e => return .failed e

/-- The canonical path of a name itself, which may be a link. -/
def entryOf (name : String) : Tool (Option String) := do
  match ← find (withoutSlashes name) false with
  | .ok place => return some place.key
  | .error _ => return none

/-- Whether two names are one entry of one directory. -/
def isOneEntry (a b : String) : Tool Bool := do
  match ← entryOf a, ← entryOf b with
  | some x, some y => return x == y
  | _, _ => return false

/-- Whether something is a link. -/
def isLink : Item → Bool
  | .link _ => true
  | _ => false

/-- Whether something is a file, for a process with channels. -/
def isRegular (item : Item) : Tool Bool := do
  match item with
  | .file _ _ => return true
  | .tool _ => return true
  | .device (.channel n) =>
    let s ← get
    match s.machine.openedAt? s.process.channels n with
    | some { stream := .file _, .. } => return true
    | _ => return false
  | _ => return false

/-! ### What a copy remembers -/

/-- A copy in progress. -/
structure Progress where
  /-- The names that were given for what is being copied. -/
  source : String := ""
  target : String := ""
  /-- Whether repetitions among the sources are looked for. -/
  several : Bool := false
  /-- Entries of sources that were copied, and names of targets that were made. -/
  sources : List String := []
  targets : List String := []
  /-- What was copied, with the name of its copy. -/
  copied : List (String × String) := []
  /-- Whether a directory was made for this source. -/
  made : Bool := false
deriving Inhabited

/-- A step of copying. -/
abbrev Copying := StateT Progress Tool

/-- The copy that was made of something. -/
def copyOf? (key : String) : Copying (Option String) := do
  let f ← (files : Tool Files)
  return ((← get).copied.find? fun e => f.isSame e.1 key).map Prod.snd

/-- Remember a copy; the result is an earlier one of the same thing. -/
def remember (key name : String) : Copying (Option String) := do
  match ← copyOf? key with
  | some earlier => return some earlier
  | none =>
    modify fun p => { p with copied := (key, name) :: p.copied }
    return none

/-- Forget a copy that could not be made. -/
def forget (key : String) : Copying Unit := do
  let f ← (files : Tool Files)
  modify fun p => { p with copied := p.copied.filter fun e => !f.isSame e.1 key }

/-- A failure. -/
def failed (message : String) : Copying Bool := do
  (complain message : Tool Unit)
  return false

/-- A name in a directory. -/
def joined (dir name : String) : String :=
  let dir := withoutSlashes dir
  if dir = "/" then dir ++ name else dir ++ "/" ++ name

/-! ### The same file twice -/

/-- Whether a copy may go on where source and target could be the same file, and whether there is
nothing to do then. -/
def mayGoOn (s : Settings) (source target : String) (key goal : String) (item old : Item) :
    Tool (Bool × Bool) := do
  let f ← files
  let same := f.isSame key goal
  let oneEntry ← isOneEntry source target
  let never := s.follow == some .never
  let keeps := s.backup.isSome
  if same && s.hard then return (true, true)
  if never && isLink item && isLink old then
    return if oneEntry then (false, false) else (true, !keeps && same)
  if !never && !same then return (true, false)
  let itself (name : String) (key : String) (item : Item) : Tool (Option (String × Item)) := do
    if never then return some (key, item)
    else match ← look name false with
      | .there key item => return some (key, item)
      | _ => return none
  match ← itself source key item, ← itself target goal old with
  | some (sourceKey, sourceItem), some (targetKey, targetItem) =>
    let sameItself := f.isSame sourceKey targetKey
    let onlyFirst := isLink sourceItem && !isLink targetItem
    if !never && isLink sourceItem && isLink targetItem && s.replace then return (true, false)
    if keeps then
      return (if sameItself then !oneEntry else never || !onlyFirst, false)
    if s.replace && isLink targetItem then return (true, false)
    if s.replace && sameItself && (f.twins targetKey).length > 1 && !oneEntry then
      return (true, false)
    if !isLink sourceItem && !isLink targetItem then
      if !sameItself then return (true, false)
      if s.hard then return (true, true)
    if s.symbolic && isLink targetItem then return (true, false)
    if never then
      match ← look source true, ← look target true with
      | .there a _, .there b _ =>
        if !f.isSame a b then return (true, false)
        if s.hard then return (true, !isLink targetItem)
      | _, _ => return (true, false)
    return (false, false)
  | _, _ => return (true, false)

/-! ### Targets that are there -/

/-- Ask whether a target may be overwritten. -/
def mayOverwrite (target : String) : Tool Bool := do
  flush
  let p := (← get).process
  modify fun st =>
    let question := p.name ++ ": overwrite " ++ Quote.always target ++ "? "
    { st with machine := st.machine.tell p.channels 2 (Octets.bytes question) }
  match ← standardInput with
  | .error _ => return false
  | .ok k =>
    let st ← get
    let (answer, machine) := st.machine.readLine [(0, k)] 0
    set { st with machine }
    match answer with
    | .ok (line, _) => return ((Octets.chars line).head?).any fun c => c == 'y' || c == 'Y'
    | .error _ => return false

/-- The number of a numbered backup of a name. -/
def backupNumber? (name backup : String) : Option Nat := do
  let rest ← Text.stripPrefix? (name ++ ".~") backup
  let digits ← Text.stripSuffix? "~" rest
  if digits.toList.head? == some '0' then none else Integer.natural? digits

/-- The name that the old content of a target is kept under. -/
def backupName (s : Settings) (kind : Backup) (target : String) : Tool String := do
  let bare := withoutSlashes target
  let simple := bare ++ s.suffix.getD "~"
  let f ← files
  match ← find bare false with
  | .error _ => return simple
  | .ok place =>
    let name := lastPart bare
    let numbers := (f.names (Files.parent place.key)).filterMap fun n =>
      backupNumber? name (Octets.ofText n)
    let last := numbers.foldl max 0
    if kind = .simple || (kind = .existing && last = 0) then return simple
    else return bare ++ ".~" ++ toString (last + 1) ++ "~"

/-- Move a target that is there to its backup. -/
def moveAway (target backup : String) : Tool Unit := do
  match ← find (withoutSlashes target) false, ← find backup false with
  | .ok a, .ok b => setFiles ((← files).rename a.key b.key)
  | _, _ => return

/-- Remove a target that is there. -/
def remove (s : Settings) (target : String) : Tool Unit := do
  match ← find (withoutSlashes target) false with
  | .ok place =>
    setFiles ((← files).erase place.key)
    if s.verbose then say ("removed " ++ Quote.always target ++ "\n")
  | .error _ => return

/-- What becomes of a target that is there. -/
inductive Verdict where
  /-- The copy has been settled. -/
  | settled (ok : Bool)
  /-- The target is written to. -/
  | kept
  /-- The target is out of the way, possibly under another name. -/
  | gone (backup : Option String)
deriving Inhabited

/-- Decide what becomes of a target that is there. -/
def confront (s : Settings) (isNamed : Bool) (source target key goal : String) (item old : Item) :
    Copying Verdict := do
  let isDirectory := item == .directory
  let refuse (message : String) : Copying Verdict := do
    let _ ← failed message
    return .settled false
  let (mayGo, nothingLeft) ←
    if s.overwriting = .never then pure (true, false)
    else (mayGoOn s source target key goal item old : Tool (Bool × Bool))
  if !mayGo then
    refuse (Quote.always source ++ " and " ++ Quote.always target ++ " are the same file")
  else
    let f ← (files : Tool Files)
    if s.update && !isDirectory && f.stamp goal ≥ f.stamp key then return .settled true
    if !isDirectory && s.overwriting = .never then return .settled true
    if !isDirectory && s.overwriting = .ask then
      if !(← (mayOverwrite target : Tool Bool)) then return .settled true
    if nothingLeft then return .settled true
    if isDirectory && old != .directory then
      refuse ("cannot overwrite non-directory " ++ Quote.always target ++ " with directory " ++
        Quote.always source)
    else if old != .directory && isNamed && s.backup != some .numbered &&
        (← get).targets.contains target then
      refuse ("will not overwrite just-created " ++ Quote.always target ++ " with " ++
        Quote.always source)
    else if !isDirectory && old == .directory then
      refuse ("cannot overwrite directory " ++ Quote.always target ++ " with non-directory")
    else
      let last := lastPart source
      match s.backup with
      | some kind =>
        if last = "." || last = ".." || old == .directory then return .kept
        let backup ← (backupName s kind target : Tool String)
        if kind != .numbered && (← (isOneEntry source backup : Tool Bool)) then
          refuse ("backing up " ++ Quote.always target ++ " might destroy source;  " ++
            Quote.always source ++ " not copied")
        else
          (moveAway target backup : Tool Unit)
          return .gone (some backup)
      | none =>
        let isShared := s.links && (f.twins goal).length > 1
        let isOther := s.follow == some .never && !(← (isRegular item : Tool Bool))
        if old != .directory && (s.replace || (s.content && (isShared || isOther))) then
          (remove s target : Tool Unit)
          return .gone none
        else return .kept

/-! ### Making copies -/

/-- Why something new cannot be made under a name, if so. Under a free name with a slash behind it,
the reason depends on what is made. -/
def obstacle? (slashed : IoError) (target : String) : Tool (Option IoError) := do
  match ← find (withoutSlashes target) false with
  | .error e => return some e
  | .ok { item := some _, .. } => return some .alreadyThere
  | .ok _ => return if Text.endsWith "/" target then some slashed else none

/-- Give a copy the time of its source, where that is asked for. -/
def keepTime (s : Settings) (key copy : String) : Tool Unit := do
  if s.times then setFiles ((← files).setStamp copy ((← files).stamp key))

/-- Put something new under a name that is free. -/
def create (s : Settings) (key target : String) (item : Item) : Tool Unit := do
  match ← find (withoutSlashes target) false with
  | .ok place =>
    setFiles ((← files).put place.key item)
    keepTime s key place.key
  | .error _ => return

/-- Make a link to a file. A file that is in the way is replaced or not. -/
def link (s : Settings) (key source target : String) (replacing telling : Bool) : Tool Bool := do
  let fail (e : IoError) : Tool Bool := do
    complain ("cannot create hard link " ++ Quote.always target ++ " to " ++ Quote.always source ++
      ": " ++ e.reason)
    return false
  match ← find (withoutSlashes target) false with
  | .error e => fail e
  | .ok { item := some .directory, .. } => fail .alreadyThere
  | .ok { item := some _, key := goal } =>
    if !replacing then fail .alreadyThere
    else
      if !(← files).isSame key goal then setFiles ((← files).join key goal)
      if telling && s.verbose then say ("removed " ++ Quote.always target ++ "\n")
      return true
  | .ok { item := none, key := goal } =>
    if Text.endsWith "/" target then fail .noEntry
    else
      setFiles ((← files).join key goal)
      return true

/-- Make a link that holds a path. -/
def symbolicLink (s : Settings) (key target path : String) (message : String) : Tool Bool := do
  match ← obstacle? .noEntry target with
  | some .alreadyThere =>
    if s.force then
      remove { s with verbose := false } target
      create s key target (.link path)
      return true
    else
      complain (message ++ ": " ++ IoError.alreadyThere.reason)
      return false
  | some e =>
    complain (message ++ ": " ++ e.reason)
    return false
  | none =>
    create s key target (.link path)
    return true

/-- Whether relative links can be made under a name: only in the current directory. -/
def isLocal (target : String) : Tool Bool := do
  match ← entryOf target, ← find "." true with
  | some key, .ok here => return Files.parent key == here.key
  | _, _ => return true

/-- The item that a new copy of a file is. -/
def fresh (s : Settings) (item : Item) (content : Bytes) : Item :=
  match item with
  | .file _ executable => .file content (executable && !s.plainMode)
  | .tool name => if s.content then .tool name else .file [] true
  | _ => .file content false

/-- Write the content of a file to a target. -/
def writeFile (s : Settings) (key source target : String) (item : Item) (isNew : Bool) :
    Tool Bool := do
  let fail (message : String) : Tool Bool := do
    complain message
    return false
  match ← openFile source .read with
  | .error e => fail ("cannot open " ++ Quote.always source ++ " for reading: " ++ e.reason)
  | .ok k =>
    let taken ← if s.content then readOpened k none else pure (.ok [])
    let existing ← if isNew then pure none else item? target
    let isBlocked ← match existing with
      | some (.tool _) => pure true
      | some _ => pure false
      | none => pure true
    if !isNew && isBlocked && s.force then remove s target
    if isNew || (isBlocked && s.force) then
      match ← obstacle? .notDirectory target with
      | some .alreadyThere =>
        fail ("not writing through dangling symlink " ++ Quote.always target)
      | some e => fail ("cannot create regular file " ++ Quote.always target ++ ": " ++ e.reason)
      | none =>
        match taken with
        | .error e =>
          create s key target (.file [] false)
          fail ("error reading " ++ Quote.always source ++ ": " ++ e.reason)
        | .ok content =>
          create s key target (fresh s item content)
          if s.clone && s.content then
            remove { s with verbose := false } target
            fail ("failed to clone " ++ Quote.always target ++ " from " ++ Quote.always source ++
              ": Operation not supported")
          else return true
    else
      match ← openFile target (if s.content then .write else .readWrite), taken with
      | .error e, _ =>
        fail ("cannot create regular file " ++ Quote.always target ++ ": " ++ e.reason)
      | .ok _, .error e => fail ("error reading " ++ Quote.always source ++ ": " ++ e.reason)
      | .ok j, .ok content =>
        let st ← get
        let (result, machine) := st.machine.write [(1, j)] 1 content
        set { st with machine }
        if let .ok { item := some (.file now executable), key := goal } ← find target true then
          let wanted := match item with
            | .file _ e => if s.mode then e else executable
            | _ => executable
          if wanted != executable then
            setFiles ((← files).change goal (.file now wanted))
          keepTime s key goal
        match result with
        | .ok () => return true
        | .error e => fail ("error writing " ++ Quote.always target ++ ": " ++ e.reason)

/-! ### Copying -/

/-- The outcome of copying something: whether it worked, and whether a directory met its copy. -/
structure Outcome where
  ok : Bool := true
  intoItself : Bool := false
deriving Inhabited

/-- The outcome of a step that met no copy. -/
def plain (x : Copying Bool) : Copying Outcome := do return { ok := ← x }

/-- Show what is copied. -/
def announce (s : Settings) (source target : String) (backup : Option String) : Tool Unit :=
  let kept := match backup with
    | some name => " (backup: " ++ Quote.always name ++ ")"
    | none => ""
  if s.verbose then say (Quote.always source ++ " -> " ++ Quote.always target ++ kept ++ "\n")
  else return

/-- Copy something that is no directory, to a target that is new or may be written to. -/
def copyPlain (s : Settings) (source target key : String) (item : Item) (isNew : Bool) :
    Tool Bool := do
  if s.symbolic then
    if !Path.isAbsolute source && !(← isLocal target) then
      complain (Quote.needed target ++
        ": can make relative symbolic links only in current directory")
      return false
    symbolicLink s key target (Machine.path source)
      ("cannot create symbolic link " ++ Quote.always target ++ " to " ++ Quote.always source)
  else if s.hard then link s key source target (s.force || s.overwriting = .ask) false
  else
    match item with
    | .link path =>
      let isThere := match ← look target false with
        | .there _ (.link old) => old == path
        | _ => false
      if s.update && isThere then return true
      symbolicLink s key target path ("cannot create symbolic link " ++ Quote.always target)
    | .device _ =>
      if s.recursive && !s.devices && !(← isRegular item) then
        create s key target item
        return true
      else writeFile s key source target item isNew
    | _ => writeFile s key source target item isNew

/-- Whether a source was named before, which is only warned about. -/
def isRepeated (s : Settings) (isNamed isDirectory : Bool) (source : String) : Copying Bool := do
  let p ← get
  if !isNamed || !p.several then return false
  let entry := (← (entryOf source : Tool (Option String))).getD ""
  if !isDirectory && s.backup.isNone && p.sources.contains entry then
    let _ ← failed ("warning: source file " ++ Quote.always source ++ " specified more than once")
    return true
  else
    set { p with sources := entry :: p.sources }
    return false

mutual

/-- Copy something. `isFree` says that the target is known to be free. The fuel bounds how deep
directories are nested. -/
def copy (s : Settings) (isNamed isFree : Bool) (above : List String) :
    (fuel : Nat) → (source target : String) → Copying Outcome
  | 0, _, _ => return { ok := false }
  | fuel + 1, source, target => do
    let follow := s.follow == some .always || (s.follow == some .named && isNamed)
    let unseen (e : IoError) : Copying Outcome :=
      plain (failed ("cannot stat " ++ Quote.always source ++ ": " ++ e.reason))
    match ← (find source follow : Tool (Except IoError Place)) with
    | .error e => unseen e
    | .ok { item := none, .. } => unseen .noEntry
    | .ok { item := some item, key } =>
      let isDirectory := item == .directory
      if isDirectory && !s.recursive then
        plain (failed ("-r not specified; omitting directory " ++ Quote.always source))
      else if ← isRepeated s isNamed isDirectory source then return {}
      else
        let isFile ← (isRegular item : Tool Bool)
        let asFile := !s.recursive || s.devices
        let itself := (!isFile && (!asFile || isDirectory || isLink item)) ||
          s.symbolic || s.hard || s.backup.isSome || s.replace
        let sight ←
          if isFree && !itself then pure Sight.missing
          else (look target (!itself) : Tool Sight)
        match sight with
        | .failed e =>
          if e = .tooManyLinks && s.force then
            onward s isNamed above fuel source target key item none .kept
          else plain (failed ("cannot stat " ++ Quote.always target ++ ": " ++ e.reason))
        | .missing => onward s isNamed above fuel source target key item none (.gone none)
        | .there goal old =>
          match ← confront s isNamed source target key goal item old with
          | .settled ok => return { ok }
          | verdict => onward s isNamed above fuel source target key item (some old) verdict

/-- Copy something to a target that nothing is against. -/
def onward (s : Settings) (isNamed : Bool) (above : List String) :
    (fuel : Nat) → (source target key : String) → (item : Item) → (old : Option Item) → Verdict →
    Copying Outcome
  | 0, _, _, _, _, _, _ => return { ok := false }
  | fuel + 1, source, target, key, item, old, verdict => do
    let isDirectory := item == .directory
    let isNew := match verdict with
      | .gone _ => true
      | _ => false
    let backup := match verdict with
      | .gone backup => backup
      | _ => none
    let p ← get
    let isThroughLink ← match ← (look target false : Tool Sight) with
      | .there _ (.link _) =>
        pure (isNamed && s.backup.isNone && p.several && p.targets.contains target)
      | _ => pure false
    if isThroughLink then
      plain (failed ("will not copy " ++ Quote.always source ++ " through just-created symlink " ++
        Quote.always target))
    else
      if !isDirectory then (announce s source target backup : Tool Unit)
      let f ← (files : Tool Files)
      let follows := s.follow == some .always || (s.follow == some .named && isNamed)
      let earlier ←
        if isDirectory then
          if isNamed then remember key target else copyOf? key
        else if s.links && !s.hard && ((f.twins key).length > 1 || follows) then remember key target
        else pure none
      let undo : Copying Unit := do
        if earlier.isNone then forget key
        if let some backup := backup then
          (moveAway backup target : Tool Unit)
          if s.verbose then
            (say (Quote.always backup ++ " -> " ++ Quote.always target ++ " (unbackup)\n") :
              Tool Unit)
      let finished (ok : Bool) : Copying Outcome := do
        if ok then modify fun p => if isNamed then { p with targets := target :: p.targets } else p
        else undo
        return { ok }
      match earlier with
      | some first =>
        if isDirectory then
          if ← (isOneEntry source first : Tool Bool) then
            let _ ← failed ("cannot copy a directory, " ++ Quote.always p.source ++
              ", into itself, " ++ Quote.always p.target)
            return { ok := false, intoItself := true }
          else if ← (isOneEntry target first : Tool Bool) then
            let _ ← failed ("warning: source directory " ++ Quote.always p.source ++
              " specified more than once")
            return {}
          else if follows then
            copyDir s isNamed above fuel source target key old
          else
            let _ ← failed ("will not create hard link " ++ Quote.always target ++
              " to directory " ++ Quote.always first)
            return { ok := false }
        else
          match ← (find first false : Tool (Except IoError Place)) with
          | .ok { key := made, .. } => do
            let ok ← (link s made first target true true : Tool Bool)
            return { ok }
          | .error _ => return { ok := false }
      | none =>
        if isDirectory then copyDir s isNamed above fuel source target key old
        else do
          finished (← (copyPlain s source target key item isNew : Tool Bool))

/-- Copy a directory. -/
def copyDir (s : Settings) (isNamed : Bool) (above : List String) :
    (fuel : Nat) → (source target key : String) → (old : Option Item) → Copying Outcome
  | 0, _, _, _, _ => return { ok := false }
  | fuel + 1, source, target, key, old => do
    if above.contains key then
      plain (failed ("cannot copy cyclic symbolic link " ++ Quote.always source))
    else
      let goal? ←
        if old == some .directory then pure (Except.ok none)
        else match ← (find (if target.isEmpty then target else withoutSlashes target) false :
            Tool (Except IoError Place)) with
          | .error e => pure (.error e)
          | .ok { item := some _, .. } => pure (.error .alreadyThere)
          | .ok { key := goal, .. } => pure (.ok (some goal))
      match goal? with
      | .error e =>
        plain (failed ("cannot create directory " ++ Quote.always target ++ ": " ++ e.reason))
      | .ok goal =>
        if let some goal := goal then
          (setFiles ((← (files : Tool Files)).put goal .directory) : Tool Unit)
          if !(← get).made then
            let _ ← remember goal target
            modify fun p => { p with made := true }
          (announce s source target none : Tool Unit)
        let entries := (← (files : Tool Files)).namesByAge key
        let inner := if s.follow == some .named then { s with follow := some .never } else s
        let r ← copyEntries inner goal.isSome (key :: above) fuel source target entries
        if isNamed then modify fun p => { p with targets := target :: p.targets }
        match ← (find target true : Tool (Except IoError Place)) with
        | .ok place => (keepTime s key place.key : Tool Unit)
        | .error _ => pure ()
        return r

/-- Copy the entries of a directory. -/
def copyEntries (s : Settings) (isFree : Bool) (above : List String) :
    (fuel : Nat) → (source target : String) → List String → Copying Outcome
  | 0, _, _, _ => return { ok := false }
  | _ + 1, _, _, [] => return {}
  | fuel + 1, source, target, name :: rest => do
    let name := Octets.ofText name
    let a ← copy s false isFree above fuel (joined source name) (joined target name)
    if a.intoItself then return a
    let b ← copyEntries s isFree above fuel source target rest
    return { ok := a.ok && b.ok, intoItself := b.intoItself }

end

/-- How deep directories can be nested, together with how many entries they have. -/
def depthLimit : Nat := 100000

/-- Copy one of the named sources. -/
def named (s : Settings) (isFree : Bool) (source target : String) : Copying Bool := do
  modify fun p => { p with source, target, made := false }
  return (← copy s true isFree [] depthLimit source target).ok

/-- Make the directories on the way to a target that is named like its source; the result says
whether they are there. -/
def makeWay (s : Settings) (dir source : String) : Tool Bool := do
  let parts := (Text.split '/' source).filter fun c => !c.isEmpty
  let start := if Path.isAbsolute source then "/" else ""
  let ways := (List.range (parts.length - 1)).map fun i => Text.join "/" (parts.take (i + 1))
  go start ways
where
  /-- Make directories one after the other. -/
  go (start : String) : List String → Tool Bool
    | [] => return true
    | way :: rest => do
      let target := joined dir way
      let fail (message : String) : Tool Bool := do
        complain message
        return false
      match ← find target true with
      | .ok { item := some .directory, .. } => go start rest
      | .ok { item := some _, .. } => fail (Quote.always target ++ " exists but is not a directory")
      | _ =>
        match ← find (start ++ way) true with
        | .ok { item := some .directory, .. } =>
          create s "" target .directory
          if s.verbose then say (start ++ way ++ " -> " ++ target ++ "\n")
          go start rest
        | .ok { item := some _, .. } =>
          fail ("failed to get attributes of " ++ Quote.always (start ++ way) ++ ": " ++
            IoError.notDirectory.reason)
        | .ok _ =>
          fail ("failed to get attributes of " ++ Quote.always (start ++ way) ++ ": " ++
            IoError.noEntry.reason)
        | .error e =>
          fail ("failed to get attributes of " ++ Quote.always (start ++ way) ++ ": " ++ e.reason)

/-- The name a source gets in a directory. -/
def nameIn (dir source : String) : String :=
  let name := lastPart source
  joined dir (if name = ".." then "." else name)

/-- Copy sources into a directory. -/
def intoDir (s : Settings) (dir : String) : List String → Copying Bool
  | [] => return true
  | source :: rest => do
    let source := if s.stripSlashes then withoutSlashes source else source
    let here ←
      if s.parents then do
        let bare := withoutSlashes source
        if ← (makeWay { s with times := false } dir bare : Tool Bool) then
          named s false source (joined dir (String.ofList (bare.toList.dropWhile (· == '/'))))
        else pure false
      else named s false source (nameIn dir source)
    let more ← intoDir s dir rest
    return here && more

/-- Copy to a target that is no directory. A file that would be its own copy is copied to its
backup. -/
def toTarget (s : Settings) (isFree : Bool) (source target : String) : Copying Bool := do
  let isFile ← match ← (item? target : Tool (Option Item)) with
    | some item => (isRegular item : Tool Bool)
    | none => pure false
  match s.backup with
  | some kind =>
    if s.force && source = target && isFile then
      named { s with backup := none } false source (← (backupName s kind target : Tool String))
    else named s isFree source target
  | none => named s isFree source target

end Copy

/-- Copy files, to a file or into a directory. -/
def cp (args : List String) : Tool Nat := do
  let line := Options.read Copy.grammar args
  let s ← Copy.checked (← eachOption 1 Copy.apply line.steps {})
  let paths := line.operands
  let least := if s.targetDir.isSome then 1 else 2
  if paths.length < least then
    match paths.head? with
    | none => misuse 1 "missing file operand"
    | some path => misuse 1 ("missing destination file operand after " ++ Quote.always path)
  let run (x : Copy.Copying Bool) (several : Bool) : Tool Nat := do
    let (ok, _) ← StateT.run x { several }
    return if ok then 0 else 1
  let into (dir : String) (sources : List String) : Tool Nat :=
    run (Copy.intoDir s dir sources) (sources.length ≥ 2)
  let reasonOf (path : String) : Tool (Option IoError) := do
    match ← find path true with
    | .ok { item := some .directory, .. } => return none
    | .ok { item := some _, .. } => return some IoError.notDirectory
    | .ok _ => return some IoError.noEntry
    | .error e => return some e
  let single (isFree : Bool) : Tool Nat := do
    if s.parents then misuse 1 "with --parents, the destination must be a directory"
    run (Copy.toTarget s isFree (paths.headD "") (paths.getLastD "")) false
  if s.noTargetDir then
    if s.targetDir.isSome then
      die 1 "cannot combine --target-directory (-t) and --no-target-directory (-T)"
    match paths with
    | _ :: _ :: extra :: _ => misuse 1 ("extra operand " ++ Quote.always extra)
    | _ => single false
  else
    match s.targetDir with
    | some dir =>
      match ← reasonOf dir with
      | some e => die 1 ("target directory " ++ Quote.always dir ++ ": " ++ e.reason)
      | none => into dir paths
    | none =>
      let target := paths.getLastD ""
      match ← reasonOf target with
      | none => into target paths.dropLast
      | some e =>
        if paths.length > 2 then die 1 ("target " ++ Quote.always target ++ ": " ++ e.reason)
        single (e = .noEntry)

end Tool

end Scaffold
