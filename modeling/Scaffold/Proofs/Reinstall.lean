import Scaffold.Proofs.Command
import Scaffold.Proofs.Marker
import Scaffold.Proofs.Reading

/-!
# Installing again what a project depends on

A run that creates a project collects what the assistants on its path depend on, and leaves a
marker. Later the marker stands in for that run: its path names the assistants, its arguments are
the only variables. The marker has the arguments that the last assistant on the path declares. The
run itself prepares those of every assistant on it, so what only another one declares is forgotten.

* `Host.Keeps`: a host on which a file holds what was written to it.
* `Marker.Restores`: the text of a marker is read back as the value that it was written from.
* `Project`: a path of assistants, the run that starts it, the command that writes the marker, and a
  later state.
* `Project.Declared`: variables that some assistant on the path declares.
* `Project.Kept`: variables that the last assistant declares, or that are not set.
* `Project.Reinstalls`: the later installation is the one of the run.

Results:
* `exists_text_of_created`: what is left behind.
* `installIn_apply`: what is installed for a marker without additions.
* **`reinstalls_of_kept`**: a project whose dependencies depend on variables that are kept.
* **`not_reinstalls_of_declared`**: it is not enough that some assistant declares them.
-/

namespace Scaffold

open Run

variable {W : Type}

/-- A host on which a file holds what was written to it. -/
def Host.Keeps (host : Host W) (path : String) : Prop :=
  ∀ w text w', host.writeText w path text = (.ok (), w') → host.readText w' path = .ok text

namespace Marker

/-- The text of a marker is read back as the value that it was written from. -/
def Restores (m : Marker) : Prop :=
  ∀ text, m.text = .ok text →
    Yaml.Decode.document? decode text = some (decode (Value.mapping m.toEntries)).run?

variable {host : Host W} {dir : String} {s t u : State W}

/-- A marker that was written is a text in the file of the directory. -/
theorem exists_text_of_writeIn (h : (writeIn host dir s).1 = .ok ()) :
    ∃ text, (ofContext s.context).text = .ok text ∧
      host.writeText s.world.outside (Path.join dir markerFile) text =
        (.ok (), (writeIn host dir s).2.world.outside) := by
  unfold writeIn at h ⊢
  rw [context_bind, bind_apply, Run.outside] at h ⊢
  rcases htext : (ofContext s.context).text with fault | text
  · simp only [write, htext] at h
    cases h
  · rcases hfile : host.writeText s.world.outside (Path.join dir markerFile) text with ⟨e | _, w⟩
    · simp only [write, htext, hfile] at h
      cases h
    · exact ⟨text, rfl, by simp only [write, htext, hfile]; rfl⟩

theorem exists_text_of_created {env : Env W} {inner : Interpreter W}
    (h : (run env inner "dda_c" dir s).1 = .ok .null) :
    ∃ text, (ofContext s.context).text = .ok text ∧
      env.host.writeText s.world.outside (Path.join dir markerFile) text =
        (.ok (), (run env inner "dda_c" dir s).2.world.outside) := by
  have hrun : run env inner "dda_c" dir = (do writeIn env.host dir; return Value.null) := by
    unfold run
    rw [if_pos rfl]
  rw [hrun, bind_null] at h ⊢
  refine exists_text_of_writeIn ?_
  rcases hw : (writeIn env.host dir s).1 with e | ⟨⟩
  · rw [hw] at h
    cases h
  · rfl

/-- Where the file of a marker is not changed after it is written, the marker is read back. -/
theorem readIn_of_created {env : Env W} {inner : Interpreter W}
    (hcreated : (run env inner "dda_c" dir s).1 = .ok .null)
    (hrestores : (ofContext s.context).Restores)
    (hkeeps : env.host.Keeps (Path.join dir markerFile))
    (hunchanged : env.host.readText u.world.outside (Path.join dir markerFile) =
      env.host.readText (run env inner "dda_c" dir s).2.world.outside (Path.join dir markerFile)) :
    readIn env.host dir u = (.ok (ofContext s.context), u) := by
  obtain ⟨text, htext, hfile⟩ := exists_text_of_created hcreated
  have hread : env.host.readText u.world.outside (Path.join dir markerFile) = .ok text :=
    hunchanged.trans (hkeeps _ _ _ hfile)
  have hparse : parse? text = some (ofContext s.context) := by
    rw [parse?, hrestores text htext, run?_decode_toEntries (extra_ofContext _)]
    rfl
  exact readIn_of_text env.host hread hparse

/-- A marker without additions holds no section. -/
theorem section?_of_bare {m : Marker} (h : m.extra = ∅) (name : String) :
    m.section? name = .ok [] := by
  rw [section?, extraValue, h]
  rfl

theorem creatorDependencies_apply {m : Marker} {chain : List Assistant}
    (hchain : u.context.library.chain creatorRole m.path = .ok chain) :
    m.creatorDependencies host u =
      forked (fun c => { c with kind := .dependencies, vars := m.arguments })
        (chainDependencies host chain) u := by
  have hpath : ¬ m.path.isEmpty = true := by
    simpa using (Library.chain_eq_ok hchain).1
  rw [creatorDependencies, if_neg hpath, context_bind, hchain]

/-- **What is installed** for a marker without additions: what its assistants need, given nothing
but its arguments. -/
theorem installIn_apply {env : Env W} {inner : Interpreter W} {m : Marker}
    {chain : List Assistant}
    (hread : readIn env.host dir u = (.ok m, u)) (hextra : m.extra = ∅)
    (hchain : u.context.library.chain creatorRole m.path = .ok chain) :
    installIn env inner dir u =
      (forked (fun c => { c with kind := .dependencies, vars := m.arguments })
        (chainDependencies env.host chain) >>= installResolved env inner) u := by
  have hnone : ∀ needed : List Dependency, (do
      let extra ← Run.ofSyntax (m.section? dependenciesSectionName)
      let added ← forked (fun c => { c with kind := .dependencies }) (dependencies env.host extra)
      installResolved env inner (needed ++ added)) =
        installResolved env inner needed := fun needed => by
    rw [section?_of_bare hextra]
    funext v
    have hnil : (dependencies env.host [] : Run W (List Dependency)) = pure [] := by
      rw [dependencies, collect, walk_nil]
    change (forked (fun c => { c with kind := .dependencies }) (dependencies env.host []) >>=
      fun added => installResolved env inner (needed ++ added)) v = _
    rw [hnil]
    change installResolved env inner (needed ++ []) v = _
    rw [List.append_nil]
  rw [installIn, bind_of_ok hread]
  simp only [hnone]
  rw [bind_apply, bind_apply, creatorDependencies_apply hchain]

end Marker

/-! ## Projects -/

/-- A project that is created and used. -/
structure Project (W : Type) where
  env : Env W
  interpreter : Interpreter W
  library : Library
  names : List String
  chain : List Assistant
  dir : String
  /-- Where the run of the path starts. -/
  start : State W
  /-- Where the command that writes the marker starts. -/
  writing : State W
  /-- Where the marker is used. -/
  later : State W
  resolved : library.chain creatorRole names = .ok chain
  started : ∃ base vars, base.files = [] ∧
    Invocation.start ⟨creatorRole, chain⟩ library base vars = .ok start.context
  fresh : start.world.cancelled = false
  /-- No variable continues the path. -/
  ends : ∀ n, names.length < n → start.context.vars.get? (pathVar n) = none
  vars : writing.context.vars = start.context.vars
  assistant : writing.context.assistant = start.context.assistant
  created : (Marker.run env interpreter "dda_c" dir writing).1 = .ok .null
  restores : (Marker.ofContext writing.context).Restores
  keeps : env.host.Keeps (Path.join dir markerFile)
  /-- The file of the marker is not changed in between. -/
  unchanged : env.host.readText later.world.outside (Path.join dir markerFile) =
    env.host.readText (Marker.run env interpreter "dda_c" dir writing).2.world.outside
      (Path.join dir markerFile)
  sameLibrary : later.context.library = library
  noFiles : later.context.files = []
  running : later.world.cancelled = false

namespace Project

variable (p : Project W)

/-- The marker that is left. -/
def marker : Marker := .ofContext p.writing.context

/-- What the run of the path gives the installer. -/
def needed : Except Failure (List Dependency) :=
  (chainDependencies p.env.host p.chain p.start).1

/-- What installing does for the marker of the project. -/
def reinstall : Except Failure Value × State W :=
  Marker.run p.env p.interpreter "dda_dependencies" p.dir p.later

/-- Variables that an assistant on the path declares. -/
def Declared (n : String) : Prop := ∃ a ∈ p.chain, a.isArg n = true

/-- Variables that the last assistant on the path declares, or that are not set. -/
def Kept (n : String) : Prop :=
  p.start.context.assistant.isArg n = true ∨ p.start.context.vars.get? n = none

/-- What is installed is what the run of the path needs, in the context and with the host that the
installation starts with; and it fails as the collection of that run does. -/
def Reinstalls : Prop :=
  ∃ u : State W, u.context = p.later.context ∧ u.world.outside = p.later.world.outside ∧
    u.world.cancelled = false ∧
    p.reinstall = match p.needed with
      | .ok deps => (do installResolved p.env p.interpreter deps; return Value.null) u
      | .error e => (.error e, u)

theorem holdPath_start (p : Project W) :
    p.start.context.vars.HoldPath (creatorRole :: p.names) := by
  obtain ⟨base, vars, -, hstart⟩ := p.started
  obtain ⟨a, ready, -, hprepare, hc⟩ := Invocation.start_eq_ok hstart
  have hready : p.start.context.vars = ready := by rw [hc]
  have hnames : p.chain.map Assistant.name = p.names := Library.names_of_chain p.resolved
  have hlength : p.chain.length = p.names.length := by rw [← hnames, List.length_map]
  have hhold := Invocation.holdPath_of_prepare hprepare fun n hn => by
    rw [← hready]
    exact p.ends n (hlength ▸ hn)
  rw [hready, ← hnames]
  exact hhold

/-- The marker names the path that was run. -/
theorem path_marker (p : Project W) : p.marker.path = p.names :=
  Marker.path_ofContext (by rw [p.vars]; exact p.holdPath_start) (by decide)

/-- Where the marker is used, it is what was written. -/
theorem readIn_later (p : Project W) :
    Marker.readIn p.env.host p.dir p.later = (.ok p.marker, p.later) :=
  Marker.readIn_of_created p.created p.restores p.keeps p.unchanged

/-- Where the installation collects, what is kept is as where the run started. -/
theorem matches_later (p : Project W) :
    State.Matches p.Kept p.start
      { p.later with context :=
        { p.later.context with kind := .dependencies, vars := p.marker.arguments } } where
  vars n hn := by
    have hkept : p.writing.context.assistant.isArg n = true ∨
        p.writing.context.vars.get? n = none := by
      rw [p.vars, p.assistant]
      exact hn
    exact (Marker.get?_ofContext hkept).trans (by rw [p.vars])
  files := by
    obtain ⟨base, vars, hfiles, hstart⟩ := p.started
    obtain ⟨a, ready, -, -, hc⟩ := Invocation.start_eq_ok hstart
    exact p.noFiles.trans (by rw [hc]; exact hfiles.symm)
  running := ⟨p.fresh, p.running⟩

/-- **Dependencies on what is kept** are installed as the run of the path does it. -/
theorem reinstalls_of_kept (p : Project W) (h : ∀ a ∈ p.chain, a.DependsOn p.Kept) :
    p.Reinstalls := by
  have hchain : p.later.context.library.chain creatorRole p.marker.path = .ok p.chain := by
    rw [p.sameLibrary, p.path_marker]
    exact p.resolved
  have hinstall : p.reinstall = (do
      let deps ← forked
        (fun c => { c with kind := .dependencies, vars := p.marker.arguments })
        (chainDependencies p.env.host p.chain)
      installResolved p.env p.interpreter deps
      return Value.null) p.later := by
    rw [reinstall, Marker.run, if_neg (by decide), if_neg (by decide), if_pos (by decide),
      bind_apply, Marker.installIn_apply p.readIn_later (Marker.extra_ofContext _) hchain,
      ← bind_apply, bind_assoc]
  obtain ⟨houtcome, hafter, -, hworld⟩ :=
    echoes_chainDependencies p.env.host h _ _ p.matches_later
  let x := forked (fun c => { c with kind := .dependencies, vars := p.marker.arguments })
    (chainDependencies p.env.host p.chain) p.later
  have hx : x.1 = p.needed := houtcome
  refine ⟨x.2, rfl, hworld, hafter.running.2, ?_⟩
  rw [hinstall]
  rcases hneeded : p.needed with e | deps <;> rw [hneeded] at hx
  · exact bind_of_error (Prod.ext hx rfl)
  · exact bind_of_ok (Prod.ext hx rfl)

end Project

/-! ## A project of two assistants -/

deriving instance DecidableEq for Marker

/-- A host with one file, whose text is the state. -/
def Host.oneFile : Host String where
  spawn w _ := (.error .noEntry, w)
  isDir _ _ := false
  isFile _ _ := true
  listDir _ _ := []
  canonical? _ _ := none
  readText text _ := .ok text
  writeText _ _ text := (.ok (), text)
  currentDir _ := "/"
  home? _ := none
  environment? _ _ := none

namespace Blog

/-- What a name is given by. -/
def nameArgument : Table Argument := Table.ofList [("name", { flags := ["-n"] })]

/-- The dependencies of the first assistant. -/
def interpreter : Section := [⟨"rpm", .list [.text "python"]⟩]

/-- The dependencies of the last assistant, which depend on the name. -/
def framework : Section :=
  [⟨"if $name", .list [.mapping [(.text "pip", .list [.text "django-$name"])]]⟩]

/-- The first assistant declares a name. -/
def python : Assistant :=
  { name := "python", args := nameArgument,
    sections := Table.ofList [(dependenciesSectionName, interpreter)] }

/-- The last assistant reads the name; it may declare it as well. -/
def django (declares : Bool) : Assistant :=
  { name := "django", args := if declares then nameArgument else ∅,
    sections := Table.ofList [(dependenciesSectionName, framework)] }

/-- The library of the two. -/
def library (declares : Bool) : Library :=
  { assistants := Table.ofList [(creatorRole, [.node python [.node (django declares) []]])] }

/-- The variables of a run with a name. -/
def vars : Vars :=
  Table.ofList [("name", .text "blog"), (pathVar 0, .text creatorRole),
    (pathVar 1, .text "python"), (pathVar 2, .text "django")]

/-- Built-in runners, and an installer that records. -/
def env : Env String := ⟨Host.oneFile, .withInstaller .recording⟩

/-- Where the run starts. -/
def start (declares : Bool) : State String :=
  ⟨{ vars, assistant := django declares, library := library declares }, { outside := "" }⟩

/-- The text of the marker. -/
def markerText (declares : Bool) : String :=
  "devassistant_version: 0.1.0\nsubassistant_path:\n- python\n- django\noriginal_kwargs:" ++
    if declares then "\n  name: blog\n" else " \x7b\x7d\n"

theorem get?_vars {n : Nat} (h : 2 < n) : vars.get? (pathVar n) = none := by
  have hpath : ∀ k ≤ 2, pathVar k ≠ pathVar n := fun k hk heq =>
    Nat.ne_of_lt (Nat.lt_of_le_of_lt hk h) (pathVar_injective heq)
  have hname : "name" ≠ pathVar n := fun heq => by
    have hhead := congrArg (fun s => s.toList.head?) heq
    simp [pathVar] at hhead
  simp only [vars, Table.ofList, Table.insertAll, List.foldl_cons, List.foldl_nil,
    Table.get?_insert, hpath 0 (by decide), hpath 1 (by decide), hpath 2 (by decide), hname,
    if_false, Table.get?_empty]

theorem prepare (declares : Bool) :
    Invocation.prepare ⟨creatorRole, [python, django declares]⟩
      (Table.ofList [("name", .text "blog")]) = .ok vars := by
  refine eq_ok_of_toOption ?_
  cases declares <;> decide +kernel

/-- The marker is written, and then it is the text of the file. -/
theorem written (declares : Bool) :
    (Marker.run env (Run.interpreter env 1) "dda_c" "/blog" (start declares)).1 = .ok .null ∧
      (Marker.run env (Run.interpreter env 1) "dda_c" "/blog" (start declares)).2.world.outside =
        markerText declares := by
  have h : (Marker.run env (Run.interpreter env 1) "dda_c" "/blog" (start declares)).1.toOption =
        some .null ∧
      (Marker.run env (Run.interpreter env 1) "dda_c" "/blog" (start declares)).2.world.outside =
        markerText declares := by
    cases declares <;> decide +kernel
  exact ⟨eq_ok_of_toOption h.1, h.2⟩

theorem restores (declares : Bool) : (Marker.ofContext (start declares).context).Restores := by
  intro text h
  obtain ⟨text', htext, hfile⟩ := Marker.exists_text_of_created (written declares).1
  have hmarker : text' = markerText declares := (congrArg Prod.snd hfile).trans (written declares).2
  cases htext.symm.trans h
  rw [hmarker]
  rw [Marker.run?_decode_toEntries (Marker.extra_ofContext _)]
  cases declares <;> decide +kernel

/-- The project; the last assistant declares the name it reads, or only the first one does. -/
def project (declares : Bool) : Project String where
  env := env
  interpreter := Run.interpreter env 1
  library := library declares
  names := ["python", "django"]
  chain := [python, django declares]
  dir := "/blog"
  start := start declares
  writing := start declares
  later := ⟨{ library := library declares }, { outside := markerText declares }⟩
  resolved := by cases declares <;> rfl
  started := by
    refine ⟨{}, Table.ofList [("name", .text "blog")], rfl, ?_⟩
    have hlast : Invocation.assistant? ⟨creatorRole, [python, django declares]⟩ =
      some (django declares) := rfl
    rw [Invocation.start, hlast, prepare]
    rfl
  fresh := rfl
  ends _ := get?_vars
  vars := rfl
  assistant := rfl
  created := (written declares).1
  restores := restores declares
  keeps _ _ _ h := by cases h; rfl
  unchanged := congrArg Except.ok (written declares).2.symm
  sameLibrary := rfl
  noFiles := rfl
  running := rfl

/-- Both assistants depend on the name alone. -/
theorem dependsOn {N : String → Prop} (hname : N "name") (declares : Bool) :
    ∀ a ∈ (project declares).chain, a.DependsOn N := by
  have hinterpreter : interpreter.DependsOn N :=
    Section.dependsOn_of_reads
      (show interpreter.nested.map Entry.reads = [some []] by decide +kernel) (by simp [ReadsIn])
  have hframework : framework.DependsOn N :=
    Section.dependsOn_of_reads
      (show framework.nested.map Entry.reads = [some ["name"], some ["name"]] by decide +kernel)
      (by simpa [ReadsIn] using hname)
  intro a ha
  rcases List.mem_pair.mp ha with rfl | rfl
  · exact Assistant.dependsOn_of_general rfl hinterpreter
  · exact Assistant.dependsOn_of_general rfl hframework

/-- What the run needs. -/
theorem needed (declares : Bool) : (project declares).needed =
    .ok [⟨"rpm", .list [.text "python"]⟩, ⟨"pip", .list [.text "django-blog"]⟩] := by
  refine eq_ok_of_toOption ?_
  cases declares <;> decide +kernel

end Blog

namespace Project

/-- The last assistant declares the name that it reads: it is there when installing again. -/
theorem reinstalls_of_kept_blog :
    (∀ a ∈ (Blog.project true).chain, a.DependsOn (Blog.project true).Kept) ∧
      (Blog.project true).Reinstalls := by
  have hkept : (Blog.project true).Kept "name" := .inl rfl
  exact ⟨Blog.dependsOn hkept true, reinstalls_of_kept _ (Blog.dependsOn hkept true)⟩

/-- The packages that an installer recorded. -/
def recorded? : Event → Option (List Dependency)
  | .recorded deps => some deps
  | _ => none

/-- **It is not enough** that some assistant on the path declares what is read: where only the first
one declares the name, what the last one needs for it is not installed again. -/
theorem not_reinstalls_of_declared :
    ¬ ∀ p : Project String, (∀ a ∈ p.chain, a.DependsOn p.Declared) → p.Reinstalls := by
  intro h
  have hdeclared : (Blog.project false).Declared "name" := ⟨Blog.python, List.mem_cons_self, rfl⟩
  obtain ⟨u, -, -, -, heq⟩ := h (Blog.project false) (Blog.dependsOn hdeclared false)
  rw [Blog.needed] at heq
  have hinstalled : ((Blog.project false).reinstall.2.world.events.head?).bind recorded? =
      some [⟨"rpm", .list [.text "python"]⟩] := by decide +kernel
  rw [heq] at hinstalled
  cases hinstalled

end Project

end Scaffold
