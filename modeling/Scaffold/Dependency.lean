import Scaffold.Section

/-!
# Dependencies

A dependency is a kind of package and what to install of it. Lists of dependencies are sections
whose entries are all dependencies.
-/

namespace Scaffold

/-- The kinds of packages that can be installed. -/
def dependencyKinds : List String := ["rpm", "pip", "npm", "gem"]

/-- Whether a tag is a kind of package. -/
def isDependencyKind (tag : String) : Bool := dependencyKinds.contains tag

/-- A kind of package and the packages. -/
structure Dependency where
  kind : String
  argument : Value
deriving DecidableEq, Repr, Inhabited

/-- The names of the packages; anything but a list is a single package, null is none. -/
def Dependency.packages (d : Dependency) : List String :=
  match d.argument with
  | .list items => items.map Value.render
  | .null => []
  | other => [other.render]

/-- The command line that installs packages of a kind, without the packages. -/
def installCommand? (kind : String) : Option String :=
  if kind == "rpm" then some "dnf install -y"
  else if kind == "pip" then some "pip install --user"
  else if kind == "npm" then some "npm install -g"
  else if kind == "gem" then some "gem install"
  else none

/-- A list of dependencies as a value. -/
def dependenciesToValue (deps : List Dependency) : Value :=
  .list (deps.map fun d => .mapping [(.text d.kind, d.argument)])

/-- A list of dependencies from a value. -/
def dependenciesOfValue (v : Value) : Except SyntaxError (List Dependency) :=
  ((Section.ofValue v).mapError (SyntaxError.inside "dependency list")).map fun s =>
    s.map fun e => { kind := e.tag, argument := e.argument }

end Scaffold
