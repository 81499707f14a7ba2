import Scaffold.Library

/-!
# Listings

A library as text: each role with its tree of assistants, one line per assistant.
-/

namespace Scaffold

/-- How names are set off. -/
structure Palette where
  role : String → String := id
  assistant : String → String := id

/-- Text between a terminal sequence and the one that ends it. -/
def decorated (code s : String) : String := "\x1b[" ++ code ++ "m" ++ s ++ "\x1b[0m"

/-- Plain text. -/
def Palette.plain : Palette := {}

/-- Roles in bold, assistants in green. -/
def Palette.terminal : Palette := { role := decorated "1", assistant := decorated "32" }

mutual

/-- The lines of a tree, indented by its depth. -/
def Tree.listing (p : Palette) (depth : Nat) : Tree → String
  | .node a children =>
    Text.repeated depth "  " ++ p.assistant a.name ++ " - " ++ a.description.getD a.fullname ++
      "\n" ++ listingEach p (depth + 1) children

/-- The lines of trees next to each other. -/
def listingEach (p : Palette) (depth : Nat) : List Tree → String
  | [] => ""
  | t :: rest => t.listing p depth ++ listingEach p depth rest

end

/-- The listing of some roles; a role without assistants is left out. -/
def Library.listing (l : Library) (p : Palette) (roles : List String) : String :=
  Text.join "" (roles.map fun role =>
    let f := l.forest role
    if f.isEmpty then "" else p.role role ++ "\n" ++ listingEach p 1 f)

end Scaffold
