import SpirvToolchain.Config
import SpirvToolchain.Log
import SpirvToolchain.Request

/-! What the libraries of a request add to the command line. -/
namespace SpirvToolchain.Libraries

/-- What one look at the catalogue gives: arguments, and the warnings on the way. -/
structure Look where
  args : List String := []
  events : List Event := []
  deriving DecidableEq, Repr

variable (catalogue : Catalogue) (specs : List LibrarySpec)

/-- Looks up one version after another; one that is known gives its entries, any other a warning. -/
def look (entries : LibraryVersion → List String) : List LibrarySpec → Look
  | [] => {}
  | s :: rest =>
    let later := look entries rest
    match catalogue.find? s.id s.version with
    | some v => { later with args := entries v ++ later.args }
    | none =>
      let warning := .warn ("Unknown library " ++ s.id ++ " version " ++ s.version)
      { later with events := warning :: later.events }

def includeEntries (v : LibraryVersion) : List String := v.includePaths.map ("-isystem" ++ ·)

def sharedLinkEntries (v : LibraryVersion) : List String := v.link.map ("-l" ++ ·)

def sharedPathEntries (v : LibraryVersion) : List String :=
  v.libPaths.flatMap fun p => ["-L" ++ p, "-Wl,-rpath," ++ p]

def staticLinkEntries (v : LibraryVersion) : List String := v.staticLink.map ("-l" ++ ·)

def includeArgs : List String := (look catalogue includeEntries specs).args

def options : List String := (look catalogue LibraryVersion.options specs).args

def sharedLinkArgs : List String := (look catalogue sharedLinkEntries specs).args

def sharedPathArgs : List String := (look catalogue sharedPathEntries specs).args

def staticLinkArgs : List String := (look catalogue staticLinkEntries specs).args

/-- The warnings of a look, whatever it is for. -/
def warnings : List Event := (look catalogue (fun _ => []) specs).events

end SpirvToolchain.Libraries
