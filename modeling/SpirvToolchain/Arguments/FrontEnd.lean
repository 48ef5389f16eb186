import SpirvToolchain.Arguments
import SpirvToolchain.Arguments.Libraries
import SpirvToolchain.Arguments.UserOptions
import SpirvToolchain.Artifact

/-! The command line of the front-end compiler: nine groups in one fixed order. -/
namespace SpirvToolchain.FrontEnd

/-- Puts the compiler into its own mode, with debug information for the debugger. -/
def baseFlags : List String :=
  ["-cc1", "-debug-info-kind=limited", "-dwarf-version=5", "-debugger-tuning=gdb"]

/-- An option that the base flags rule out. -/
def incompatibleOption : String := "-fno-crash-diagnostics"

/-- What a command line is made from, besides the request. -/
structure Setup where
  compiler : CompilerConfig
  catalogue : Catalogue
  userOptions : UserOptionsConfig
  filebase : String

/-- The arguments of one request, group by group. -/
structure Groups where
  base : List String
  compiler : List String
  report : List String
  includes : List String
  libraryOptions : List String
  sharedLinks : List String
  userOptions : List String
  input : List String
  staticLinks : List String
  deriving DecidableEq, Repr

def Groups.all (g : Groups) : List (List String) :=
  [g.base, g.compiler, g.report, g.includes, g.libraryOptions, g.sharedLinks, g.userOptions,
    g.input, g.staticLinks]

def Groups.toArgs (g : Groups) : List String := g.all.flatten

variable (s : Setup)

/-- The bitcode goes beside `outputFilename`. -/
def baseOptions (outputFilename : String) : List String :=
  baseFlags ++ ["-o", artifactPath (Path.parent outputFilename) s.filebase "bc"]

def groups (r : Request) (outputFilename : String) : Groups where
  base := baseOptions s outputFilename
  compiler := Arguments.without s.compiler.options incompatibleOption
  report :=
    if s.compiler.supportsOptOutput && r.backendOptions.produceOptInfo then [s.compiler.optArg]
    else []
  includes := Libraries.includeArgs s.catalogue r.libraries
  libraryOptions := Libraries.options s.catalogue r.libraries
  sharedLinks :=
    if r.filters.binary then
      Libraries.sharedLinkArgs s.catalogue r.libraries
        ++ Libraries.sharedPathArgs s.catalogue r.libraries
    else []
  userOptions := UserOptions.filter s.userOptions r.userOptions
  input := [r.inputFilename]
  staticLinks :=
    if r.filters.binary then Libraries.staticLinkArgs s.catalogue r.libraries else []

def arguments (r : Request) (outputFilename : String) : List String :=
  (groups s r outputFilename).toArgs

/-- What each look at the catalogue is for: two groups always, three more to link. -/
def looks (r : Request) : List (LibraryVersion → List String) :=
  [Libraries.includeEntries, LibraryVersion.options] ++
    if r.filters.binary then
      [Libraries.sharedLinkEntries, Libraries.sharedPathEntries, Libraries.staticLinkEntries]
    else []

/-- The warnings of one command line, those about libraries before those about user options. -/
def warnings (r : Request) : List Event :=
  (looks r).flatMap (fun entries => (Libraries.look s.catalogue entries r.libraries).events)
    ++ UserOptions.warnings s.userOptions r.userOptions

end SpirvToolchain.FrontEnd
