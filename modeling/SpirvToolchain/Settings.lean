import SpirvToolchain.CommandError
import SpirvToolchain.Config.Load
import SpirvToolchain.Files.Tree

/-! Where the configuration is found, and reading it. -/
namespace SpirvToolchain

/-- What the environment says of the user's directories. -/
structure Environment where
  home : Option String := none
  xdgConfigHome : Option String := none
  deriving DecidableEq, Repr

namespace Environment

/-- The user's directory for configuration; one that the environment names must be absolute. -/
def configDir? (e : Environment) : Option String :=
  (e.xdgConfigHome.filter fun dir => Path.isAbsolute dir.toList)
    <|> (e.home.filter (· ≠ "")).map fun home => Path.join home ".config"

end Environment

/-- A configuration and the file it came from, if it is not the built-in one. -/
structure Settings where
  config : ToolchainConfig := {}
  source : Option String := none
  deriving DecidableEq

namespace Settings

def localName : String := "spvc.toml"

/-- The file inside the user's directory for configuration. -/
def userFile (configDir : String) : String :=
  Path.join (Path.join configDir "spvc") "config.toml"

/-- The file that holds the user's own configuration. -/
def defaultPath? (e : Environment) : Option String := e.configDir?.map userFile

/-- What is said of a text that is no configuration. -/
def rejected : String := "TOML parse error"

def unreadable (path reason : String) : CommandError :=
  .config (Failure.config path reason).message

variable (t : Tree) (base : Place)

/-- The configuration in one file. -/
def ofFile (path : String) : Except CommandError Settings :=
  match t.readText base path with
  | .error e => .error (unreadable path e.message)
  | .ok text =>
    match ToolchainConfig.ofToml? text with
    | some config => .ok ⟨config, some path⟩
    | none => .error (unreadable path rejected)

/-- Where to look, in order: beside the work, then among the user's own configuration. -/
def candidates (dir : String) (configDir : Option String) : List String :=
  Path.join dir localName :: (configDir.map userFile).toList

/-- The first candidate that is a file, or the built-in configuration if none is. -/
def discover (dir : String) (configDir : Option String) : Except CommandError Settings :=
  match (candidates dir configDir).find? (t.isFile base) with
  | some path => ofFile t base path
  | none => .ok {}

/-- The file asked for, or else the one discovered from the directory of work. -/
def load (path : Option String) (configDir : Option String) : Except CommandError Settings :=
  match path with
  | some path => ofFile t base path
  | none => discover t base "." configDir

end Settings

end SpirvToolchain
