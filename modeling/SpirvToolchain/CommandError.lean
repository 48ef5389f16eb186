import SpirvToolchain.Error
import SpirvToolchain.Text.Quoted

/-! Why a command ended early, with the code and the hint that a report shows. -/
namespace SpirvToolchain

inductive CommandError
  | io (reason : String)
  | config (reason : String)
  | pipeline (failure : Failure)
  | invalidInput (reason : String)
  deriving DecidableEq, Repr

namespace CommandError

def message : CommandError → String
  | .io reason => "IO error: " ++ reason
  | .config reason => "Configuration error: " ++ reason
  | .pipeline failure => failure.message
  | .invalidInput reason => "Invalid input: " ++ reason

def code : CommandError → String
  | .io _ => "spvc::io"
  | .config _ => "spvc::config"
  | .pipeline _ => "spvc::pipeline"
  | .invalidInput _ => "spvc::invalid_input"

def help? : CommandError → Option String
  | .config _ => some "Check spvc.toml or the file passed with --config"
  | _ => none

def ofIo (e : IoError) : CommandError := .io e.message

def notAFile (path : String) : CommandError := .invalidInput ("Input path is not a file: " ++ path)

def noFileName (path : String) : CommandError :=
  .invalidInput ("Input path has no file name: " ++ path)

def badLibrary (spec : String) : CommandError :=
  .invalidInput ("Library must be id:version, got " ++ Text.quote spec)

end CommandError

end SpirvToolchain
