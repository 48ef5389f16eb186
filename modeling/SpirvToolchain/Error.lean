/-! What can go wrong, as causes; each has one wording. -/
namespace SpirvToolchain

/-- A refusal of the operating system, or of the text it was asked for. -/
inductive IoError
  | notFound
  | permissionDenied
  | notADirectory
  | isADirectory
  | nameTooLong
  | nulInName
  | nulInArgument
  | invalidText
  | notAProgram
  | tooManyLevels
  | noSpace
  deriving DecidableEq, Repr

def IoError.message : IoError → String
  | .notFound => "No such file or directory (os error 2)"
  | .permissionDenied => "Permission denied (os error 13)"
  | .notADirectory => "Not a directory (os error 20)"
  | .isADirectory => "Is a directory (os error 21)"
  | .nameTooLong => "File name too long (os error 36)"
  | .nulInName => "file name contained an unexpected NUL byte"
  | .nulInArgument => "nul byte found in provided data"
  | .invalidText => "stream did not contain valid UTF-8"
  | .notAProgram => "Exec format error (os error 8)"
  | .tooManyLevels => "Too many levels of symbolic links (os error 40)"
  | .noSpace => "No space left on device (os error 28)"

/-- Why a request to the toolchain failed. -/
inductive Failure
  | spawn (exe reason : String)
  | io (reason : String)
  | config (path reason : String)
  | postProcessing (reason : String)
  | invalidRequest (reason : String)
  | other (message : String)
  deriving DecidableEq, Repr

def Failure.message : Failure → String
  | .spawn exe reason => "Failed to spawn " ++ exe ++ ": " ++ reason
  | .io reason => "IO error: " ++ reason
  | .config path reason => "Failed to read config file " ++ path ++ ": " ++ reason
  | .postProcessing reason => "Post-processing failed: " ++ reason
  | .invalidRequest reason => "Invalid request: " ++ reason
  | .other message => message

end SpirvToolchain
