import SpirvToolchain.Path

/-! Names of the files the tools hand on: one directory, one base name, an extension each. -/
namespace SpirvToolchain

/-- The extension is added to the base name, whose own dots stay. -/
def artifactPath (dir filebase extension : String) : String :=
  Path.join dir (filebase ++ "." ++ extension)

structure Artifacts where
  bitcode : String
  binary : String
  text : String
  irText : String
  deriving DecidableEq, Repr

def Artifacts.of (dir filebase : String) : Artifacts where
  bitcode := artifactPath dir filebase "bc"
  binary := artifactPath dir filebase "spv"
  text := artifactPath dir filebase "spvasm"
  irText := artifactPath dir filebase "ll"

/-- The artifacts made from a source file lie in its directory. -/
def Artifacts.beside (inputFilename filebase : String) : Artifacts :=
  .of (Path.parent inputFilename) filebase

end SpirvToolchain
