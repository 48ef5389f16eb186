import SpirvToolchain.Program

/-!
The program on a real system. This layer reads the files that a run may look at, and prints and
writes what comes of it. It starts no other program: to the run, none is installed.
-/
namespace SpirvToolchain

/-- The directory of the copies that the run makes for its tools; no tool of this layer sees it. -/
def stagePlace : Place := ["tmp", "spvc-stage"]

def noPrograms (base : Place) : Workshop :=
  .ofPrograms base [] fun _ => none

/-- Adds a file of the system, if there is one to read. -/
def loadFile (base : Place) (files : Tree) (path : String) : IO Tree := do
  try
    let content ← IO.FS.readBinFile path
    return files.plant (base.follow path) (.file content.toList false)
  catch _ => return files

/-- Writes a file as the run left it, if the run changed it. -/
def saveFile (base : Place) (before after : Tree) (path : String) : IO Unit := do
  let place := base.follow path
  if after.node? place ≠ before.node? place then
    if let some (.file octets _) := after.node? place then
      IO.FS.writeBinFile path (ByteArray.mk octets.toArray)

def logText (format : LogFormat) (e : Event) : String :=
  match format with
  | .pretty => e.pretty
  | .json => String.ofList (e.toJson.print.toList.filter (· ≠ '\n'))

def runProgramWith (env : Environment) (base : Place) (argv : List String) : IO UInt32 := do
  let launch := (Launch.ofArgs argv).toOption
  let paths := launch.elim [] (Program.lookups env)
  let before ← paths.foldlM (loadFile base) (Tree.empty.plant base .directory)
  let o := Program.run { workshop := noPrograms base, stage := stagePlace } env argv before
  IO.print o.printed.stdout
  for e in o.events do
    IO.eprintln (logText o.logFormat e)
  IO.eprint o.printed.stderr
  if let some problem := o.problem then
    IO.eprintln problem.message
  if let some path := launch.bind Program.target? then
    saveFile base before o.files path
  return o.status.toUInt32

end SpirvToolchain

open SpirvToolchain in
def main (argv : List String) : IO UInt32 := do
  let env : Environment := ⟨← IO.getEnv "HOME", ← IO.getEnv "XDG_CONFIG_HOME"⟩
  let base := Place.follow [] (← IO.currentDir).toString
  runProgramWith env base argv
