import SpirvToolchain.Log
import SpirvToolchain.Process
import SpirvToolchain.Text.Utf8

/-! What is kept of a program's streams, and how its end becomes an output. -/
namespace SpirvToolchain.Capture

open Text (Utf8.Octets)

/-- Octets kept of a stream so far, and whether some were left out. -/
structure Kept where
  octets : Utf8.Octets := []
  truncated : Bool := false
  deriving DecidableEq, Repr

/-- Takes one read, up to the room that is left. -/
def Kept.read (limit : Nat) (k : Kept) (chunk : Utf8.Octets) : Kept :=
  let room := limit - k.octets.length
  if chunk.length > room then ⟨k.octets ++ chunk.take room, true⟩
  else ⟨k.octets ++ chunk, k.truncated⟩

/-- The whole stream, read in the given chunks; it is drained even past the limit. -/
def readCapped (limit : Nat) (chunks : List Utf8.Octets) : Kept :=
  chunks.foldl (Kept.read limit) {}

def truncatedMarker : String := "[Truncated]"

/-- The text kept; one that was cut ends with a line that says so. -/
def Kept.decode (k : Kept) : String :=
  let text := Text.Utf8.decodeLossy k.octets
  if k.truncated then
    String.ofList (if text.getLast? = some '\n' then text else text ++ ['\n']) ++ truncatedMarker
  else String.ofList text

/-- How a program ends: by itself, by a signal, or not before its time is up. -/
inductive Ending
  | exited (code : Int)
  | signalled
  | overdue
  deriving DecidableEq, Repr

/-- A program that ran: the reads of its two streams, and its end. -/
structure Behaviour where
  stdout : List Utf8.Octets := []
  stderr : List Utf8.Octets := []
  ending : Ending := .exited 0
  deriving Repr

/--
A span of milliseconds in its largest fitting unit: seconds with the fraction's needed digits,
else milliseconds, and zero in nanoseconds.
-/
def spanText (ms : Nat) : String :=
  if ms = 0 then "0ns"
  else if ms < 1000 then toString ms ++ "ms"
  else
    let digits := [ms / 100 % 10, ms / 10 % 10, ms % 10]
    let needed := (digits.reverse.dropWhile (· = 0)).reverse
    toString (ms / 1000) ++ (if needed = [] then "" else "." ++ String.join (needed.map toString)) ++ "s"

/-- Whether a run is stopped: it is not over when its time is, or has no time at all. -/
def Behaviour.stopped (options : ExecOptions) (b : Behaviour) : Bool :=
  b.ending = .overdue || options.timeoutMs = 0

def Ending.code : Ending → Int
  | .exited code => code
  | _ => -1

/-- The output of a program; nothing that a stopped one printed is in it. -/
def Behaviour.output (options : ExecOptions) (b : Behaviour) : ExecOutput :=
  if b.stopped options then
    { code := -1, stderr := "Killed - processing time exceeded", timedOut := true }
  else
    let out := readCapped options.maxOutput b.stdout
    let err := readCapped options.maxOutput b.stderr
    { code := b.ending.code
      stdout := out.decode
      stderr := err.decode
      truncated := out.truncated || err.truncated }

/-- A run that had to be stopped is reported. -/
def reports (i : Invocation) (o : ExecOutput) : List Event :=
  if o.timedOut then
    [.warn (i.exe ++ " exceeded the " ++ spanText i.options.timeoutMs ++ " timeout, killing it")]
  else []

end SpirvToolchain.Capture
