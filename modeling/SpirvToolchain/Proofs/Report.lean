import SpirvToolchain.Proofs.Json.Decode
import SpirvToolchain.Proofs.Json.RoundTrip
import SpirvToolchain.Report

/-! Reports hold all of a result: it is read back from the document that was printed for it. -/
namespace SpirvToolchain

open Json (Fields)

namespace Json

/-- The members of an object that has each needed name once, and no others but optional ones. -/
def exactly? (needed optional : List String) (j : Json) : Option Fields := do
  let ms ← members? j
  let names := ms.map (·.1)
  if names.Nodup ∧ needed ⊆ names ∧ names ⊆ needed ++ optional then some ms else none

/-- The names of the members of an object. -/
def keys (j : Json) : List String := ((members? j).getD []).map (·.1)

def valueOf? (j : Json) (name : String) : Option Json := ((members? j).getD []).lookup name

def whole? : Json → Option Int
  | .int i => some i
  | _ => none

def natural? : Json → Option Nat
  | .int (.ofNat n) => some n
  | _ => none

/-- A value, or `null` in its place. -/
def orNull? {α : Type} (value? : Json → Option α) : Json → Option (Option α)
  | .null => some none
  | j => (value? j).map some

/-- A member that may be left out, but is no `null`. -/
def Fields.given? {α : Type} (fs : Fields) (name : String) (value? : Json → Option α) :
    Option (Option α) :=
  fs.get name (fun j => (value? j).map some) none

end Json

/-- Reads a tag; its column is there even if it is `null`. -/
def Tag.ofJson? (j : Json) : Option Tag := do
  let fs ← j.exactly? ["line", "column", "text"] []
  return { line := ← fs.need "line" Json.natural?
           column := ← fs.need "column" (Json.orNull? Json.natural?)
           text := ← fs.need "text" Json.text? }

def Line.ofJson? (j : Json) : Option Line := do
  let fs ← j.exactly? ["text"] ["tag"]
  return { text := ← fs.need "text" Json.text?, tag := ← fs.given? "tag" Tag.ofJson? }

/-- The names of the members that every report has. -/
def Compilation.memberNames : List String :=
  ["code", "stdout", "stderr", "input_filename", "timed_out", "truncated"]

def Compilation.ofReport? (j : Json) : Option (Compilation × Option String) := do
  let fs ← j.exactly? memberNames ["spirv"]
  let c : Compilation :=
    { code := ← fs.need "code" Json.whole?
      stdout := ← fs.need "stdout" (Json.list? Line.ofJson?)
      stderr := ← fs.need "stderr" (Json.list? Line.ofJson?)
      inputFilename := ← fs.need "input_filename" (Json.orNull? Json.text?)
      timedOut := ← fs.need "timed_out" Json.bool?
      truncated := ← fs.need "truncated" Json.bool? }
  return (c, ← fs.given? "spirv" Json.text?)

def Dump.ofJson? (j : Json) : Option Dump := do
  let fs ← j.exactly? ["code", "lines"] []
  return { code := ← fs.need "code" Json.whole?
           lines := ← fs.need "lines" (Json.list? Line.ofJson?) }

namespace Tag

theorem ofJson?_toJson (t : Tag) : ofJson? t.toJson = some t := by
  obtain ⟨line, column, text⟩ := t
  cases column <;> rfl

theorem plain_toJson (t : Tag) : t.toJson.Plain := by
  have hcolumn : (t.column.elim .null Json.nat).Plain := Json.plain_elim Json.plain_nat t.column
  refine Json.plain_record ?_
  simpa using ⟨.int t.line, hcolumn, Json.plain_str t.text⟩

/-- The column is a `null` only where there is none. -/
theorem column_toJson_eq_null_iff (t : Tag) :
    t.toJson.valueOf? "column" = some .null ↔ t.column = none := by
  have hcolumn : t.toJson.valueOf? "column" = some (t.column.elim .null Json.nat) := rfl
  rw [hcolumn]
  cases t.column with
  | none => simp
  | some n => simp [Json.nat]

end Tag

namespace Line

theorem ofJson?_toJson (l : Line) : ofJson? l.toJson = some l := by
  obtain ⟨text, tag⟩ := l
  cases tag with
  | none => rfl
  | some t =>
    have hmembers : Json.exactly? ["text"] ["tag"] (toJson ⟨text, some t⟩) =
        some [("text", .str text), ("tag", t.toJson)] := rfl
    have htag : Fields.given? [("text", .str text), ("tag", t.toJson)] "tag" Tag.ofJson? =
        some (some t) := by
      change (Tag.ofJson? t.toJson).map some = _
      rw [t.ofJson?_toJson]
      rfl
    rw [ofJson?, hmembers, Option.bind_eq_bind, Option.bind_some, htag]
    rfl

theorem plain_toJson (l : Line) : l.toJson.Plain := by
  refine Json.plain_record (List.forall_mem_cons.2 ⟨Json.plain_str l.text, fun m hm => ?_⟩)
  obtain ⟨t, -, rfl⟩ := Option.map_eq_some_iff.1 (Option.mem_toList.1 hm)
  exact t.plain_toJson

/-- A line has a member for its tag only where it has one. -/
theorem keys_toJson (l : Line) :
    l.toJson.keys = "text" :: if l.tag.isSome then ["tag"] else [] := by
  obtain ⟨text, tag⟩ := l
  cases tag <;> rfl

end Line

namespace Compilation

/-- The members of a report, by name. -/
theorem exactly?_report (c : Compilation) (spirv : Option String) :
    (c.report spirv).exactly? memberNames ["spirv"] =
      some (c.members ++ (spirv.map fun s => ("spirv", Json.str s)).toList) := by
  cases spirv <;> rfl

theorem ofReport?_report (c : Compilation) (spirv : Option String) :
    ofReport? (c.report spirv) = some (c, spirv) := by
  rw [ofReport?, exactly?_report, Option.bind_eq_bind, Option.bind_some]
  set fs : Fields := c.members ++ (spirv.map fun s => ("spirv", Json.str s)).toList with hfs
  have hcode : fs.need "code" Json.whole? = some c.code := rfl
  have hstdout : fs.need "stdout" (Json.list? Line.ofJson?) = some c.stdout :=
    Json.list?_array_map Line.ofJson?_toJson c.stdout
  have hstderr : fs.need "stderr" (Json.list? Line.ofJson?) = some c.stderr :=
    Json.list?_array_map Line.ofJson?_toJson c.stderr
  have hinput : fs.need "input_filename" (Json.orNull? Json.text?) = some c.inputFilename := by
    change Json.orNull? Json.text? (c.inputFilename.elim .null Json.str) = _
    cases c.inputFilename <;> rfl
  have htimedOut : fs.need "timed_out" Json.bool? = some c.timedOut := rfl
  have htruncated : fs.need "truncated" Json.bool? = some c.truncated := rfl
  have hspirv : fs.given? "spirv" Json.text? = some spirv := by
    rw [hfs]
    cases spirv <;> rfl
  rw [hcode, hstdout, hstderr, hinput, htimedOut, htruncated, hspirv]
  rfl

theorem plain_report (c : Compilation) (spirv : Option String) : (c.report spirv).Plain := by
  have hinput : (c.inputFilename.elim .null Json.str).Plain :=
    Json.plain_elim Json.plain_str c.inputFilename
  have hmembers : ∀ m ∈ c.members, m.2.Plain := by
    simpa [members] using
      ⟨.int c.code, Json.plain_array_map Line.plain_toJson c.stdout,
        Json.plain_array_map Line.plain_toJson c.stderr, hinput, .bool c.timedOut,
        .bool c.truncated⟩
  refine Json.plain_record (List.forall_mem_append.2 ⟨hmembers, fun m hm => ?_⟩)
  obtain ⟨s, -, rfl⟩ := Option.map_eq_some_iff.1 (Option.mem_toList.1 hm)
  exact Json.plain_str s

end Compilation

namespace Dump

theorem ofJson?_toJson (d : Dump) : ofJson? d.toJson = some d := by
  have hmembers : d.toJson.exactly? ["code", "lines"] [] =
      some [("code", .int d.code), ("lines", .array (d.lines.map Line.toJson))] := rfl
  have hlines : Fields.need [("code", .int d.code), ("lines", .array (d.lines.map Line.toJson))]
      "lines" (Json.list? Line.ofJson?) = some d.lines :=
    Json.list?_array_map Line.ofJson?_toJson d.lines
  rw [ofJson?, hmembers, Option.bind_eq_bind, Option.bind_some, hlines]
  rfl

theorem plain_toJson (d : Dump) : d.toJson.Plain := by
  refine Json.plain_record ?_
  simpa using ⟨.int d.code, Json.plain_array_map Line.plain_toJson d.lines⟩

end Dump

/-- What is printed is one document, with a line end after it. -/
theorem parse?_printJson {j : Json} (hj : j.Plain) : Json.parse? (printJson j).stdout = some j := by
  have hread := Json.parse?_pretty ['\n'] hj (by simp [Json.Ended]) rfl
  rw [← hread]
  refine congrArg Json.parse? (String.toList_injective ?_)
  simp [printJson, Printout.onStdout, Json.print]

/--
A printed report is one document that has the fields of the result and nothing else, and so has
a printed dump: none is printed for two results.
-/
theorem printed_report_read_back (c : Compilation) (spirv : Option String) (d : Dump) :
    (Json.parse? (printJson (c.report spirv)).stdout = some (c.report spirv) ∧
      Compilation.ofReport? (c.report spirv) = some (c, spirv) ∧
      (c.report spirv).keys =
        ["code", "stdout", "stderr", "input_filename", "timed_out", "truncated"] ++
          if spirv.isSome then ["spirv"] else []) ∧
    (Json.parse? (printJson d.toJson).stdout = some d.toJson ∧ Dump.ofJson? d.toJson = some d ∧
      d.toJson.keys = ["code", "lines"]) ∧
    (∀ l : Line, l.toJson.keys = "text" :: if l.tag.isSome then ["tag"] else []) ∧
    (∀ t : Tag, t.toJson.valueOf? "column" = some .null ↔ t.column = none) ∧
    (∀ c' spirv', printJson (c.report spirv) = printJson (c'.report spirv') ↔
      c = c' ∧ spirv = spirv') ∧
    ∀ d', printJson d.toJson = printJson d'.toJson ↔ d = d' := by
  have hreport (c : Compilation) (spirv : Option String) :
      Json.parse? (printJson (c.report spirv)).stdout = some (c.report spirv) :=
    parse?_printJson (c.plain_report spirv)
  have hdump (d : Dump) : Json.parse? (printJson d.toJson).stdout = some d.toJson :=
    parse?_printJson d.plain_toJson
  refine ⟨⟨hreport c spirv, c.ofReport?_report spirv, ?_⟩, ⟨hdump d, d.ofJson?_toJson, rfl⟩,
    Line.keys_toJson, Tag.column_toJson_eq_null_iff, fun c' spirv' => ⟨fun h => ?_, ?_⟩,
    fun d' => ⟨fun h => ?_, congrArg fun d : Dump => printJson d.toJson⟩⟩
  · cases spirv <;> rfl
  · have hparse : some (c.report spirv) = some (c'.report spirv') := by
      rw [← hreport c spirv, h, hreport]
    have hread := congrArg Compilation.ofReport? (Option.some.inj hparse)
    rw [Compilation.ofReport?_report, Compilation.ofReport?_report] at hread
    exact Prod.mk.inj (Option.some.inj hread)
  · rintro ⟨rfl, rfl⟩
    rfl
  · have hparse : some d.toJson = some d'.toJson := by
      rw [← hdump d, h, hdump]
    have hread := congrArg Dump.ofJson? (Option.some.inj hparse)
    rw [Dump.ofJson?_toJson, Dump.ofJson?_toJson] at hread
    exact Option.some.inj hread

end SpirvToolchain
