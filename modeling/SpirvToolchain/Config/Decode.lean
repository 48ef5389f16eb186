import SpirvToolchain.Config
import SpirvToolchain.Json.Decode
import SpirvToolchain.Request

/-! Configurations and request parts as JSON values, written in full and read with defaults. -/
namespace SpirvToolchain

open Json (Dialect Fields)

namespace PipelineKind

def toJson (k : PipelineKind) : Json := .str k.name

/-- The name of a pipeline, alone or as the one key of an object with nothing below it. -/
def decode (d : Dialect) : Json → Option PipelineKind
  | .text (some "spirv") => some .spirv
  | .object [(some "spirv", v)] => if d.isUnit v then some .spirv else none
  | _ => none

end PipelineKind

namespace CompilerConfig

def toJson (c : CompilerConfig) : Json :=
  .record [("exe", .str c.exe), ("options", .strs c.options),
    ("supports_opt_output", .bool c.supportsOptOutput), ("opt_arg", .str c.optArg),
    ("translator", .str c.translator), ("disassembler", .str c.disassembler)]

def fieldNames : List String :=
  ["exe", "options", "supports_opt_output", "opt_arg", "translator", "disassembler"]

def ofFields (fs : Fields) : Option CompilerConfig := do
  let base : CompilerConfig := {}
  return { exe := ← fs.get "exe" Json.text? base.exe
           options := ← fs.get "options" (Json.list? Json.text?) base.options
           supportsOptOutput := ← fs.get "supports_opt_output" Json.bool? base.supportsOptOutput
           optArg := ← fs.get "opt_arg" Json.text? base.optArg
           translator := ← fs.get "translator" Json.text? base.translator
           disassembler := ← fs.get "disassembler" Json.text? base.disassembler }

def decode (d : Dialect) (j : Json) : Option CompilerConfig :=
  (Json.fields? d fieldNames j).bind ofFields

end CompilerConfig

namespace ExecConfig

def toJson (c : ExecConfig) : Json :=
  .record [("timeout_ms", .nat c.timeoutMs.toNat), ("max_output", .nat c.maxOutput.toNat)]

def fieldNames : List String := ["timeout_ms", "max_output"]

def ofFields (fs : Fields) : Option ExecConfig := do
  let base : ExecConfig := {}
  return { timeoutMs := ← fs.get "timeout_ms" Json.word64? base.timeoutMs
           maxOutput := ← fs.get "max_output" Json.word64? base.maxOutput }

def decode (d : Dialect) (j : Json) : Option ExecConfig :=
  (Json.fields? d fieldNames j).bind ofFields

end ExecConfig

namespace UserOptionsConfig

def toJson (c : UserOptionsConfig) : Json :=
  .record [("forbidden", .strs c.forbidden), ("forbidden_with_value", .strs c.forbiddenWithValue)]

def fieldNames : List String := ["forbidden", "forbidden_with_value"]

def ofFields (fs : Fields) : Option UserOptionsConfig := do
  let base : UserOptionsConfig := {}
  return { forbidden := ← fs.get "forbidden" (Json.list? Json.text?) base.forbidden
           forbiddenWithValue :=
             ← fs.get "forbidden_with_value" (Json.list? Json.text?) base.forbiddenWithValue }

def decode (d : Dialect) (j : Json) : Option UserOptionsConfig :=
  (Json.fields? d fieldNames j).bind ofFields

end UserOptionsConfig

namespace LibraryVersion

def toJson (v : LibraryVersion) : Json :=
  .record [("include_paths", .strs v.includePaths), ("options", .strs v.options),
    ("lib_paths", .strs v.libPaths), ("link", .strs v.link), ("static_link", .strs v.staticLink)]

def fieldNames : List String := ["include_paths", "options", "lib_paths", "link", "static_link"]

def ofFields (fs : Fields) : Option LibraryVersion := do
  return { includePaths := ← fs.get "include_paths" (Json.list? Json.text?) []
           options := ← fs.get "options" (Json.list? Json.text?) []
           libPaths := ← fs.get "lib_paths" (Json.list? Json.text?) []
           link := ← fs.get "link" (Json.list? Json.text?) []
           staticLink := ← fs.get "static_link" (Json.list? Json.text?) [] }

def decode (d : Dialect) (j : Json) : Option LibraryVersion :=
  (Json.fields? d fieldNames j).bind ofFields

end LibraryVersion

def Dict.toJson {α : Type} (value : α → Json) (d : Dict α) : Json :=
  .record (d.entries.map fun e => (e.1, value e.2))

namespace Catalogue

def toJson (c : Catalogue) : Json := Dict.toJson (Dict.toJson LibraryVersion.toJson) c

def decode (d : Dialect) (j : Json) : Option Catalogue :=
  Json.dict? (Json.dict? (LibraryVersion.decode d)) j

end Catalogue

namespace ToolchainConfig

def toJson (c : ToolchainConfig) : Json :=
  .record [("pipeline", c.pipeline.toJson), ("compiler", c.compiler.toJson),
    ("exec", c.exec.toJson), ("user_options", c.userOptions.toJson),
    ("libraries", Catalogue.toJson c.libraries)]

def fieldNames : List String := ["pipeline", "compiler", "exec", "user_options", "libraries"]

def ofFields (d : Dialect) (fs : Fields) : Option ToolchainConfig := do
  let base : ToolchainConfig := {}
  return { pipeline := ← fs.get "pipeline" (PipelineKind.decode d) base.pipeline
           compiler := ← fs.get "compiler" (CompilerConfig.decode d) base.compiler
           exec := ← fs.get "exec" (ExecConfig.decode d) base.exec
           userOptions := ← fs.get "user_options" (UserOptionsConfig.decode d) base.userOptions
           libraries := ← fs.get "libraries" (Catalogue.decode d) base.libraries }

def decode (d : Dialect) (j : Json) : Option ToolchainConfig :=
  (Json.fields? d fieldNames j).bind (ofFields d)

end ToolchainConfig

namespace Filters

def toJson (f : Filters) : Json :=
  .record [("binary", .bool f.binary), ("binary_object", .bool f.binaryObject),
    ("execute", .bool f.execute), ("directives", .bool f.directives),
    ("comment_only", .bool f.commentOnly), ("labels", .bool f.labels),
    ("library_code", .bool f.libraryCode), ("trim", .bool f.trim),
    ("debug_calls", .bool f.debugCalls), ("demangle", .bool f.demangle), ("intel", .bool f.intel)]

def fieldNames : List String :=
  ["binary", "binary_object", "execute", "directives", "comment_only", "labels", "library_code",
    "trim", "debug_calls", "demangle", "intel"]

def ofFields (fs : Fields) : Option Filters := do
  let flag name := fs.get name Json.bool? false
  return { binary := ← flag "binary"
           binaryObject := ← flag "binary_object"
           execute := ← flag "execute"
           directives := ← flag "directives"
           commentOnly := ← flag "comment_only"
           labels := ← flag "labels"
           libraryCode := ← flag "library_code"
           trim := ← flag "trim"
           debugCalls := ← flag "debug_calls"
           demangle := ← flag "demangle"
           intel := ← flag "intel" }

def decode (d : Dialect) (j : Json) : Option Filters :=
  (Json.fields? d fieldNames j).bind ofFields

end Filters

namespace BackendOptions

def toJson (b : BackendOptions) : Json :=
  .record [("produce_opt_info", .bool b.produceOptInfo), ("extra", Dict.toJson Json.str b.extra)]

def fieldNames : List String := ["produce_opt_info", "extra"]

def ofFields (fs : Fields) : Option BackendOptions := do
  return { produceOptInfo := ← fs.get "produce_opt_info" Json.bool? false
           extra := ← fs.get "extra" (Json.dict? Json.text?) Dict.empty }

def decode (d : Dialect) (j : Json) : Option BackendOptions :=
  (Json.fields? d fieldNames j).bind ofFields

end BackendOptions

namespace LibrarySpec

def toJson (s : LibrarySpec) : Json := .record [("id", .str s.id), ("version", .str s.version)]

def fieldNames : List String := ["id", "version"]

/-- Neither half of a library's name may be left out. -/
def ofFields (fs : Fields) : Option LibrarySpec := do
  return { id := ← fs.need "id" Json.text?, version := ← fs.need "version" Json.text? }

def decode (d : Dialect) (j : Json) : Option LibrarySpec :=
  (Json.fields? d fieldNames j).bind ofFields

end LibrarySpec

/-- A JSON document holds no item without a field, and `null` below a choice. -/
def Json.Dialect.json : Dialect where
  surplusItems := false
  isUnit
    | .null => true
    | _ => false

end SpirvToolchain
