import SpirvToolchain.Dict

/-! The configuration of a toolchain: its programs, limits, option rules and libraries. -/
namespace SpirvToolchain

/-- The chain of tools that handles a request. -/
inductive PipelineKind
  | spirv
  deriving DecidableEq, Repr

def PipelineKind.name : PipelineKind → String
  | .spirv => "spirv"

structure CompilerConfig where
  exe : String := "clang"
  /-- Options given to every run of the compiler. -/
  options : List String := []
  supportsOptOutput : Bool := false
  /-- The flag that asks for an optimization report. -/
  optArg : String := "-fsave-optimization-record"
  translator : String := "llvm-spirv"
  disassembler : String := "spirv-dis"
  deriving DecidableEq, Repr

structure ExecConfig where
  timeoutMs : UInt64 := 10000
  maxOutput : UInt64 := 1048576
  deriving DecidableEq, Repr

structure UserOptionsConfig where
  /-- Options that are dropped; one that ends in `=` stands for all that start with it. -/
  forbidden : List String := ["-fplugin=", "-fpass-plugin=", "-load"]
  /-- Options that are dropped together with the token after them. -/
  forbiddenWithValue : List String := ["-o", "-Xclang"]
  deriving DecidableEq, Repr

structure LibraryVersion where
  includePaths : List String := []
  options : List String := []
  libPaths : List String := []
  link : List String := []
  staticLink : List String := []
  deriving DecidableEq, Repr

/-- Library versions by id, then by version. -/
abbrev Catalogue := Dict (Dict LibraryVersion)

structure ToolchainConfig where
  pipeline : PipelineKind := .spirv
  compiler : CompilerConfig := {}
  exec : ExecConfig := {}
  userOptions : UserOptionsConfig := {}
  libraries : Catalogue := Dict.empty
  deriving DecidableEq

def Catalogue.find? (c : Catalogue) (id version : String) : Option LibraryVersion :=
  (Dict.get? c id).bind fun versions => versions.get? version

end SpirvToolchain
