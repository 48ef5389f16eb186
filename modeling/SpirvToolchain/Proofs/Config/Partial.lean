import SpirvToolchain.Proofs.Json.Edit

/-! Configurations of which some fields are left out have the defaults of those fields. -/
namespace SpirvToolchain

open Json (Change Dialect Reads)
open Json.Change (flat leaf)

variable (d : Dialect)

theorem reads_text : Reads leaf Json.str Json.text? fun _ s => s := Json.reads_leaf Json.text?_str

theorem reads_bool : Reads leaf Json.bool Json.bool? fun _ b => b := Json.reads_leaf fun _ => rfl

theorem reads_texts : Reads leaf Json.strs (Json.list? Json.text?) fun _ ss => ss :=
  Json.reads_leaf Json.list?_strs

theorem reads_word64 : Reads leaf (fun w : UInt64 => Json.nat w.toNat) Json.word64? fun _ w => w :=
  Json.reads_leaf Json.word64?_nat

theorem reads_pipelineKind : Reads leaf PipelineKind.toJson (PipelineKind.decode d) fun _ k => k :=
  Json.reads_leaf fun k => by cases k; rfl

namespace CompilerConfig

/-- The fields that are left out have the values of the default compiler. -/
def reset (x : Deletion) (c : CompilerConfig) : CompilerConfig :=
  let base : CompilerConfig := {}
  { exe := x.leave "exe" base.exe c.exe
    options := x.leave "options" base.options c.options
    supportsOptOutput := x.leave "supports_opt_output" base.supportsOptOutput c.supportsOptOutput
    optArg := x.leave "opt_arg" base.optArg c.optArg
    translator := x.leave "translator" base.translator c.translator
    disassembler := x.leave "disassembler" base.disassembler c.disassembler }

theorem reads : Reads (flat fieldNames) toJson (decode d) reset := by
  intro x c j h
  obtain ⟨fs, hfs, hkept⟩ := Json.exists_fields?_flat d h rfl (by decide)
  rw [decode, hfs, Option.bind_some, ofFields]
  rw [hkept.get_eq reads_text rfl rfl, hkept.get_eq reads_texts rfl rfl,
    hkept.get_eq reads_bool rfl rfl, hkept.get_eq reads_text rfl rfl,
    hkept.get_eq reads_text rfl rfl, hkept.get_eq reads_text rfl rfl]
  rfl

end CompilerConfig

namespace ExecConfig

def reset (x : Deletion) (c : ExecConfig) : ExecConfig :=
  let base : ExecConfig := {}
  { timeoutMs := x.leave "timeout_ms" base.timeoutMs c.timeoutMs
    maxOutput := x.leave "max_output" base.maxOutput c.maxOutput }

theorem reads : Reads (flat fieldNames) toJson (decode d) reset := by
  intro x c j h
  obtain ⟨fs, hfs, hkept⟩ := Json.exists_fields?_flat d h rfl (by decide)
  rw [decode, hfs, Option.bind_some, ofFields]
  rw [hkept.get_eq reads_word64 rfl rfl, hkept.get_eq reads_word64 rfl rfl]
  rfl

end ExecConfig

namespace UserOptionsConfig

def reset (x : Deletion) (c : UserOptionsConfig) : UserOptionsConfig :=
  let base : UserOptionsConfig := {}
  { forbidden := x.leave "forbidden" base.forbidden c.forbidden
    forbiddenWithValue :=
      x.leave "forbidden_with_value" base.forbiddenWithValue c.forbiddenWithValue }

theorem reads : Reads (flat fieldNames) toJson (decode d) reset := by
  intro x c j h
  obtain ⟨fs, hfs, hkept⟩ := Json.exists_fields?_flat d h rfl (by decide)
  rw [decode, hfs, Option.bind_some, ofFields]
  rw [hkept.get_eq reads_texts rfl rfl, hkept.get_eq reads_texts rfl rfl]
  rfl

end UserOptionsConfig

namespace LibraryVersion

def reset (x : Deletion) (v : LibraryVersion) : LibraryVersion :=
  let base : LibraryVersion := {}
  { includePaths := x.leave "include_paths" base.includePaths v.includePaths
    options := x.leave "options" base.options v.options
    libPaths := x.leave "lib_paths" base.libPaths v.libPaths
    link := x.leave "link" base.link v.link
    staticLink := x.leave "static_link" base.staticLink v.staticLink }

theorem reads : Reads (flat fieldNames) toJson (decode d) reset := by
  intro x v j h
  obtain ⟨fs, hfs, hkept⟩ := Json.exists_fields?_flat d h rfl (by decide)
  rw [decode, hfs, Option.bind_some, ofFields]
  rw [hkept.get_eq reads_texts rfl rfl, hkept.get_eq reads_texts rfl rfl,
    hkept.get_eq reads_texts rfl rfl, hkept.get_eq reads_texts rfl rfl,
    hkept.get_eq reads_texts rfl rfl]
  rfl

end LibraryVersion

namespace Catalogue

def reset (x : Deletion) (c : Catalogue) : Catalogue :=
  Dict.mapKeyed (fun id versions =>
    Dict.mapKeyed (fun version v => LibraryVersion.reset ((x.below id).below version) v) versions) c

/-- What may be left out of the libraries: fields of a version, but no library and no version. -/
def change : Change := .map (.map (flat LibraryVersion.fieldNames))

theorem reads : Reads change toJson (decode d) reset := (LibraryVersion.reads d).map.map

theorem reset_nothing (c : Catalogue) : reset .nothing c = c := by
  have hversions (versions : Dict LibraryVersion) :
      versions.mapKeyed (fun _ v => v.reset .nothing) = versions := versions.mapKeyed_id
  change Dict.mapKeyed (fun _ versions => Dict.mapKeyed (fun _ v => v.reset .nothing) versions) c = c
  simp only [hversions]
  exact Dict.mapKeyed_id c

theorem change_nothing (c : Catalogue) : change .nothing (toJson c) (toJson c) := by
  have hversion (v : LibraryVersion) :
      flat LibraryVersion.fieldNames .nothing v.toJson v.toJson :=
    Json.flat_nothing _ _
  exact Json.map_nothing (Json.map_nothing hversion) c

end Catalogue

namespace ToolchainConfig

def reset (x : Deletion) (c : ToolchainConfig) : ToolchainConfig :=
  let base : ToolchainConfig := {}
  { pipeline := x.leave "pipeline" base.pipeline c.pipeline
    compiler := x.leave "compiler" base.compiler (c.compiler.reset (x.below "compiler"))
    exec := x.leave "exec" base.exec (c.exec.reset (x.below "exec"))
    userOptions :=
      x.leave "user_options" base.userOptions (c.userOptions.reset (x.below "user_options"))
    libraries :=
      x.leave "libraries" base.libraries (Catalogue.reset (x.below "libraries") c.libraries) }

/-- What may be left out: whole sections, and fields of each. -/
def change : Change :=
  .record [("pipeline", leaf), ("compiler", flat CompilerConfig.fieldNames),
    ("exec", flat ExecConfig.fieldNames), ("user_options", flat UserOptionsConfig.fieldNames),
    ("libraries", Catalogue.change)]

theorem reads : Reads change toJson (decode d) reset := by
  intro x c j h
  obtain ⟨fs, hfs, hkept⟩ := Json.exists_fields? d h rfl (by decide)
  have hfs : Json.fields? d fieldNames j = some fs := hfs
  rw [decode, hfs, Option.bind_some, ofFields]
  rw [hkept.get_eq (reads_pipelineKind d) rfl rfl, hkept.get_eq (CompilerConfig.reads d) rfl rfl,
    hkept.get_eq (ExecConfig.reads d) rfl rfl, hkept.get_eq (UserOptionsConfig.reads d) rfl rfl,
    hkept.get_eq (Catalogue.reads d) rfl rfl]
  rfl

theorem reset_nothing (c : ToolchainConfig) : c.reset .nothing = c :=
  congrArg (fun libraries => { c with libraries }) (Catalogue.reset_nothing c.libraries)

theorem decode_toJson (c : ToolchainConfig) : decode d c.toJson = some c := by
  have hchange : change .nothing c.toJson c.toJson := by
    refine Json.record_nothing ?_
    simp only [List.forall_mem_cons]
    exact ⟨rfl, Json.flat_nothing _ _, Json.flat_nothing _ _, Json.flat_nothing _ _,
      Catalogue.change_nothing c.libraries, List.forall_mem_nil _⟩
  rw [reads d .nothing c _ hchange, reset_nothing]

end ToolchainConfig

namespace Filters

def reset (x : Deletion) (f : Filters) : Filters :=
  let base : Filters := {}
  { binary := x.leave "binary" base.binary f.binary
    binaryObject := x.leave "binary_object" base.binaryObject f.binaryObject
    execute := x.leave "execute" base.execute f.execute
    directives := x.leave "directives" base.directives f.directives
    commentOnly := x.leave "comment_only" base.commentOnly f.commentOnly
    labels := x.leave "labels" base.labels f.labels
    libraryCode := x.leave "library_code" base.libraryCode f.libraryCode
    trim := x.leave "trim" base.trim f.trim
    debugCalls := x.leave "debug_calls" base.debugCalls f.debugCalls
    demangle := x.leave "demangle" base.demangle f.demangle
    intel := x.leave "intel" base.intel f.intel }

theorem reads : Reads (flat fieldNames) toJson (decode d) reset := by
  intro x f j h
  obtain ⟨fs, hfs, hkept⟩ := Json.exists_fields?_flat d h rfl (by decide)
  rw [decode, hfs, Option.bind_some]
  simp only [ofFields]
  -- One step for each of the flags.
  iterate 11 rw [hkept.get_eq reads_bool rfl rfl]
  rfl

theorem decode_toJson (f : Filters) : decode d f.toJson = some f :=
  reads d .nothing f _ (Json.flat_nothing _ _)

end Filters

namespace BackendOptions

def reset (x : Deletion) (b : BackendOptions) : BackendOptions :=
  let base : BackendOptions := {}
  { produceOptInfo := x.leave "produce_opt_info" base.produceOptInfo b.produceOptInfo
    extra := x.leave "extra" base.extra b.extra }

/-- What may be left out: fields, but none of the entries of the options that are carried along. -/
def change : Change := .record [("produce_opt_info", leaf), ("extra", .map leaf)]

theorem reads : Reads change toJson (decode d) reset := by
  intro x b j h
  obtain ⟨fs, hfs, hkept⟩ := Json.exists_fields? d h rfl (by decide)
  have hfs : Json.fields? d fieldNames j = some fs := hfs
  rw [decode, hfs, Option.bind_some, ofFields]
  rw [hkept.get_eq reads_bool rfl rfl, hkept.get_eq reads_text.map rfl rfl, Dict.mapKeyed_id]
  rfl

theorem decode_toJson (b : BackendOptions) : decode d b.toJson = some b := by
  have hextra : Change.map leaf .nothing (b.extra.toJson Json.str) (b.extra.toJson Json.str) :=
    Json.map_nothing (fun _ => rfl) b.extra
  have hchange : change .nothing b.toJson b.toJson := by
    refine Json.record_nothing ?_
    simp only [List.forall_mem_cons]
    exact ⟨rfl, hextra, List.forall_mem_nil _⟩
  exact reads d .nothing b _ hchange

end BackendOptions

/--
From the document of a value with fields left out at any depth, others added and all in any
order, that value is read with the default in place of each of those fields.
-/
theorem decode_of_change (d : Dialect) :
    (∀ x (c : ToolchainConfig) j, ToolchainConfig.change x c.toJson j →
      ToolchainConfig.decode d j = some (c.reset x)) ∧
    (∀ x (f : Filters) j, flat Filters.fieldNames x f.toJson j →
      Filters.decode d j = some (f.reset x)) ∧
    (∀ x (b : BackendOptions) j, BackendOptions.change x b.toJson j →
      BackendOptions.decode d j = some (b.reset x)) ∧
    (∀ c : ToolchainConfig, c.reset .nothing = c ∧ ToolchainConfig.decode d c.toJson = some c) ∧
    (∀ f : Filters, f.reset .nothing = f ∧ Filters.decode d f.toJson = some f) ∧
    ∀ b : BackendOptions, b.reset .nothing = b ∧ BackendOptions.decode d b.toJson = some b := by
  refine ⟨ToolchainConfig.reads d, Filters.reads d, BackendOptions.reads d, ?_, ?_, ?_⟩
  · intro c
    exact ⟨c.reset_nothing, c.decode_toJson d⟩
  · intro f
    exact ⟨rfl, f.decode_toJson d⟩
  · intro b
    exact ⟨rfl, b.decode_toJson d⟩

/-- A configuration that is the default in no section. -/
def sampleConfig : ToolchainConfig where
  compiler :=
    { exe := "cc", options := ["-x"], supportsOptOutput := true, optArg := "-r",
      translator := "bc2spv", disassembler := "dis" }
  exec := { timeoutMs := 5, maxOutput := 7 }
  userOptions := { forbidden := [], forbiddenWithValue := ["-p"] }
  libraries := .ofList [("fmt", .ofList [("9", { options := ["-DFMT"], link := ["fmt"] })])]

def sampleDeletion : Deletion := fun path =>
  path ∈ [["pipeline"], ["compiler", "opt_arg"], ["compiler", "translator"], ["exec"],
    ["user_options", "forbidden"], ["libraries", "fmt", "9", "link"]]

/-- Members from the last to the first. -/
def backwards (ms : List (String × Json)) : Json := .record ms.reverse

/-- What is left of the compiler, with a field that it does not know. -/
def sampleCompiler : Json :=
  backwards [("exe", .str "cc"), ("options", .strs ["-x"]), ("supports_opt_output", .bool true),
    ("disassembler", .str "dis"), ("timeout_ms", .decimal "1e9")]

def sampleUserOptions : Json :=
  backwards [("forbidden_with_value", .strs ["-p"]), ("exe", .array [])]

def sampleVersion : Json :=
  backwards [("include_paths", .strs []), ("options", .strs ["-DFMT"]), ("lib_paths", .strs []),
    ("static_link", .strs []), ("pipeline", .int (-1))]

def sampleLibraries : Json := .record [("fmt", .record [("9", sampleVersion)])]

def sampleDocument : Json :=
  backwards [("compiler", sampleCompiler), ("user_options", sampleUserOptions),
    ("libraries", sampleLibraries), ("output", .null)]

theorem change_sampleLibraries :
    Catalogue.change (sampleDeletion.below "libraries") (Catalogue.toJson sampleConfig.libraries)
      sampleLibraries := by
  have hversion : flat LibraryVersion.fieldNames
      (((sampleDeletion.below "libraries").below "fmt").below "9")
      (LibraryVersion.toJson { options := ["-DFMT"], link := ["fmt"] }) sampleVersion :=
    Json.flat_of_perm [("pipeline", .int (-1))] (by decide) (List.reverse_perm _)
  have hversions : Change.map (flat LibraryVersion.fieldNames)
      ((sampleDeletion.below "libraries").below "fmt")
      (Dict.toJson LibraryVersion.toJson
        (.ofList [("9", { options := ["-DFMT"], link := ["fmt"] })]))
      (.record [("9", sampleVersion)]) :=
    ⟨_, [("9", sampleVersion)], _, rfl, .cons ⟨rfl, hversion⟩ .nil, List.Perm.refl _, rfl⟩
  exact ⟨_, [("fmt", .record [("9", sampleVersion)])], _, rfl, .cons ⟨rfl, hversions⟩ .nil,
    List.Perm.refl _, rfl⟩

theorem change_sampleDocument :
    ToolchainConfig.change sampleDeletion sampleConfig.toJson sampleDocument := by
  have hcompiler : flat CompilerConfig.fieldNames (sampleDeletion.below "compiler")
      sampleConfig.compiler.toJson sampleCompiler :=
    Json.flat_of_perm [("timeout_ms", .decimal "1e9")] (by decide) (List.reverse_perm _)
  have huserOptions : flat UserOptionsConfig.fieldNames (sampleDeletion.below "user_options")
      sampleConfig.userOptions.toJson sampleUserOptions :=
    Json.flat_of_perm [("exe", .array [])] (by decide) (List.reverse_perm _)
  refine ⟨_, [("compiler", sampleCompiler), ("user_options", sampleUserOptions),
    ("libraries", sampleLibraries)], [("output", .null)], _, rfl, ?_, by decide,
    List.reverse_perm _, rfl⟩
  exact .cons ⟨rfl, hcompiler⟩
    (.cons ⟨rfl, huserOptions⟩ (.cons ⟨rfl, change_sampleLibraries⟩ .nil))

theorem decode_of_change_sampleDocument :
    (ToolchainConfig.change sampleDeletion sampleConfig.toJson sampleDocument ∧
      ToolchainConfig.decode .json sampleDocument =
        some
          { compiler :=
              { exe := "cc", options := ["-x"], supportsOptOutput := true,
                optArg := "-fsave-optimization-record", translator := "llvm-spirv",
                disassembler := "dis" }
            exec := { timeoutMs := 10000, maxOutput := 1048576 }
            userOptions :=
              { forbidden := ["-fplugin=", "-fpass-plugin=", "-load"]
                forbiddenWithValue := ["-p"] }
            libraries := .ofList [("fmt", .ofList [("9", { options := ["-DFMT"] })])] }) ∧
    (flat Filters.fieldNames (· ≠ ["intel"]) (Filters.toJson { trim := true, intel := true })
        (backwards [("intel", .bool true), ("extra", .null)]) ∧
      Filters.decode .json (backwards [("intel", .bool true), ("extra", .null)]) =
        some { intel := true }) ∧
    BackendOptions.change (· = ["produce_opt_info"])
        (BackendOptions.toJson { produceOptInfo := true, extra := .ofList [("k", "v")] })
        (.record [("extra", .record [("k", .str "v")])]) ∧
      BackendOptions.decode .json (.record [("extra", .record [("k", .str "v")])]) =
        some { extra := .ofList [("k", "v")] } := by
  obtain ⟨htoolchain, hfilters, hbackend, -⟩ := decode_of_change .json
  have hflags : flat Filters.fieldNames (· ≠ ["intel"])
      (Filters.toJson { trim := true, intel := true })
      (backwards [("intel", .bool true), ("extra", .null)]) :=
    Json.flat_of_perm [("extra", .null)] (by decide) (List.reverse_perm _)
  have hextra : BackendOptions.change (· = ["produce_opt_info"])
      (BackendOptions.toJson { produceOptInfo := true, extra := .ofList [("k", "v")] })
      (.record [("extra", .record [("k", .str "v")])]) := by
    refine ⟨_, [("extra", .record [("k", .str "v")])], [], _, rfl, .cons ⟨rfl, ?_⟩ .nil,
      List.forall_mem_nil _, List.Perm.refl _, rfl⟩
    exact ⟨_, [("k", .str "v")], _, rfl, .cons ⟨rfl, rfl⟩ .nil, List.Perm.refl _, rfl⟩
  exact ⟨⟨change_sampleDocument, htoolchain _ _ _ change_sampleDocument⟩,
    ⟨hflags, hfilters _ _ _ hflags⟩, hextra, hbackend _ _ _ hextra⟩

end SpirvToolchain
