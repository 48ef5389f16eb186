import SpirvToolchain.Config.Decode
import SpirvToolchain.Toml.Document

/-! Configurations read from text. -/
namespace SpirvToolchain

/-- Below a choice stands an empty table or array; items past the last field are passed over. -/
def Json.Dialect.toml : Dialect where
  surplusItems := true
  isUnit
    | .array [] => true
    | .object [] => true
    | _ => false

def ToolchainConfig.ofToml? (text : String) : Option ToolchainConfig :=
  (Toml.parse? text).bind fun v => ToolchainConfig.decode .toml v.toJson

end SpirvToolchain
