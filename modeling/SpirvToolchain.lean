import SpirvToolchain.Host.Script
import SpirvToolchain.Json.Reader
import SpirvToolchain.Main
import SpirvToolchain.Proofs.Ast.Selection
import SpirvToolchain.Proofs.Toolchain.Chain
import SpirvToolchain.Proofs.Toolchain.Redirect
import SpirvToolchain.Proofs.Arguments.UserOptions
import SpirvToolchain.Proofs.Text.Lines
import SpirvToolchain.Proofs.Compilation.Joined
import SpirvToolchain.Proofs.Ir.Blanks
import SpirvToolchain.Proofs.Ir.Squash
import SpirvToolchain.Proofs.Ir.Composition
import SpirvToolchain.Proofs.Ir.Attachment
import SpirvToolchain.Proofs.Process.Capture
import SpirvToolchain.Proofs.Ir.LineEnds
import SpirvToolchain.Proofs.Ir.Lines
import SpirvToolchain.Proofs.Ir.Decoration
import SpirvToolchain.Proofs.Text.Ansi
import SpirvToolchain.Proofs.Text.Visible
import SpirvToolchain.Proofs.Compilation.Plain
import SpirvToolchain.Proofs.Ir.Trimmed
import SpirvToolchain.Proofs.Toolchain.IrSources
import SpirvToolchain.Proofs.Ast.Block
import SpirvToolchain.Proofs.Ast.Declaration
import SpirvToolchain.Proofs.Compilation.Named
import SpirvToolchain.Proofs.Ast.Origin
import SpirvToolchain.Proofs.Path.Place
import SpirvToolchain.Proofs.Toolchain.WorkingDirectory
import SpirvToolchain.Proofs.Ast.Position
import SpirvToolchain.Proofs.Ast.Relative
import SpirvToolchain.Proofs.Toolchain.Product
import SpirvToolchain.Proofs.Command.Stage
import SpirvToolchain.Proofs.Command.Ending
import SpirvToolchain.Proofs.Command.Frame
import SpirvToolchain.Proofs.Command.Bitcode
import SpirvToolchain.Proofs.Compilation.Tag
import SpirvToolchain.Proofs.Compilation.Diagnostic
import SpirvToolchain.Proofs.Compilation.Concealed
import SpirvToolchain.Proofs.Ast.Escapes
import SpirvToolchain.Proofs.Command.Printed
import SpirvToolchain.Proofs.Ir.Gaps
import SpirvToolchain.Proofs.Ir.Collapse
import SpirvToolchain.Proofs.Ir.Erasure
import SpirvToolchain.Proofs.Ir.Signs
import SpirvToolchain.Proofs.Ir.Hidden
import SpirvToolchain.Proofs.Ir.Strings
import SpirvToolchain.Proofs.Arguments.Order
import SpirvToolchain.Proofs.Arguments.Passes
import SpirvToolchain.Proofs.Compilation.Rejoined
import SpirvToolchain.Proofs.Toolchain.DumpFlag
import SpirvToolchain.Proofs.Compilation.Coloured
import SpirvToolchain.Proofs.Process.Buffer
import SpirvToolchain.Proofs.CommandLine.RoundTrip
import SpirvToolchain.Proofs.Report
import SpirvToolchain.Proofs.Config.Partial
import SpirvToolchain.Proofs.Compilation.Location
import SpirvToolchain.Proofs.Pipeline.Log
import SpirvToolchain.Proofs.Pipeline.Log
import SpirvToolchain.Proofs.Compilation.Location
