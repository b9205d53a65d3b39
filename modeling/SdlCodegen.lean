import SdlCodegen.Main
import SdlCodegen.Schema.History
import SdlCodegen.Proofs.Fallible
import SdlCodegen.Proofs.Sdl.Names
import SdlCodegen.Proofs.Sdl.Takes
import SdlCodegen.Proofs.Sdl.Notation
import SdlCodegen.Proofs.Sdl.SingleDefinition
import SdlCodegen.Proofs.Sdl.WellNamed
import SdlCodegen.Proofs.Schema.Merging
import SdlCodegen.Proofs.Identifier
import SdlCodegen.Proofs.Schema.WellNamed
import SdlCodegen.Proofs.Schema.FirstFault
import SdlCodegen.Proofs.Schema.ObjectText
import SdlCodegen.Proofs.Schema.History
import SdlCodegen.Proofs.Schema.RootText
import SdlCodegen.Proofs.Naming.Injective
import SdlCodegen.Proofs.Naming.RoundTrip
import SdlCodegen.Proofs.TypeExpr
import SdlCodegen.Proofs.Declaration.WellNamed
import SdlCodegen.Proofs.Generation
import SdlCodegen.Proofs.Layout.Reading
import SdlCodegen.Proofs.Layout.Prints
import SdlCodegen.Proofs.Declaration.Tokens
import SdlCodegen.Proofs.DocComment
import SdlCodegen.Proofs.Declaration.Comments
import SdlCodegen.Proofs.Descriptions
import SdlCodegen.Proofs.Clash
import SdlCodegen.Proofs.Resolution
import SdlCodegen.Proofs.Declaration.Listing
import SdlCodegen.Proofs.Declaration.Collisions
import SdlCodegen.Proofs.Declaration.DefinedNames
import SdlCodegen.Proofs.Declaration.Warnings
import SdlCodegen.Proofs.Declaration.SupportedPart
import SdlCodegen.Proofs.Declaration.References
import SdlCodegen.Proofs.CommandLine
import SdlCodegen.Proofs.FileTree
import SdlCodegen.Proofs.FileTree.WellFormed
import SdlCodegen.Proofs.Text.ByteOrder
import SdlCodegen.Proofs.Source
import SdlCodegen.Proofs.Run
import SdlCodegen.Proofs.CommandLine.Spelling
import SdlCodegen.Proofs.Declaration.Shapes
import SdlCodegen.Proofs.Declaration.DocLines
import SdlCodegen.Proofs.Text.Lines
