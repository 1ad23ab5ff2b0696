import TemplateCode.Main
import TemplateCode.Tree.Encode
import TemplateCode.Tree.Equality
import TemplateCode.Proofs.Literal
import TemplateCode.Proofs.Tokens
import TemplateCode.Proofs.Collapse
import TemplateCode.Proofs.FixedPoint
import TemplateCode.Proofs.Lines
import TemplateCode.Proofs.Marks
import TemplateCode.Proofs.Seam
import TemplateCode.Proofs.Skeleton
import TemplateCode.Proofs.Layout
import TemplateCode.Proofs.Merging
import TemplateCode.Proofs.StatementLines
import TemplateCode.Proofs.Emission
import TemplateCode.Proofs.Shape
import TemplateCode.Proofs.Erasure
import TemplateCode.Proofs.StaticText
import TemplateCode.Proofs.Outcome
import TemplateCode.Proofs.Quotes
import TemplateCode.Proofs.TreeDocument
import TemplateCode.Proofs.Fields
import TemplateCode.Proofs.Visits
import TemplateCode.Proofs.Nesting
import TemplateCode.Proofs.TreeText
import TemplateCode.Proofs.Compilation
import TemplateCode.Proofs.DiskFrame
import TemplateCode.Proofs.OutputFiles
import TemplateCode.Proofs.TracedCompilation
import TemplateCode.Proofs.Brackets
import TemplateCode.Proofs.Balance
import TemplateCode.Proofs.FirstFailure
import TemplateCode.Proofs.OnTheWay
import TemplateCode.Proofs.RunEffects
import TemplateCode.Proofs.ByteScan
import TemplateCode.Proofs.LiteralValue
import TemplateCode.Proofs.BreakMarks
import TemplateCode.Proofs.Interpolations
import TemplateCode.Proofs.ComputedNames
import TemplateCode.Proofs.WrittenForms
import TemplateCode.Proofs.Backticks
import TemplateCode.Proofs.TrailLines
import TemplateCode.Proofs.NormalForm
import TemplateCode.Proofs.ByteJoin
import TemplateCode.Proofs.LooseText
import TemplateCode.Proofs.Scopes
import TemplateCode.Proofs.OptionLayers
