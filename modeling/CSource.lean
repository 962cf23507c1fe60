import CSource.Edit.Kinds
import CSource.File.Generated
import CSource.Proofs.CType.Slot
import CSource.Proofs.Comments.Leading
import CSource.Proofs.Declaration.Enumeration
import CSource.Proofs.Declaration.Pointer
import CSource.Proofs.Declaration.Prototype
import CSource.Proofs.Declaration.Typedef
import CSource.Proofs.Declarator.Outline
import CSource.Proofs.Directive.MacroName
import CSource.Proofs.Edit.Extension
import CSource.Proofs.Expr.Composition
import CSource.Proofs.Expr.Prefix
import CSource.Proofs.File.Order
import CSource.Proofs.Item.Alignment
import CSource.Proofs.Item.Code
import CSource.Proofs.Item.Splice
import CSource.Proofs.Layout.Depth
import CSource.Proofs.Literal.Acceptance
import CSource.Proofs.Literal.Containment
import CSource.Proofs.Literal.Equality
