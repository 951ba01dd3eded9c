import JspCompletion.Session.Document
import JspCompletion.Session.Lifecycle
import JspCompletion.Proofs.Markup.Classification
import JspCompletion.Proofs.Registry.Run
import JspCompletion.Proofs.Include.Declared
import JspCompletion.Proofs.Include.Staleness
import JspCompletion.Proofs.Workspace.Libraries
import JspCompletion.Proofs.Variables.Alignment
import JspCompletion.Proofs.Snippet.Cursor
import JspCompletion.Proofs.Completion.Edit
import JspCompletion.Proofs.Include.Termination
import JspCompletion.Proofs.Tld.Reload
import JspCompletion.Proofs.Workspace.Variables
import JspCompletion.Proofs.Session.Builtins
import JspCompletion.Proofs.Markup.Resumption
import JspCompletion.Proofs.Markup.Agreement
import JspCompletion.Proofs.Completion.Slices
import JspCompletion.Proofs.Registry.Removal
import JspCompletion.Proofs.Text.Lines
import JspCompletion.Proofs.Markup.TagEnd
import JspCompletion.Proofs.Markup.Rendering
import JspCompletion.Proofs.Include.Lexical
import JspCompletion.Proofs.Markup.Written
import JspCompletion.Proofs.Markup.Bindings
import JspCompletion.Proofs.Completion.Attributes
import JspCompletion.Proofs.Completion.Reach
import JspCompletion.Proofs.Completion.TagNames
import JspCompletion.Proofs.Completion.Forms
import JspCompletion.Proofs.Snippet.Names
import JspCompletion.Proofs.Tld.Completeness
import JspCompletion.Proofs.Signature.Printing
import JspCompletion.Proofs.Registry.Replacement
import JspCompletion.Proofs.Registry.Scan
import JspCompletion.Proofs.Registry.Throttle
import JspCompletion.Proofs.Variables.Order
import JspCompletion.Proofs.Completion.Narrowing
import JspCompletion.Proofs.Text.Monotone
import JspCompletion.Proofs.Completion.Identifier
import JspCompletion.Proofs.TypeName.LastSegment
