import MessageCatalog.Main
import MessageCatalog.Proofs.Generation.ByHand
import MessageCatalog.Proofs.Generation.Composition
import MessageCatalog.Proofs.Generation.Confinement
import MessageCatalog.Proofs.Generation.Isolation
import MessageCatalog.Proofs.Generation.NativePair
import MessageCatalog.Proofs.Generation.SecondRun
import MessageCatalog.Proofs.Managed.Layout
import MessageCatalog.Proofs.Native.Agreement
import MessageCatalog.Proofs.Generated.Collision
import MessageCatalog.Proofs.Properties.Reading
import MessageCatalog.Proofs.Generation.Containment
import MessageCatalog.Proofs.Generation.Rejection
import MessageCatalog.Proofs.Managed.Omission
import MessageCatalog.Proofs.Bundle.Comments
import MessageCatalog.Proofs.Generated.Stability
import MessageCatalog.Proofs.Log.Collection
import MessageCatalog.Proofs.Settings.Fidelity
import MessageCatalog.Proofs.Template.Composition
import MessageCatalog.Proofs.Template.Mention
import MessageCatalog.Proofs.Generation.Attribution
import MessageCatalog.Proofs.Text.Filled
import MessageCatalog.Proofs.Generated.DocComment
import MessageCatalog.Proofs.Bundle.LocaleSet
import MessageCatalog.Proofs.ClassName.Directory
import MessageCatalog.Proofs.ClassName.Spelling
import MessageCatalog.Proofs.Generation.LocaleFile
import MessageCatalog.Proofs.Generated.CommentLine
import MessageCatalog.Proofs.Text.Quoted
import MessageCatalog.Proofs.Native.Validation
import MessageCatalog.Proofs.Generation.Untouched
import MessageCatalog.Proofs.Text.Turn
import MessageCatalog.Proofs.Context.Memory
import MessageCatalog.Proofs.Shape.Signature
import MessageCatalog.Proofs.Generation.Guarded
