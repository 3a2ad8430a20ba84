import EnumBindings.Command.Scripted
import EnumBindings.Main
import EnumBindings.Proofs.Block.Causes
import EnumBindings.Proofs.Block.ClosingBrace
import EnumBindings.Proofs.Block.CommentedOut
import EnumBindings.Proofs.Block.Delivery
import EnumBindings.Proofs.Block.FirstHeader
import EnumBindings.Proofs.Block.LineLayout
import EnumBindings.Proofs.Block.Listing
import EnumBindings.Proofs.Block.Locality
import EnumBindings.Proofs.Block.NoteLines
import EnumBindings.Proofs.Block.Passage
import EnumBindings.Proofs.Block.Preface
import EnumBindings.Proofs.Block.Provenance
import EnumBindings.Proofs.Block.Region
import EnumBindings.Proofs.Block.RoundTrip
import EnumBindings.Proofs.Block.Siblings
import EnumBindings.Proofs.Block.Statements
import EnumBindings.Proofs.Block.TrailingComments
import EnumBindings.Proofs.ConstantName
import EnumBindings.Proofs.ConstantName.Collisions
import EnumBindings.Proofs.ConstantName.Idempotence
import EnumBindings.Proofs.ConstantName.Words
import EnumBindings.Proofs.Draft.Buffers
import EnumBindings.Proofs.Draft.JavaLines
import EnumBindings.Proofs.Draft.Javadoc
import EnumBindings.Proofs.Draft.LateSections
import EnumBindings.Proofs.Draft.OneShot
import EnumBindings.Proofs.Draft.ReadBack
import EnumBindings.Proofs.Draft.Requests
import EnumBindings.Proofs.Files.Changes
import EnumBindings.Proofs.Files.Making
import EnumBindings.Proofs.Files.Mirroring
import EnumBindings.Proofs.Files.Reaching
import EnumBindings.Proofs.Files.Walking
import EnumBindings.Proofs.Session.Actions
import EnumBindings.Proofs.Target.Assembly
import EnumBindings.Proofs.Text.Replacing
import EnumBindings.Proofs.Update.Copies
import EnumBindings.Proofs.Update.Fetching
import EnumBindings.Proofs.Update.Idempotence
import EnumBindings.Proofs.Update.Interrupted
import EnumBindings.Proofs.Update.Outputs
import EnumBindings.Proofs.Update.Renewal
import EnumBindings.Proofs.Update.Settled
import EnumBindings.Proofs.ConstantName.Underscores
import EnumBindings.Proofs.Text.Replacing.Packages
import EnumBindings.Proofs.Text.Replacing.Lines
import EnumBindings.Proofs.Text.Replacing.Tags
import EnumBindings.Proofs.Block.Offset.Header
import EnumBindings.Proofs.Block.Offset.Token
import EnumBindings.Proofs.Block.Offset.Tail
import EnumBindings.Proofs.Block.Offset.Reading
