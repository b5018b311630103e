import LiveTemplate.Script.Cache
import LiveTemplate.Script.Config
import LiveTemplate.Script.Expression
import LiveTemplate.Script.Forest
import LiveTemplate.Script.Part
import LiveTemplate.Script.Template
import LiveTemplate.Proofs.Template.Substitution
import LiveTemplate.Proofs.Instance.Merge
import LiveTemplate.Proofs.Instance.Absorption
import LiveTemplate.Proofs.Instance.Lifetime
import LiveTemplate.Proofs.Instance.Recovery
import LiveTemplate.Proofs.Instance.Flags
import LiveTemplate.Proofs.Instance.Newest
import LiveTemplate.Proofs.Markup.Escape
import LiveTemplate.Proofs.Markup.Clean
import LiveTemplate.Proofs.Markup.Tags
import LiveTemplate.Proofs.Markup.Endings
import LiveTemplate.Proofs.Markup.NormalForm
import LiveTemplate.Proofs.Markup.Passage
import LiveTemplate.Proofs.Markup.Structure
import LiveTemplate.Proofs.Markup.RoundTrip
import LiveTemplate.Proofs.Markup.Spine
import LiveTemplate.Proofs.Markup.Building
import LiveTemplate.Proofs.Markup.Strict
import LiveTemplate.Proofs.Markup.InPlace
import LiveTemplate.Proofs.Placeholder.Leftmost
import LiveTemplate.Proofs.Workshop.Transparency
import LiveTemplate.Proofs.Placeholder.Closing
import LiveTemplate.Proofs.Text.Cuts
import LiveTemplate.Proofs.Expression.Grammar
import LiveTemplate.Proofs.Expression.Canonical
import LiveTemplate.Proofs.Expression.Pattern
import LiveTemplate.Proofs.Value.Built
import LiveTemplate.Proofs.Value.Appearance
import LiveTemplate.Proofs.Config.Marks
import LiveTemplate.Proofs.Forest.Consistent
import LiveTemplate.Proofs.Forest.Copied
import LiveTemplate.Proofs.Forest.Traversal
import LiveTemplate.Proofs.Forest.InStep
import LiveTemplate.Proofs.Forest.Refusals
import LiveTemplate.Proofs.Template.InPlace
import LiveTemplate.Proofs.Template.InPlaceRun
import LiveTemplate.Proofs.Profile.Blocks
import LiveTemplate.Proofs.Function.Purity
import LiveTemplate.Proofs.Instance.Independence
import LiveTemplate.Proofs.Profile.Scripts
