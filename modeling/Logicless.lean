import Logicless.CommandLine.Outcome
import Logicless.Document.Equality
import Logicless.Main
import Logicless.Proofs.CommandLine.Endings
import Logicless.Proofs.Document.Access
import Logicless.Proofs.Document.Content
import Logicless.Proofs.Document.Dates
import Logicless.Proofs.Document.Failure
import Logicless.Proofs.Document.Offence
import Logicless.Proofs.Document.RoundTrip
import Logicless.Proofs.Processor.Cache
import Logicless.Proofs.Processor.Concatenation
import Logicless.Proofs.Processor.Endings
import Logicless.Proofs.Processor.OneStep
import Logicless.Proofs.Render.Escaping
import Logicless.Proofs.Render.Lookup
import Logicless.Proofs.Render.Meaning
import Logicless.Proofs.Render.Memberless
import Logicless.Proofs.Render.Mention
import Logicless.Proofs.Render.Scoping
import Logicless.Proofs.Render.Suppressed
import Logicless.Proofs.Render.Unescaping
import Logicless.Proofs.Settings.Acceptance
import Logicless.Proofs.Template.Canonical
import Logicless.Proofs.Template.Coordinates
import Logicless.Proofs.Template.Discards
import Logicless.Proofs.Template.Heeded
import Logicless.Proofs.Template.Inverted
import Logicless.Proofs.Template.Labels
import Logicless.Proofs.Template.Linear
import Logicless.Proofs.Template.Listing
import Logicless.Proofs.Template.Relocation
import Logicless.Proofs.Template.Tokens
import Logicless.Proofs.Template.Unclosed
import Logicless.Template.Cursor
