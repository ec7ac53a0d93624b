import Switchboard.Argument.Foreign
import Switchboard.Diagnostics
import Switchboard.Main
import Switchboard.Naming
import Switchboard.Rehearsal
import Switchboard.Surface
import Switchboard.View
import Switchboard.Proofs.Authorization
import Switchboard.Proofs.Isolation
import Switchboard.Proofs.Notices
import Switchboard.Proofs.Invocation
import Switchboard.Proofs.Ruling
import Switchboard.Proofs.Conjunction
import Switchboard.Proofs.Delivery
import Switchboard.Proofs.Agreement
import Switchboard.Proofs.Independence
import Switchboard.Proofs.Spacing
import Switchboard.Proofs.History
import Switchboard.Proofs.Addressing
import Switchboard.Proofs.Resolution
import Switchboard.Proofs.Omission
import Switchboard.Proofs.Tolerance
import Switchboard.Proofs.LinkRows
import Switchboard.Proofs.Flattening
import Switchboard.Proofs.Splitting
import Switchboard.Proofs.Blame
import Switchboard.Proofs.Pieces
import Switchboard.Proofs.Limits
import Switchboard.Proofs.Keys
import Switchboard.Proofs.Constraints
import Switchboard.Proofs.Refusals
import Switchboard.Proofs.Concerns
import Switchboard.Proofs.Changes
import Switchboard.Proofs.Finality
import Switchboard.Proofs.Enquiry
import Switchboard.Proofs.Options
import Switchboard.Proofs.Manuals
import Switchboard.Proofs.Forgetting
import Switchboard.Proofs.Writers
import Switchboard.Proofs.Recasing
import Switchboard.Proofs.Rendering
