import Entitlements.Pattern.RunLimit
import Entitlements.Session.Operation
import Entitlements.Proofs.Pattern.Stretch
import Entitlements.Proofs.Pattern.Sweep
import Entitlements.Proofs.Pattern.Cuts
import Entitlements.Proofs.Pattern.Regex
import Entitlements.Proofs.Pattern.Containment
import Entitlements.Proofs.Mask.Bits
import Entitlements.Proofs.Mask.Coverage
import Entitlements.Proofs.Outcome
import Entitlements.Proofs.Pattern.Sample
import Entitlements.Proofs.Privilege.Leaves
import Entitlements.Proofs.Permission.Granting
import Entitlements.Proofs.Permission.Redelegation
import Entitlements.Proofs.Permission.Grantee
import Entitlements.Proofs.PermissionSet.Coverage
import Entitlements.Proofs.Permission.Written
import Entitlements.Proofs.Session.Sources
import Entitlements.Proofs.Session.Runs
import Entitlements.Proofs.Permission.RoundTrip
import Entitlements.Proofs.Permission.Validation
import Entitlements.Proofs.Json.RoundTrip
import Entitlements.Proofs.Document.Field
import Entitlements.Proofs.Document.Registry
import Entitlements.Proofs.Document.Permission
import Entitlements.Proofs.Permission.Widening
import Entitlements.Proofs.PermissionSet.Widening
import Entitlements.Proofs.Pattern.Segments
import Entitlements.Proofs.Pattern.OwnText
import Entitlements.Proofs.Permission.Reflexive
import Entitlements.Proofs.Session.Defaults
import Entitlements.Proofs.Session.Overrides
import Entitlements.Proofs.Registry.Nesting
import Entitlements.Proofs.Permission.Querying
import Entitlements.Proofs.PermissionSet.Listing
import Entitlements.Proofs.Registry.Consistency
import Entitlements.Proofs.Registry.Tokens
import Entitlements.Proofs.Pattern.Subtree
import Entitlements.Proofs.Pattern.Piecewise
import Entitlements.Proofs.Permission.HeldGrants
import Entitlements.Proofs.Pattern.Grammar
import Entitlements.Proofs.Pattern.Normal
import Entitlements.Proofs.Permission.Denial
import Entitlements.Proofs.Permission.Malformed
