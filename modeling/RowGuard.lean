import RowGuard.Main
import RowGuard.Proofs.Command.Refinement
import RowGuard.Proofs.Environment.Split
import RowGuard.Proofs.Lookup.Body
import RowGuard.Proofs.Lookup.Decision
import RowGuard.Proofs.Lookup.Literal
import RowGuard.Proofs.Lookup.Normal
import RowGuard.Proofs.Lookup.Opacity
import RowGuard.Proofs.Lookup.Spacing
import RowGuard.Proofs.Lookup.Unfiltered
import RowGuard.Proofs.Policy.Enforcement
import RowGuard.Proofs.Policy.Mandatory
import RowGuard.Proofs.Query.Cut
import RowGuard.Proofs.Query.KeyPlace
import RowGuard.Proofs.Request.LetterCase
import RowGuard.Proofs.Request.Shortcut
import RowGuard.Proofs.Request.Tally
import RowGuard.Proofs.Request.Total
import RowGuard.Proofs.Request.Trail
import RowGuard.Proofs.Settings.Comment
import RowGuard.Proofs.Settings.Session
import RowGuard.Proofs.Query.Clause
import RowGuard.Proofs.Lookup.Written
import RowGuard.Proofs.Policy.Order
import RowGuard.Proofs.Lookup.Wrapped
import RowGuard.Proofs.Query.Matching
import RowGuard.Proofs.Log.Setup
