import WidgetMarkup.Main
import WidgetMarkup.Session
import WidgetMarkup.Text.Pad
import WidgetMarkup.Yuck.Layout
import WidgetMarkup.Proofs.Layout
import WidgetMarkup.Proofs.Reader
import WidgetMarkup.Proofs.RoundTrip
import WidgetMarkup.Proofs.Lowering
import WidgetMarkup.Proofs.Cancellation
import WidgetMarkup.Proofs.Unambiguity
import WidgetMarkup.Proofs.Completeness
import WidgetMarkup.Proofs.Session
import WidgetMarkup.Proofs.DepthGuards
import WidgetMarkup.Proofs.Bodies
import WidgetMarkup.Proofs.Agreement
import WidgetMarkup.Proofs.Spots
import WidgetMarkup.Proofs.Obstacles
import WidgetMarkup.Proofs.Placement
import WidgetMarkup.Proofs.Repetition
import WidgetMarkup.Proofs.Alike
import WidgetMarkup.Proofs.Isolation
import WidgetMarkup.Proofs.Confinement
import WidgetMarkup.Proofs.Accounting
import WidgetMarkup.Proofs.Literals
import WidgetMarkup.Proofs.Truncation
import WidgetMarkup.Proofs.Markup
import WidgetMarkup.Proofs.Mirroring
import WidgetMarkup.Proofs.Parentheses
import WidgetMarkup.Proofs.Trimmed
import WidgetMarkup.Proofs.Presentation
import WidgetMarkup.Proofs.Printing
import WidgetMarkup.Proofs.Accepted
