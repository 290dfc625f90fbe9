import LandingPage.Text.Search
import LandingPage.Session.Browsing
import LandingPage.Session.Menu
import LandingPage.View.Scroll
import LandingPage.Proofs.Menu.Outdated
import LandingPage.Proofs.Menu.Refinement
import LandingPage.Proofs.Menu.Journal
import LandingPage.Proofs.Menu.Coherence
import LandingPage.Proofs.Menu.Unhandled
import LandingPage.Proofs.Fragment.Outline
import LandingPage.Proofs.Fragment.Pricing
import LandingPage.Proofs.Fragment.Texts
import LandingPage.Proofs.Fragment.Links
import LandingPage.Proofs.Fragment.Attributes
import LandingPage.Proofs.Browsing.Page
import LandingPage.Proofs.Browsing.Return
import LandingPage.Proofs.Browsing.Rendering
import LandingPage.Proofs.Content.Verdict
import LandingPage.Proofs.Html.Values
import LandingPage.Proofs.Menu.LivePage
import LandingPage.Proofs.Fragment.CodeLine
import LandingPage.Proofs.Html.Occurrences
import LandingPage.Proofs.Fragment.PlanCards
import LandingPage.Proofs.Fragment.Glyph
import LandingPage.Proofs.Fragment.LinksAndCards
import LandingPage.Proofs.Browsing.Arrival
import LandingPage.Proofs.Menu.Parity
import LandingPage.Proofs.Text.FirstOccurrence
