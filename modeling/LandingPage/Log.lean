import LandingPage.Content.Anchors
import LandingPage.Disclosure
import LandingPage.Routing.Route

namespace LandingPage.Log

inductive Level where
  | debug | info | warn
  deriving DecidableEq

def Level.name : Level → String
  | debug => "DEBUG"
  | info => "INFO"
  | warn => "WARN"

def threshold : Level := .debug

inductive Event where
  | menuSet (state : Disclosure)
  | menuClosedByNavigation
  /-- The address names a section, so the page did not scroll to its top. -/
  | scrollKept
  | pageRendered (route : Route)
  | contentFault (error : ContentError)
  deriving DecidableEq

namespace Event

def level : Event → Level
  | menuSet _ | menuClosedByNavigation | scrollKept => .debug
  | pageRendered _ => .info
  | contentFault _ => .warn

def message : Event → String
  | menuSet state => "mobile menu " ++ state.name
  | menuClosedByNavigation => "mobile menu closed by navigation"
  | scrollKept => "keeping scroll position for anchored url"
  | pageRendered .home => "Rendering Landing page"
  | pageRendered .notFound => "Rendering NotFound page"
  | contentFault error => "landing content: " ++ error.message

def line (event : Event) : String :=
  event.level.name ++ " " ++ event.message

end Event

def contentCheck : Except ContentError Unit → List Event
  | .ok () => []
  | .error error => [.contentFault error]

end LandingPage.Log
