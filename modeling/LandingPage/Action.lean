import LandingPage.Log

/-!
What a click does. An action on the menu holds the state of the render that it belongs to, since that
state and not the present one decides what the click sets and logs.
-/
namespace LandingPage

inductive Action where
  | toggleMenu (shown : Disclosure)
  | closeMenu (shown : Disclosure)
  | follow (route : Route)
  deriving DecidableEq

namespace Action

/-- A link in the menu leaves the scrolling to the browser; the others replace the default. -/
def preventsDefault : Action → Bool
  | toggleMenu _ | follow _ => true
  | closeMenu _ => false

def log : Action → List Log.Event
  | toggleMenu shown => [.menuSet shown.toggle]
  | closeMenu shown => if shown.isOpen then [.menuClosedByNavigation] else []
  | follow _ => []

def menu? : Action → Option Disclosure
  | toggleMenu shown => some shown.toggle
  | closeMenu shown => some shown.close
  | follow _ => none

def destination? : Action → Option String
  | follow route => some route.path
  | toggleMenu _ | closeMenu _ => none

end Action

end LandingPage
