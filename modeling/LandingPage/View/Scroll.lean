import LandingPage.View.Page

/-!
What the landing page does to the window when it appears: it scrolls to the top unless the address
names a place on the page.
-/
namespace LandingPage

/-- A browser window; the part of its address from `#` on may be unreadable. -/
structure Window where
  hash : Option String

/-- Whether the address names a place on the page: more than the `#` itself stands in it. -/
def Window.isAnchored (window : Window) : Bool :=
  match window.hash with
  | some hash => 1 < hash.utf8ByteSize
  | none => false

structure Arrival where
  scrolls : List (Int × Int)
  log : List Log.Event
  deriving DecidableEq

def arrive : Option Window → Arrival
  | none => ⟨[], []⟩
  | some window => if window.isAnchored then ⟨[], [.scrollKept]⟩ else ⟨[(0, 0)], []⟩

def mountLanding (window : Option Window) : Html Action × Arrival :=
  (landing .initial, arrive window)

end LandingPage
