import LandingPage.Routing.History
import LandingPage.Html.Writer
import LandingPage.Session.Click
import LandingPage.View.Page

/-!
A visit to the site. Every step changes the history or clicks the page that the step before rendered,
and then the page of the current entry is rendered afresh, so that nothing but the history is carried
from one step to the next.
-/
namespace LandingPage

def app (path : String) : Html Action × List Log.Event :=
  (page (.ofPath path), [.pageRendered (.ofPath path)])

inductive BrowsingStep where
  | visit (path : String)
  | go (entries : Int)
  | click (element : Nat)
  deriving DecidableEq

/-- The history, and the page rendered by the last step if there was one. -/
structure BrowsingSession where
  history : History
  rendered : Option (Html Action)

/-- What a step shows: the current entry, the events of the step and of the render, and the size of
the page. A click also tells what it found. -/
structure BrowsingReport where
  click : Option ClickResult
  path : String
  log : List Log.Event
  clickables : Nat
  htmlBytes : Nat

namespace BrowsingSession

def start : BrowsingSession := ⟨.single Route.home.path, none⟩

def target? (s : BrowsingSession) (element : Nat) : Option (Element Action) :=
  s.rendered.bind fun html => html.clickables[element]?

def follow (history : History) (action : Option Action) : History :=
  match action.bind Action.destination? with
  | none => history
  | some path => history.push path

def moved (s : BrowsingSession) : BrowsingStep → History
  | .visit path => s.history.push path
  | .go entries => s.history.go entries
  | .click element => follow s.history (actionOf (s.target? element))

def clickResult? (s : BrowsingSession) : BrowsingStep → Option ClickResult
  | .click element => some (.ofTarget (s.target? element))
  | .visit _ | .go _ => none

def clickLog (s : BrowsingSession) : BrowsingStep → List Log.Event
  | .click element => logOf (actionOf (s.target? element))
  | .visit _ | .go _ => []

def step (s : BrowsingSession) (move : BrowsingStep) : BrowsingSession :=
  let history := s.moved move
  ⟨history, some (app history.current).1⟩

def report (s : BrowsingSession) (move : BrowsingStep) : BrowsingReport :=
  let path := (s.moved move).current
  let html := (app path).1
  ⟨s.clickResult? move, path, s.clickLog move ++ (app path).2, html.clickables.length,
    html.render.utf8ByteSize⟩

def reports (s : BrowsingSession) : List BrowsingStep → List BrowsingReport
  | [] => []
  | move :: moves => s.report move :: (s.step move).reports moves

def steps (s : BrowsingSession) (moves : List BrowsingStep) : BrowsingSession :=
  moves.foldl step s

theorem steps_concat (s : BrowsingSession) (moves : List BrowsingStep) (move : BrowsingStep) :
    s.steps (moves ++ [move]) = (s.steps moves).step move := by
  simp [steps]

theorem getElem?_reports (s : BrowsingSession) (moves : List BrowsingStep) (n : Nat) :
    (s.reports moves)[n]? = moves[n]?.map (s.steps (moves.take n)).report := by
  induction moves generalizing s n with
  | nil => simp [reports]
  | cons move moves ih =>
    cases n with
    | zero => rfl
    | succ n =>
      simp only [reports, List.getElem?_cons_succ, ih]
      rfl

theorem steps_take_succ (s : BrowsingSession) {moves : List BrowsingStep} {n : Nat}
    {move : BrowsingStep} (hmove : moves[n]? = some move) :
    s.steps (moves.take (n + 1)) = (s.steps (moves.take n)).step move := by
  rw [List.take_add_one, hmove]
  exact steps_concat s (moves.take n) move

/-- After any step the page is the one of the current entry. -/
theorem rendered_step (s : BrowsingSession) (move : BrowsingStep) :
    (s.step move).rendered = some (page (.ofPath (s.step move).history.current)) := rfl

end BrowsingSession

end LandingPage
