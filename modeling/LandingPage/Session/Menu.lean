import LandingPage.Session.Click
import LandingPage.View.Navigation

/-!
A visit to the header. Every click that sets the menu renders the header again, also when the state
stays the same; earlier renders can still be clicked, and a click runs the action of the render it
hits, which holds the state of that render.
-/
namespace LandingPage

/-- The renders so far as the states of the menu they show. -/
structure MenuSession where
  older : List Disclosure
  newest : Disclosure
  deriving DecidableEq

/-- A click on the link or button at an index of a render; without a number, of the newest. -/
structure MenuClick where
  element : Nat
  render : Option Nat
  deriving DecidableEq

/-- What a step of a visit shows: of the newest render the number of links and buttons and the
trigger's description, and the render itself if this step made it. -/
structure MenuReport where
  renders : Nat
  clickables : Nat
  expanded : String
  label : String
  log : List Log.Event
  rendered : Option (Html Action)

namespace MenuSession

def start : MenuSession := ⟨[], .initial⟩

def renders (s : MenuSession) : List Disclosure :=
  s.older ++ [s.newest]

def shown? (s : MenuSession) : Option Nat → Option Disclosure
  | none => some s.newest
  | some k => s.renders[k]?

def target? (s : MenuSession) (click : MenuClick) : Option (Element Action) :=
  (s.shown? click.render).bind fun menu => (header menu).clickables[click.element]?

def rerender (s : MenuSession) (menu : Disclosure) : MenuSession :=
  ⟨s.renders, menu⟩

/-- The session after an action; one that does not set the menu leaves it as it is. -/
def run (s : MenuSession) (action : Option Action) : MenuSession :=
  match action.bind Action.menu? with
  | none => s
  | some menu => s.rerender menu

def step (s : MenuSession) (click : MenuClick) : MenuSession :=
  s.run (actionOf (s.target? click))

def report (s : MenuSession) (log : List Log.Event) (isNew : Bool) : MenuReport where
  renders := s.renders.length
  clickables := (header s.newest).clickables.length
  expanded := s.newest.ariaExpanded
  label := s.newest.triggerLabel
  log := log
  rendered := if isNew then some (header s.newest) else none

def startReport : MenuReport := start.report [] true

def answer (s : MenuSession) (click : MenuClick) : ClickResult × MenuReport :=
  let target := s.target? click
  let action := actionOf target
  (.ofTarget target, (s.step click).report (logOf action) (action.bind Action.menu?).isSome)

def answers (s : MenuSession) : List MenuClick → List (ClickResult × MenuReport)
  | [] => []
  | click :: clicks => s.answer click :: (s.step click).answers clicks

def steps (s : MenuSession) (clicks : List MenuClick) : MenuSession :=
  clicks.foldl step s

theorem steps_concat (s : MenuSession) (clicks : List MenuClick) (click : MenuClick) :
    s.steps (clicks ++ [click]) = (s.steps clicks).step click := by
  simp [steps]

theorem steps_cons (s : MenuSession) (click : MenuClick) (clicks : List MenuClick) :
    s.steps (click :: clicks) = (s.step click).steps clicks := rfl

theorem answers_concat (s : MenuSession) (clicks : List MenuClick) (click : MenuClick) :
    s.answers (clicks ++ [click]) = s.answers clicks ++ [(s.steps clicks).answer click] := by
  induction clicks generalizing s with
  | nil => rfl
  | cons first clicks ih => simp only [List.cons_append, answers, ih, steps_cons]

theorem renders_rerender (s : MenuSession) (menu : Disclosure) :
    (s.rerender menu).renders = s.renders ++ [menu] := rfl

theorem renders_run (s : MenuSession) (action : Option Action) :
    (s.run action).renders = s.renders ++ (action.bind Action.menu?).toList := by
  unfold run
  cases action.bind Action.menu? with
  | none => simp
  | some menu => rfl

end MenuSession

end LandingPage
