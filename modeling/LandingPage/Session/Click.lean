import LandingPage.Action
import LandingPage.Html.Element

namespace LandingPage

inductive ClickResult where
  | noElement
  | clicked (tag : Tag) (handled prevented : Bool)
  deriving DecidableEq

def ClickResult.ofTarget : Option (Element Action) → ClickResult
  | none => noElement
  | some e => clicked e.tag e.onClick.isSome (e.onClick.any Action.preventsDefault)

def ClickResult.isHandled : ClickResult → Bool
  | noElement => false
  | clicked _ handled _ => handled

def ClickResult.isPrevented : ClickResult → Bool
  | noElement => false
  | clicked _ _ prevented => prevented

def actionOf (target : Option (Element Action)) : Option Action :=
  target.bind Element.onClick

theorem isHandled_ofTarget (target : Option (Element Action)) :
    (ClickResult.ofTarget target).isHandled = (actionOf target).isSome := by
  cases target <;> rfl

theorem isPrevented_ofTarget (target : Option (Element Action)) :
    (ClickResult.ofTarget target).isPrevented = (actionOf target).any Action.preventsDefault := by
  cases target <;> rfl

def logOf (action : Option Action) : List Log.Event :=
  action.elim [] Action.log

end LandingPage
