import LandingPage.Icon

namespace LandingPage

inductive Disclosure where
  | closed | opened
  deriving DecidableEq

namespace Disclosure

def initial : Disclosure := closed

def isOpen : Disclosure → Bool
  | closed => false
  | opened => true

def toggle : Disclosure → Disclosure
  | closed => opened
  | opened => closed

theorem toggle_inj {a b : Disclosure} : a.toggle = b.toggle ↔ a = b := by
  cases a <;> cases b <;> simp [toggle]

theorem toggle_eq_of_ne {a b : Disclosure} (h : a ≠ b) : a.toggle = b := by
  cases a <;> cases b <;> simp_all [toggle]

def close : Disclosure → Disclosure
  | _ => closed

def name : Disclosure → String
  | closed => "closed"
  | opened => "open"

def triggerLabel : Disclosure → String
  | closed => "Open menu"
  | opened => "Close menu"

def ariaExpanded (state : Disclosure) : String :=
  if state.isOpen then "true" else "false"

def icon : Disclosure → Icon
  | closed => .menu
  | opened => .close

inductive Step where
  | toggle | close
  deriving DecidableEq

def apply (state : Disclosure) : Step → Disclosure
  | .toggle => state.toggle
  | .close => state.close

/-- The state after each prefix of the steps, the empty one first. -/
def trace (state : Disclosure) (steps : List Step) : List Disclosure :=
  steps.scanl apply state

end Disclosure

end LandingPage
