import LandingPage.Html.Basic
import LandingPage.Html.ClassList

namespace LandingPage

inductive Icon where
  | menu | close | shield | circleCheck | database | lock | arrowRight
  deriving DecidableEq

variable {α : Type}

namespace Icon

def stroke (data : String) : Html α :=
  .node .path [⟨.d, data⟩] none []

def rule (y : String) : Html α :=
  .node .line [⟨.x1, "4"⟩, ⟨.x2, "20"⟩, ⟨.y1, y⟩, ⟨.y2, y⟩] none []

def shapes : Icon → List (Html α)
  | menu => [rule "12", rule "6", rule "18"]
  | close => [stroke "M18 6 6 18", stroke "m6 6 12 12"]
  | shield =>
    [stroke "M20 13c0 5-3.5 7.5-7.66 8.95a1 1 0 0 1-.67-.01C7.5 20.5 4 18 4 13V6a1 1 0 0 1 1-1c2 0 4.5-1.2 6.24-2.72a1.17 1.17 0 0 1 1.52 0C14.51 3.81 17 5 19 5a1 1 0 0 1 1 1z"]
  | circleCheck =>
    [.node .circle [⟨.cx, "12"⟩, ⟨.cy, "12"⟩, ⟨.r, "10"⟩] none [], stroke "m9 12 2 2 4-4"]
  | database =>
    [.node .ellipse [⟨.cx, "12"⟩, ⟨.cy, "5"⟩, ⟨.rx, "9"⟩, ⟨.ry, "3"⟩] none [],
      stroke "M3 5V19A9 3 0 0 0 21 19V5", stroke "M3 12A9 3 0 0 0 21 12"]
  | lock =>
    [.node .rect
        [⟨.width, "18"⟩, ⟨.height, "11"⟩, ⟨.x, "3"⟩, ⟨.y, "11"⟩, ⟨.rx, "2"⟩, ⟨.ry, "2"⟩] none [],
      stroke "M7 11V7a5 5 0 0 1 10 0v4"]
  | arrowRight => [stroke "M5 12h14", stroke "m12 5 7 7-7 7"]

end Icon

def glyphAttrs : List Attr :=
  [⟨.xmlns, "http://www.w3.org/2000/svg"⟩, ⟨.viewBox, "0 0 24 24"⟩, ⟨.fill, "none"⟩,
    ⟨.stroke, "currentColor"⟩, ⟨.strokeWidth, "2"⟩, ⟨.strokeLinecap, "round"⟩,
    ⟨.strokeLinejoin, "round"⟩, ⟨.ariaHidden, "true"⟩]

def glyph (icon : Icon) (classes : ClassList) : Html α :=
  .node .svg glyphAttrs classes.text? icon.shapes

def styledGlyph (icon : Icon) (classes : String) : Html α :=
  glyph icon (.ofTexts [classes])

end LandingPage
