import LandingPage.Html.Basic

namespace LandingPage

structure Element (α : Type) where
  tag : Tag
  attrs : List Attr
  classes : Option String
  onClick : Option α
  body : Html α

def Element.attr? {α : Type} (e : Element α) (name : AttrName) : Option String :=
  (e.attrs.find? (·.name = name)).map Attr.value

/-- Links and buttons can be clicked, with or without an action. -/
def Element.isClickable {α : Type} (e : Element α) : Bool :=
  e.tag = .a || e.tag = .button

namespace Html

variable {α : Type}

def elements : Html α → List (Element α)
  | empty => []
  | text _ => []
  | element tag attrs classes onClick body =>
    ⟨tag, attrs, classes, onClick, body⟩ :: body.elements
  | append first second => first.elements ++ second.elements

def clickables (h : Html α) : List (Element α) :=
  h.elements.filter Element.isClickable

def ids (h : Html α) : List String :=
  h.elements.filterMap (·.attr? .id)

def linkTargets (h : Html α) : List String :=
  (h.elements.filter (·.tag = .a)).filterMap (·.attr? .href)

def visibleText : Html α → String
  | empty => ""
  | text content => content
  | element _ _ _ _ body => body.visibleText
  | append first second => first.visibleText ++ second.visibleText

theorem elements_join (hs : List (Html α)) : (join hs).elements = hs.flatMap elements := by
  induction hs with
  | nil => rfl
  | cons h hs ih => simp [join, elements, ih]

end Html

end LandingPage
