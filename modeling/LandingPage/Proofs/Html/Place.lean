import LandingPage.Html.Element

/-!
# Elements with the elements around them

The elements of a document forget where they stand. A place remembers: it is an element together
with the elements that it stands in, so that "a link inside the menu" can be said of what a click
hits. Forgetting the elements around gives the elements and the clickable elements back.
-/
namespace LandingPage

/-- An element of a document and the elements around it, the nearest first. -/
structure Place (α : Type) where
  element : Element α
  around : List (Element α)

namespace Html

variable {α : Type}

def placesIn (around : List (Element α)) : Html α → List (Place α)
  | empty => []
  | text _ => []
  | element tag attrs classes onClick body =>
    let e : Element α := ⟨tag, attrs, classes, onClick, body⟩
    ⟨e, around⟩ :: body.placesIn (e :: around)
  | append first second => first.placesIn around ++ second.placesIn around

def clickPlaces (h : Html α) : List (Place α) :=
  (h.placesIn []).filter (·.element.isClickable)

private theorem map_element_placesIn (around : List (Element α)) (h : Html α) :
    (h.placesIn around).map Place.element = h.elements := by
  induction h generalizing around with
  | empty => rfl
  | text content => rfl
  | element tag attrs classes onClick body ih =>
    simp only [placesIn, elements, List.map_cons, ih]
  | append first second ihFirst ihSecond =>
    simp only [placesIn, elements, List.map_append, ihFirst, ihSecond]

private theorem map_element_clickPlaces (h : Html α) :
    h.clickPlaces.map Place.element = h.clickables := by
  rw [clickPlaces, clickables, ← map_element_placesIn [] h, List.filter_map]
  rfl

theorem clickables_getElem? (h : Html α) (i : Nat) :
    h.clickables[i]? = (h.clickPlaces[i]?).map Place.element := by
  rw [← map_element_clickPlaces, List.getElem?_map]

end Html

end LandingPage
