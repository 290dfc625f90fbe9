import LandingPage.Proofs.Html.Place
import LandingPage.Session.Menu

/-!
# What the header offers to a click

A link or button of the header is the trigger of the menu, a link of its panel, or neither. Which one
it is can be read off the document: the trigger says that it controls the menu, and a panel link is a
link with the menu around it. Its action is then fixed by this role and by the state that the header
shows, so what a click on a render does depends on the state of that render alone.
-/
namespace LandingPage

inductive Role where
  | trigger | panelLink | plain
  deriving DecidableEq

def Role.action? (menu : Disclosure) : Role → Option Action
  | trigger => some (.toggleMenu menu)
  | panelLink => some (.closeMenu menu)
  | plain => none

def Element.isTrigger {α : Type} (e : Element α) : Bool :=
  e.attr? .ariaControls = some mobileMenuId

def Element.isPanel {α : Type} (e : Element α) : Bool :=
  e.attr? .id = some mobileMenuId

def Place.role {α : Type} (p : Place α) : Role :=
  if p.element.isTrigger then .trigger
  else if p.element.tag = .a && p.around.any Element.isPanel then .panelLink
  else .plain

/-- What a document shows of the menu: of each trigger its `aria-expanded`, its label and what is
drawn on it, and the number of panels. -/
structure MenuFace where
  triggers : List (Option String × Option String × Html Action)
  panels : Nat

def Html.menuFace (h : Html Action) : MenuFace where
  triggers := (h.elements.filter Element.isTrigger).map fun e =>
    (e.attr? .ariaExpanded, e.attr? .ariaLabel, e.body)
  panels := (h.elements.filter Element.isPanel).length

def Disclosure.face : Disclosure → MenuFace
  | closed => ⟨[(some "false", some "Open menu", styledGlyph .menu "h-6 w-6")], 0⟩
  | opened => ⟨[(some "true", some "Close menu", styledGlyph .close "h-6 w-6")], 1⟩

theorem menuFace_header (menu : Disclosure) : (header menu).menuFace = menu.face := by
  cases menu <;> rfl

/-- The roles and actions in document order: three plain elements besides the links of the wide
screen, then the trigger, and in an open menu the links of the panel and two plain buttons. -/
theorem offers_header (menu : Disclosure) :
    (header menu).clickPlaces.map (fun p => (p.role, p.element.onClick)) =
      List.replicate (navLinks.length + 3) (.plain, none) ++ (.trigger, some (.toggleMenu menu)) ::
        if menu.isOpen then
          List.replicate navLinks.length (.panelLink, some (.closeMenu menu)) ++
            List.replicate 2 (.plain, none)
        else [] := by
  cases menu <;> rfl

private theorem onClick_of_mem_header {menu : Disclosure} {p : Place Action}
    (hp : p ∈ (header menu).clickPlaces) : p.element.onClick = p.role.action? menu := by
  have hoffers : ∀ offer ∈ (header menu).clickPlaces.map fun p => (p.role, p.element.onClick),
      offer.2 = offer.1.action? menu := by
    rw [offers_header]
    cases menu <;> decide
  exact hoffers _ (List.mem_map_of_mem hp)

private theorem eq_opened_of_panelLink_mem_header {menu : Disclosure} {p : Place Action}
    (hp : p ∈ (header menu).clickPlaces) (hrole : p.role = .panelLink) : menu = .opened := by
  have hoffers : ∀ offer ∈ (header menu).clickPlaces.map fun p => (p.role, p.element.onClick),
      offer.1 = .panelLink → menu = .opened := by
    rw [offers_header]
    cases menu <;> decide
  exact hoffers _ (List.mem_map_of_mem hp) hrole

namespace MenuSession

/-- The state of the render that a click is aimed at, and the role of what it hits there. -/
def hit? (s : MenuSession) (click : MenuClick) : Option (Disclosure × Role) :=
  (s.shown? click.render).bind fun shown =>
    ((header shown).clickPlaces[click.element]?).map fun p => (shown, p.role)

theorem actionOf_target? (s : MenuSession) (click : MenuClick) :
    actionOf (s.target? click) = (s.hit? click).bind fun hit => hit.2.action? hit.1 := by
  unfold target? hit?
  cases s.shown? click.render with
  | none => rfl
  | some shown =>
    simp only [Option.bind_some, Html.clickables_getElem?]
    cases hplace : (header shown).clickPlaces[click.element]? with
    | none => rfl
    | some p => exact onClick_of_mem_header (List.mem_of_getElem? hplace)

theorem eq_opened_of_hit_panelLink {s : MenuSession} {click : MenuClick} {shown : Disclosure}
    (h : s.hit? click = some (shown, .panelLink)) : shown = .opened := by
  unfold hit? at h
  obtain ⟨menu, -, h⟩ := Option.bind_eq_some_iff.1 h
  obtain ⟨p, hplace, h⟩ := Option.map_eq_some_iff.1 h
  obtain ⟨rfl, hrole⟩ := Prod.mk.inj h
  exact eq_opened_of_panelLink_mem_header (List.mem_of_getElem? hplace) hrole

theorem isHandled_answer (s : MenuSession) (click : MenuClick) :
    (s.answer click).1.isHandled = (s.hit? click).any fun hit => hit.2 ≠ .plain := by
  simp only [answer, isHandled_ofTarget, actionOf_target?]
  rcases s.hit? click with _ | ⟨shown, role⟩
  · rfl
  · cases role <;> rfl

theorem isPrevented_answer (s : MenuSession) (click : MenuClick) :
    (s.answer click).1.isPrevented = (s.hit? click).any fun hit => hit.2 = .trigger := by
  simp only [answer, isPrevented_ofTarget, actionOf_target?]
  rcases s.hit? click with _ | ⟨shown, role⟩
  · rfl
  · cases role <;> rfl

/-- All that a click can do: a trigger renders the opposite of the state that it belongs to, a panel
link renders the closed state, and everything else leaves the session as it is. -/
theorem step_eq (s : MenuSession) (click : MenuClick) :
    s.step click =
      match s.hit? click with
      | some (shown, .trigger) => s.rerender shown.toggle
      | some (_, .panelLink) => s.rerender .closed
      | some (_, .plain) => s
      | none => s := by
  unfold step
  rw [actionOf_target?]
  rcases s.hit? click with _ | ⟨shown, role⟩
  · rfl
  · cases role <;> rfl

end MenuSession

end LandingPage
