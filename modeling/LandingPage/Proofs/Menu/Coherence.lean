import LandingPage.Proofs.Html.Markup
import LandingPage.Proofs.Menu.Header
import Mathlib.Data.List.Induction

/-!
# Coherence of every render

A header says in five places whether its menu is open: in an attribute, a label and the icon of the
trigger, in the presence of the panel, and in the elements that act on a click. All five follow the
state that the render was made in. A session answers each click with the document that it rendered,
if any; these documents are the headers of the states of the session's renders, so they all stay
coherent however outdated the clicks are.
-/
namespace LandingPage

def Html.handlers (h : Html Action) : List (Place Action) :=
  (h.placesIn []).filter (·.element.onClick.isSome)

/-- What a document is to show of a menu in this state, and which of its elements are to act. -/
structure Html.Coherent (doc : Html Action) (state : Disclosure) : Prop where
  face : doc.menuFace = state.face
  handlers : doc.handlers.map
      (fun p => (p.role, p.element.attr? .href, p.element.body.visibleText)) =
    (.trigger, none, "") ::
      if state = .opened then
        navLinks.map fun link => (.panelLink, some link.target, link.label)
      else []
  handled_iff : ∀ p ∈ doc.placesIn [], p.element.onClick.isSome ↔ p.role ≠ .plain

theorem coherent_header (menu : Disclosure) : (header menu).Coherent menu where
  face := menuFace_header menu
  handlers := by cases menu <;> rfl
  handled_iff := by
    have hall : ((header menu).placesIn []).all fun p =>
        p.element.onClick.isSome = decide (p.role ≠ .plain) := by
      cases menu <;> decide
    intro p hp
    have hplace := of_decide_eq_true (List.all_eq_true.1 hall p hp)
    rw [hplace, decide_eq_true_iff]

/-- The text of a header tells its state, since only an open menu adds tags. -/
theorem render_header_inj {menu menu' : Disclosure} :
    (header menu).render = (header menu').render ↔ menu = menu' := by
  refine ⟨fun h => ?_, fun h => h ▸ rfl⟩
  have hread := Html.readTags_render (header menu)
  rw [h, Html.readTags_render, Option.some_inj] at hread
  have hlength := congrArg List.length hread
  rw [List.length_map, List.length_map] at hlength
  have hpanel : (header .opened).markup.length ≠ (header .closed).markup.length := by decide
  by_contra hne
  cases menu with
  | closed =>
    cases menu' with
    | closed => exact hne rfl
    | opened => exact hpanel hlength
  | opened =>
    cases menu' with
    | closed => exact hpanel hlength.symm
    | opened => exact hne rfl

namespace MenuSession

def documents (clicks : List MenuClick) : List (Html Action) :=
  (startReport :: (start.answers clicks).map Prod.snd).filterMap MenuReport.rendered

private theorem rendered_answer (s : MenuSession) (click : MenuClick) :
    (s.answer click).2.rendered =
      ((actionOf (s.target? click)).bind Action.menu?).map header := by
  simp only [answer, report, step, run]
  cases (actionOf (s.target? click)).bind Action.menu? with
  | none => rfl
  | some menu => rfl

theorem documents_eq (clicks : List MenuClick) :
    documents clicks = (start.steps clicks).renders.map header := by
  induction clicks using List.reverseRecOn with
  | nil => rfl
  | append_singleton clicks click ih =>
    have hconcat : documents (clicks ++ [click]) =
        documents clicks ++ ((start.steps clicks).answer click).2.rendered.toList := by
      simp only [documents, answers_concat, List.map_append, List.map_singleton,
        ← List.cons_append, List.filterMap_append]
      cases hrendered : ((start.steps clicks).answer click).2.rendered <;>
        simp [hrendered]
    rw [hconcat, ih, rendered_answer, steps_concat, step, renders_run, List.map_append]
    cases (actionOf ((start.steps clicks).target? click)).bind Action.menu? <;> rfl

def drawn (clicks : List MenuClick) : List (Disclosure × Html Action) :=
  (start.steps clicks).renders.zip (documents clicks)

private theorem eq_header_of_mem_drawn {clicks : List MenuClick} {p : Disclosure × Html Action}
    (hp : p ∈ drawn clicks) : p.2 = header p.1 := by
  have hdrawn : drawn clicks = (start.steps clicks).renders.map fun menu => (menu, header menu) := by
    rw [drawn, documents_eq, ← List.zip_map', List.map_id']
  rw [hdrawn] at hp
  obtain ⟨menu, -, rfl⟩ := List.mem_map.1 hp
  rfl

/-- What the next click hits in the document that it is aimed at, by number or as the newest. -/
def place? (clicks : List MenuClick) (click : MenuClick) : Option (Place Action) :=
  ((documents clicks)[click.render.getD ((documents clicks).length - 1)]?).bind fun doc =>
    doc.clickPlaces[click.element]?

private theorem shown?_eq_getElem? (s : MenuSession) (render : Option Nat) :
    s.shown? render = s.renders[render.getD (s.renders.length - 1)]? := by
  cases render with
  | none => simp [shown?, renders]
  | some k => rfl

private theorem map_role_place? (clicks : List MenuClick) (click : MenuClick) :
    (place? clicks click).map Place.role = ((start.steps clicks).hit? click).map Prod.snd := by
  rw [place?, hit?, shown?_eq_getElem?, documents_eq, List.length_map, List.getElem?_map]
  cases (start.steps clicks).renders[click.render.getD ((start.steps clicks).renders.length - 1)]? with
  | none => rfl
  | some shown =>
    simp only [Option.map_some, Option.bind_some, Option.map_map]
    rfl

/-- Every render of every session, newest or not, is coherent with the state that it was made in; two
renders of any sessions have the same text exactly if they were made in the same state; and a click on
any of them is handled if it hits a trigger or a link of a panel, and prevents the default only if it
hits a trigger. -/
theorem drawn_coherent (clicks : List MenuClick) :
    let s := start.steps clicks
    (documents clicks).length = s.renders.length ∧
    (∀ p ∈ drawn clicks, p.2.Coherent p.1) ∧
    (∀ (clicks' : List MenuClick), ∀ p ∈ drawn clicks, ∀ q ∈ drawn clicks',
      p.2.render = q.2.render ↔ p.1 = q.1) ∧
    ∀ click : MenuClick,
      let result := (s.answer click).1
      match (place? clicks click).map Place.role with
      | some .trigger => result.isHandled ∧ result.isPrevented
      | some .panelLink => result.isHandled ∧ ¬ result.isPrevented
      | some .plain => ¬ result.isHandled ∧ ¬ result.isPrevented
      | none => ¬ result.isHandled ∧ ¬ result.isPrevented := by
  intro s
  refine ⟨by rw [documents_eq, List.length_map], ?_, ?_, ?_⟩
  · intro p hp
    rw [eq_header_of_mem_drawn hp]
    exact coherent_header p.1
  · intro clicks' p hp q hq
    rw [eq_header_of_mem_drawn hp, eq_header_of_mem_drawn hq]
    exact render_header_inj
  · intro click result
    have hhandled : result.isHandled = _ := isHandled_answer s click
    have hprevented : result.isPrevented = _ := isPrevented_answer s click
    rw [map_role_place?, hhandled, hprevented]
    rcases s.hit? click with _ | ⟨shown, role⟩
    · simp
    · cases role <;> simp

end MenuSession

end LandingPage
