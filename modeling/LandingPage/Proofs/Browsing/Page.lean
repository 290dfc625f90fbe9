import LandingPage.Proofs.Menu.Header
import LandingPage.Session.Browsing

/-!
# What the pages offer to a click

Each page has one element that acts on a click: the landing page the trigger of its menu, the page for
unknown paths its link home. A visit renders the page of the current entry afresh at every step, so a
click always meets the menu closed, and all that it can do follows from the page that it hits.
-/
namespace LandingPage

namespace Route

/-- The element of the page that acts on a click. -/
def isLive : Route → Element Action → Bool
  | home, e => e.isTrigger
  | notFound, e => e.tag = .a && e.body.visibleText = "Back to home"

def liveAction : Route → Action
  | home => .toggleMenu .initial
  | notFound => .follow .home

end Route

private theorem onClick_of_mem_page {route : Route} {e : Element Action}
    (he : e ∈ (page route).clickables) :
    e.onClick = if route.isLive e then some route.liveAction else none := by
  have hall : (page route).clickables.all fun e =>
      e.onClick = if route.isLive e then some route.liveAction else none := by
    cases route <;> decide
  exact of_decide_eq_true (List.all_eq_true.1 hall e he)

private theorem clickables_notFound :
    ∃ e, (page .notFound).clickables = [e] ∧ Route.notFound.isLive e :=
  ⟨_, rfl, by decide⟩

theorem page_inj {route route' : Route} : page route = page route' ↔ route = route' := by
  refine ⟨fun h => ?_, fun h => h ▸ rfl⟩
  have hcount : (page .home).clickables.length ≠ (page .notFound).clickables.length := by decide
  have hlength := congrArg (·.clickables.length) h
  cases route with
  | home =>
    cases route' with
    | home => rfl
    | notFound => exact absurd hlength hcount
  | notFound =>
    cases route' with
    | home => exact absurd hlength.symm hcount
    | notFound => rfl

namespace BrowsingSession

/-- Nothing is rendered yet, or it is the page of the current entry. -/
def Fresh (s : BrowsingSession) : Prop :=
  ∀ html ∈ s.rendered, html = page (.ofPath s.history.current)

theorem fresh_step (s : BrowsingSession) (move : BrowsingStep) : (s.step move).Fresh := by
  intro html hhtml
  exact (Option.some.inj hhtml).symm

theorem fresh_steps {s : BrowsingSession} (hfresh : s.Fresh) (moves : List BrowsingStep) :
    (s.steps moves).Fresh := by
  induction moves generalizing s with
  | nil => exact hfresh
  | cons move moves ih => exact ih (fresh_step s move)

theorem fresh_start_steps (moves : List BrowsingStep) : (start.steps moves).Fresh :=
  fresh_steps (by simp [Fresh, start]) moves

theorem rendered_step_eq {s : BrowsingSession} {move : BrowsingStep} {route : Route}
    (hroute : .ofPath (s.moved move).current = route) :
    (s.step move).rendered = some (page route) := by
  rw [rendered_step, ← hroute]
  rfl

/-- The step before rendered the page of this route, and the index is that of its live element. -/
def Hits (s : BrowsingSession) (route : Route) (element : Nat) : Prop :=
  s.rendered = some (page route) ∧ ∃ e ∈ s.target? element, route.isLive e

theorem Hits.route_eq_ofPath {s : BrowsingSession} (hfresh : s.Fresh) {route : Route}
    {element : Nat} (h : s.Hits route element) : route = .ofPath s.history.current :=
  page_inj.1 (hfresh _ h.1)

private theorem mem_clickables_of_target? {s : BrowsingSession} {html : Html Action} {element : Nat}
    {e : Element Action} (hrendered : s.rendered = some html) (he : s.target? element = some e) :
    e ∈ html.clickables := by
  rw [target?, hrendered, Option.bind_some] at he
  exact List.mem_of_getElem? he

/-- The link home is all that can be clicked on the page for unknown paths. -/
theorem hits_notFound_iff {s : BrowsingSession} (hrendered : s.rendered = some (page .notFound))
    (element : Nat) : s.Hits .notFound element ↔ element = 0 := by
  obtain ⟨e, hlinks, hlive⟩ := clickables_notFound
  have htarget : s.target? element = [e][element]? := by
    rw [target?, hrendered, Option.bind_some, hlinks]
  constructor
  · rintro ⟨-, hit, hhit, -⟩
    obtain ⟨hlt, -⟩ := List.getElem?_eq_some_iff.1 (htarget.symm.trans hhit)
    exact Nat.lt_one_iff.1 hlt
  · rintro rfl
    exact ⟨hrendered, e, htarget, hlive⟩

theorem actionOf_of_hits {s : BrowsingSession} {route : Route} {element : Nat}
    (hhit : s.Hits route element) : actionOf (s.target? element) = some route.liveAction := by
  obtain ⟨hrendered, e, htarget, hlive⟩ := hhit
  have haction := onClick_of_mem_page (mem_clickables_of_target? hrendered htarget)
  rw [htarget, actionOf, Option.bind_some, haction, if_pos hlive]

/-- A click hits the live element of the page of the current entry, or nothing that acts. -/
theorem click_cases {s : BrowsingSession} (hfresh : s.Fresh) (element : Nat) :
    (∃ route, s.Hits route element) ∨ actionOf (s.target? element) = none := by
  cases htarget : s.target? element with
  | none => exact .inr rfl
  | some e =>
    obtain ⟨html, hrendered, hplace⟩ := Option.bind_eq_some_iff.1 htarget
    have hhtml := hfresh html hrendered
    subst hhtml
    have haction := onClick_of_mem_page (List.mem_of_getElem? hplace)
    cases hlive : (Route.ofPath s.history.current).isLive e with
    | true => exact .inl ⟨_, hrendered, e, htarget, hlive⟩
    | false =>
      rw [hlive] at haction
      exact .inr haction

theorem clickLog_of_hits {s : BrowsingSession} {element : Nat} (hhit : s.Hits .home element) :
    s.clickLog (.click element) = [.menuSet .opened] := by
  rw [clickLog, actionOf_of_hits hhit]
  rfl

theorem clickLog_of_not_hits {s : BrowsingSession} (hfresh : s.Fresh) {element : Nat}
    (hhit : ¬ s.Hits .home element) : s.clickLog (.click element) = [] := by
  rw [clickLog]
  rcases click_cases hfresh element with ⟨route, hroute⟩ | hnone
  · cases route with
    | home => exact absurd hroute hhit
    | notFound => rw [actionOf_of_hits hroute]; rfl
  · rw [hnone]; rfl

theorem moved_of_hits {s : BrowsingSession} {element : Nat} (hhit : s.Hits .notFound element) :
    s.moved (.click element) = s.history.push "/" := by
  rw [moved, actionOf_of_hits hhit]
  rfl

theorem moved_of_not_hits {s : BrowsingSession} (hfresh : s.Fresh) {element : Nat}
    (hhit : ¬ s.Hits .notFound element) : s.moved (.click element) = s.history := by
  rw [moved]
  rcases click_cases hfresh element with ⟨route, hroute⟩ | hnone
  · cases route with
    | home => rw [actionOf_of_hits hroute]; rfl
    | notFound => exact absurd hroute hhit
  · rw [hnone]; rfl

end BrowsingSession

end LandingPage
