import LandingPage.Proofs.Browsing.Page

/-!
# The way home and back

The oldest entry of a visit is always the home page, since entries are only ever added behind it. Of
all clicks only the link home of the page for unknown paths changes the history: it adds an entry
behind the current one, so that one move back undoes it but for the entries that were ahead.
-/
namespace LandingPage.BrowsingSession

private theorem head?_entries_moved (s : BrowsingSession) (move : BrowsingStep) :
    (s.moved move).entries.head? = s.history.entries.head? := by
  cases move with
  | visit path => exact s.history.head?_entries_push path
  | go n => rw [moved, History.entries_go]
  | click element =>
    rw [moved, follow]
    cases (actionOf (s.target? element)).bind Action.destination? with
    | none => rfl
    | some path => exact s.history.head?_entries_push path

theorem head?_entries_steps (moves : List BrowsingStep) :
    (start.steps moves).history.entries.head? = some "/" := by
  have hsteps (s : BrowsingSession) : (s.steps moves).history.entries.head? =
      s.history.entries.head? := by
    induction moves generalizing s with
    | nil => rfl
    | cons move moves ih => exact (ih (s.step move)).trans (head?_entries_moved s move)
  exact hsteps start

private theorem current_go_neg {h : History} {n : Nat} (hn : h.entries.length ≤ n) :
    h.entries.head? = some (h.go (-n)).current := by
  have hposition : (h.go (-n)).position = 0 := by
    have hlt := h.position_lt_length_entries
    rw [History.go_neg, History.position_back]
    omega
  rw [← h.entries_go (-n)]
  exact History.head?_entries_of_position_eq_zero hposition

private theorem clickResult?_of_hits {s : BrowsingSession} {element : Nat}
    (hhit : s.Hits .notFound element) :
    s.clickResult? (.click element) = some (.clicked .a true true) := by
  have haction := actionOf_of_hits hhit
  obtain ⟨-, e, htarget, hlive⟩ := hhit
  have htag : e.tag = .a := by
    rw [Route.isLive, Bool.and_eq_true, decide_eq_true_iff] at hlive
    exact hlive.1
  rw [htarget, actionOf, Option.bind_some] at haction
  rw [clickResult?, htarget, ClickResult.ofTarget, htag, haction]
  rfl

/-- In every visit the oldest entry is the home page, so that a long way back always leads there. A
click changes the history just if it hits the link home, which is the one thing to click on the page
for unknown paths, and then a move back by one leads to that page at the path where the link was. -/
theorem history_steps (moves : List BrowsingStep) :
    let s := start.steps moves
    let h := s.history
    h.entries.head? = some "/" ∧
    h.entries[h.position]? = some h.current ∧
    (∀ n : Nat, h.entries.length ≤ n → (s.step (.go (-n))).rendered = some (page .home)) ∧
    ∀ element : Nat,
      let after := s.step (.click element)
      let back := after.step (.go (-1))
      ((after.history.entries, after.history.position) ≠ (h.entries, h.position) ↔
        s.Hits .notFound element) ∧
      (s.rendered = some (page .notFound) → (s.Hits .notFound element ↔ element = 0)) ∧
      (s.Hits .notFound element →
        s.clickResult? (.click element) = some (.clicked .a true true) ∧
        after.history.entries = h.entries.take (h.position + 1) ++ ["/"] ∧
        after.history.position = h.position + 1 ∧
        after.rendered = some (page .home) ∧
        back.rendered = some (page .notFound) ∧
        back.history.current = h.current ∧
        back.history.position = h.position ∧
        back.history.entries.take (h.position + 1) = h.entries.take (h.position + 1)) := by
  intro s h
  have hfresh : s.Fresh := fresh_start_steps moves
  have holdest : h.entries.head? = some "/" := head?_entries_steps moves
  refine ⟨holdest, h.getElem?_entries_position, ?_, ?_⟩
  · intro n hn
    have hcurrent : "/" = (h.go (-n)).current := by
      rw [← Option.some_inj, ← holdest]
      exact current_go_neg hn
    have hroute : .ofPath (h.go (-n)).current = Route.home := by
      rw [← hcurrent]
      exact Route.ofPath_path .home
    exact rendered_step_eq hroute
  intro element after back
  refine ⟨?_, fun hrendered => hits_notFound_iff hrendered element, ?_⟩
  · constructor
    · intro hchanged
      by_cases hhit : s.Hits .notFound element
      · exact hhit
      · have hafter : after.history = h := moved_of_not_hits hfresh hhit
        rw [hafter] at hchanged
        exact absurd rfl hchanged
    · intro hhit hsame
      have hafter : after.history = h.push "/" := moved_of_hits hhit
      have hposition := congrArg Prod.snd hsame
      rw [hafter] at hposition
      exact Nat.succ_ne_self _ hposition
  · intro hhit
    have hafter : after.history = h.push "/" := moved_of_hits hhit
    have hback : back.history = ⟨h.past, h.current, ["/"]⟩ := by
      change after.history.go (-1) = _
      rw [hafter, History.go_neg_one_push]
    have hroute : Route.notFound = .ofPath h.current := hhit.route_eq_ofPath hfresh
    refine ⟨clickResult?_of_hits hhit, ?_, ?_, ?_, ?_, ?_, ?_, ?_⟩
    · rw [hafter, History.entries_push, History.take_entries_position, List.append_assoc]
      rfl
    · rw [hafter]
      rfl
    · have hhome : .ofPath after.history.current = Route.home := by
        rw [hafter]
        exact Route.ofPath_path .home
      exact rendered_step_eq hhome
    · have hnotFound : .ofPath back.history.current = Route.notFound := by
        rw [hback, hroute]
      exact rendered_step_eq hnotFound
    · rw [hback]
    · rw [hback]
      rfl
    · have hposition : h.position = back.history.position := by
        rw [hback]
        rfl
      rw [History.take_entries_position, hposition, History.take_entries_position, hback]

/-- The link home is followed from an entry in the middle of the history and taken back; a click next
to the link does nothing. -/
theorem history_steps_at_unknown_path :
    let s := start.steps [.visit "/x", .visit "/y/", .go (-1)]
    let after := s.step (.click 0)
    let back := after.step (.go (-1))
    s.history.entries = ["/", "/x", "/y/"] ∧ s.rendered = some (page .notFound) ∧
    s.Hits .notFound 0 ∧ ¬ s.Hits .notFound 1 ∧
    (s.step (.click 1)).history.entries = ["/", "/x", "/y/"] ∧
    s.clickResult? (.click 0) = some (.clicked .a true true) ∧
    after.history.entries = ["/", "/x", "/"] ∧ after.history.position = 2 ∧
    after.rendered = some (page .home) ∧
    back.rendered = some (page .notFound) ∧ back.history.current = "/x" ∧
    back.history.position = 1 ∧ back.history.entries.take 2 = ["/", "/x"] := by
  intro s after back
  have hunknown : s.rendered = some (page .notFound) := rendered_step_eq (by decide)
  obtain ⟨-, -, -, hclicks⟩ := history_steps [.visit "/x", .visit "/y/", .go (-1)]
  obtain ⟨-, hlink, hfollow⟩ := hclicks 0
  obtain ⟨hchanged, hbeside, -⟩ := hclicks 1
  have hhit : s.Hits .notFound 0 := (hlink hunknown).2 rfl
  have hmiss : ¬ s.Hits .notFound 1 := fun h => Nat.one_ne_zero ((hbeside hunknown).1 h)
  have hsame := Classical.not_not.1 (mt hchanged.1 hmiss)
  obtain ⟨hresult, hentries, hposition, hhome, hback, hcurrent, hplace, htaken⟩ := hfollow hhit
  exact ⟨rfl, hunknown, hhit, hmiss, congrArg Prod.fst hsame, hresult, hentries, hposition, hhome,
    hback, hcurrent, hplace, htaken⟩

end LandingPage.BrowsingSession
