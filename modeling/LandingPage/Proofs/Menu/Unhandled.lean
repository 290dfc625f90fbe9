import LandingPage.Proofs.Menu.Header

/-!
# Clicks that change nothing

A click that hits nothing, or an element without an action, is answered but leaves no trace: it makes
no render, so the renders made later keep their numbers and the newest one stays the newest. Any such
clicks can therefore be deleted from a session without a change to the answers of the others.
-/
namespace LandingPage

/-- The members of a list at the positions that are kept. -/
def keepAt {β : Type} (keep : Nat → Bool) : List β → List β
  | [] => []
  | x :: xs =>
    if keep 0 then x :: keepAt (fun n => keep (n + 1)) xs else keepAt (fun n => keep (n + 1)) xs

namespace MenuSession

private theorem step_of_not_handled {s : MenuSession} {click : MenuClick}
    (h : (s.answer click).1.isHandled = false) : s.step click = s := by
  rw [isHandled_answer] at h
  rw [step_eq]
  rcases hhit : s.hit? click with _ | ⟨shown, role⟩
  · rfl
  · rw [hhit] at h
    cases role with
    | trigger => simp at h
    | panelLink => simp at h
    | plain => rfl

/-- The clicks that are not kept are not handled where they stand. -/
def DeletesUnhandled (s : MenuSession) (clicks : List MenuClick) (keep : Nat → Bool) : Prop :=
  ∀ n, keep n = false → ∀ answer ∈ (s.answers clicks)[n]?, answer.1.isHandled = false

theorem DeletesUnhandled.tail {s : MenuSession} {click : MenuClick} {clicks : List MenuClick}
    {keep : Nat → Bool} (h : s.DeletesUnhandled (click :: clicks) keep) :
    (s.step click).DeletesUnhandled clicks fun n => keep (n + 1) := by
  intro n hn answer hanswer
  exact h (n + 1) hn answer (by simpa [answers] using hanswer)

/-- The run over the kept clicks goes through the same states as the run over all of them, so that
each kept click meets the session that it met before. -/
theorem run_keepAt {s : MenuSession} {clicks : List MenuClick} {keep : Nat → Bool}
    (h : s.DeletesUnhandled clicks keep) :
    s.answers (keepAt keep clicks) = keepAt keep (s.answers clicks) ∧
    s.steps (keepAt keep clicks) = s.steps clicks := by
  induction clicks generalizing s keep with
  | nil => exact ⟨rfl, rfl⟩
  | cons click clicks ih =>
    obtain ⟨hanswers, hsteps⟩ := ih h.tail
    cases hkeep : keep 0 with
    | true =>
      simp only [keepAt, hkeep, if_true, answers, steps_cons]
      exact ⟨congrArg _ hanswers, hsteps⟩
    | false =>
      have hstep : s.step click = s := step_of_not_handled (h 0 hkeep _ rfl)
      rw [hstep] at hanswers hsteps
      simp only [keepAt, hkeep, Bool.false_eq_true, if_false, answers, steps_cons, hstep]
      exact ⟨hanswers, hsteps⟩

/-- Deleting clicks that hit nothing, or an element without an action, from a session leaves the
answer of every other click the same, and after them the same renders under the same numbers. -/
theorem answers_keepAt (clicks : List MenuClick) (keep : Nat → Bool)
    (hdeleted : start.DeletesUnhandled clicks keep) :
    start.answers (keepAt keep clicks) = keepAt keep (start.answers clicks) ∧
    (start.steps (keepAt keep clicks)).renders = (start.steps clicks).renders := by
  obtain ⟨hanswers, hsteps⟩ := run_keepAt hdeleted
  exact ⟨hanswers, congrArg renders hsteps⟩

/-- Between an opening, a panel link and an outdated trigger three clicks are deleted: past the last
element, on a plain link of an older render, and on a render that there never was. -/
theorem answers_keepAt_of_missed_clicks :
    let clicks : List MenuClick :=
      [⟨6, none⟩, ⟨99, none⟩, ⟨1, some 0⟩, ⟨6, some 7⟩, ⟨8, some 1⟩, ⟨6, some 0⟩]
    let keep := fun n => n = 0 || 4 ≤ n
    start.DeletesUnhandled clicks keep ∧
    keepAt keep clicks = [⟨6, none⟩, ⟨8, some 1⟩, ⟨6, some 0⟩] ∧
    start.answers (keepAt keep clicks) = keepAt keep (start.answers clicks) ∧
    (start.steps (keepAt keep clicks)).renders = (start.steps clicks).renders := by
  intro clicks keep
  have hdeleted : start.DeletesUnhandled clicks keep := by
    intro n hn
    have hposition : n = 1 ∨ n = 2 ∨ n = 3 := by
      simp only [keep, Bool.or_eq_false_iff, decide_eq_false_iff_not] at hn
      omega
    rcases hposition with rfl | rfl | rfl <;> decide
  exact ⟨hdeleted, rfl, answers_keepAt clicks keep hdeleted⟩

end MenuSession

end LandingPage
