import LandingPage.Proofs.Menu.Header

namespace LandingPage.MenuSession

/-- After any clicks, the next one sets the menu to the opposite of the state of the render whose
trigger it hits, to closed if it hits a link of a panel, and otherwise changes nothing. -/
theorem newest_steps_concat (clicks : List MenuClick) (click : MenuClick) :
    let before := start.steps clicks
    let after := start.steps (clicks ++ [click])
    (header after.newest).menuFace = after.newest.face ∧
    match before.hit? click with
    | some (shown, .trigger) =>
      after.newest = shown.toggle ∧ after.renders = before.renders ++ [shown.toggle] ∧
        (after.newest = before.newest.toggle ↔ shown = before.newest) ∧
        (shown ≠ before.newest → after.newest = before.newest)
    | some (_, .panelLink) =>
      after.newest = .closed ∧ after.renders = before.renders ++ [.closed]
    | some (_, .plain) => after = before
    | none => after = before := by
  intro before after
  have hstep : after = before.step click := steps_concat start clicks click
  refine ⟨menuFace_header _, ?_⟩
  rw [step_eq] at hstep
  rcases hhit : before.hit? click with _ | ⟨shown, role⟩
  · simpa only [hhit] using hstep
  · rw [hhit] at hstep
    cases role with
    | trigger =>
      have hnewest : after.newest = shown.toggle := by rw [hstep]; rfl
      refine ⟨hnewest, by rw [hstep]; rfl, ?_, ?_⟩
      · rw [hnewest, Disclosure.toggle_inj]
      · intro houtdated
        rw [hnewest, Disclosure.toggle_eq_of_ne houtdated]
    | panelLink => exact ⟨by rw [hstep]; rfl, by rw [hstep]; rfl⟩
    | plain => exact hstep

/-- The trigger of the mount opens the menu also when it is open. -/
example : (start.steps [⟨6, none⟩, ⟨6, some 0⟩]).renders = [.closed, .opened, .opened] := by decide

end LandingPage.MenuSession
