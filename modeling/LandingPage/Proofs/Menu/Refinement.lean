import LandingPage.Proofs.Menu.Header

/-!
# The header as a panel that is toggled and closed

As long as every click is aimed at the newest render, the header is nothing but a panel: a click on
the trigger toggles it, a click on one of its links closes it, and no other click does anything. What
an index stands for depends on the state, since the links of the panel are there only while it is
open, so the readings are taken along the run.
-/
namespace LandingPage

def Role.operation? : Role → Option Disclosure.Step
  | trigger => some .toggle
  | panelLink => some .close
  | plain => none

def MenuClick.fresh (element : Nat) : MenuClick := ⟨element, none⟩

namespace MenuSession

def reading (s : MenuSession) (element : Nat) : Option Disclosure.Step :=
  (s.hit? (.fresh element)).bind fun hit => hit.2.operation?

/-- What clicks on the newest render stand for, one reading for each of them. -/
def readings (s : MenuSession) : List Nat → List (Option Disclosure.Step)
  | [] => []
  | element :: elements => s.reading element :: (s.step (.fresh element)).readings elements

private theorem readings_take (s : MenuSession) (elements : List Nat) (n : Nat) :
    (s.readings elements).take n = s.readings (elements.take n) := by
  induction elements generalizing s n with
  | nil => simp [readings]
  | cons element elements ih =>
    cases n with
    | zero => rfl
    | succ n => simp only [readings, List.take_succ_cons, ih]

private theorem shown_of_hit_fresh {s : MenuSession} {element : Nat} {shown : Disclosure}
    {role : Role} (h : s.hit? (.fresh element) = some (shown, role)) : shown = s.newest := by
  simp only [hit?, shown?, MenuClick.fresh, Option.bind_some, Option.map_eq_some_iff,
    Prod.mk.injEq] at h
  obtain ⟨p, -, hshown, -⟩ := h
  exact hshown.symm

private theorem step_fresh (s : MenuSession) (element : Nat) :
    (s.step (.fresh element)).newest = (s.reading element).elim s.newest s.newest.apply ∧
    (s.step (.fresh element)).renders.length =
      s.renders.length + (s.reading element).toList.length := by
  rw [step_eq]
  unfold reading
  rcases hhit : s.hit? (.fresh element) with _ | ⟨shown, role⟩
  · exact ⟨rfl, rfl⟩
  · have hshown := shown_of_hit_fresh hhit
    subst hshown
    cases role with
    | trigger => exact ⟨rfl, by simp [renders_rerender, Role.operation?]⟩
    | panelLink => exact ⟨rfl, by simp [renders_rerender, Role.operation?]⟩
    | plain => exact ⟨rfl, rfl⟩

private theorem steps_fresh (s : MenuSession) (elements : List Nat) :
    let operations := (s.readings elements).filterMap id
    (s.steps (elements.map .fresh)).newest = operations.foldl Disclosure.apply s.newest ∧
    (s.steps (elements.map .fresh)).renders.length = s.renders.length + operations.length := by
  induction elements generalizing s with
  | nil => exact ⟨rfl, rfl⟩
  | cons element elements ih =>
    obtain ⟨hnewest, hrenders⟩ := step_fresh s element
    obtain ⟨ihNewest, ihRenders⟩ := ih (s.step (.fresh element))
    have hsteps : s.steps ((element :: elements).map .fresh) =
        (s.step (.fresh element)).steps (elements.map .fresh) := rfl
    rw [hsteps, ihNewest, ihRenders, hnewest, hrenders]
    cases hreading : s.reading element with
    | none => simp [readings, hreading]
    | some operation =>
      simp only [readings, hreading, List.filterMap_cons, id_eq, List.foldl_cons, List.length_cons,
        Option.elim_some, Option.toList_some, List.length_nil, true_and]
      omega

/-- After every prefix of a session on the newest renders, the document shows the panel after the
operations that the prefix is read as, and there is one render for the mount and one for each
operation. -/
theorem menuFace_steps_fresh (elements : List Nat) (n : Nat) :
    let s := start.steps ((elements.take n).map .fresh)
    let operations := ((start.readings elements).take n).filterMap id
    (header s.newest).menuFace = (operations.foldl Disclosure.apply .initial).face ∧
    s.renders.length = operations.length + 1 := by
  intro s operations
  obtain ⟨hnewest, hrenders⟩ := steps_fresh start (elements.take n)
  rw [← readings_take] at hnewest hrenders
  constructor
  · rw [menuFace_header, hnewest]
    rfl
  · rw [hrenders, Nat.add_comm]
    rfl

end MenuSession

end LandingPage
