import LandingPage.Disclosure
import Mathlib.Algebra.Group.Nat.Even
import Mathlib.Algebra.Ring.Parity

/-!
# The state of a panel by counting

Toggling is its own inverse and closing forgets all that was done before. So the state of a panel after
any steps follows from counting: the toggles since the last closing if there was one, and otherwise all
of them together with the state at the start.
-/
namespace LandingPage.Disclosure

structure Outputs where
  isOpen : Bool
  triggerLabel : String
  ariaExpanded : String
  icon : Icon
  name : String

def outputs (state : Disclosure) : Outputs :=
  ⟨state.isOpen, state.triggerLabel, state.ariaExpanded, state.icon, state.name⟩

private theorem drop_trace (start : Disclosure) (taken rest : List Step) :
    (start.trace (taken ++ rest)).drop taken.length = (taken.foldl apply start).trace rest := by
  induction taken generalizing start with
  | nil => rfl
  | cons step taken ih =>
    rw [trace, List.cons_append, List.scanl_cons]
    exact ih (start.apply step)

private theorem getElem?_trace (start : Disclosure) (taken rest : List Step) :
    (start.trace (taken ++ rest))[taken.length]? = some (taken.foldl apply start) := by
  rw [trace, List.getElem?_scanl, if_pos (by simp), List.take_left]

private theorem foldl_apply_close (start : Disclosure) (before after : List Step) :
    (before ++ .close :: after).foldl apply start = after.foldl apply closed := by
  rw [List.foldl_append, List.foldl_cons]
  rfl

/-- Without a closing the toggles alone decide, each turning the state at the start over. -/
theorem foldl_apply_eq_opened_iff {start : Disclosure} {steps : List Step}
    (h : .close ∉ steps) :
    steps.foldl apply start = .opened ↔
      start = .closed ∧ Odd (steps.count .toggle) ∨ start = .opened ∧ Even (steps.count .toggle) := by
  induction steps generalizing start with
  | nil => cases start <;> simp
  | cons step steps ih =>
    rw [List.mem_cons, not_or] at h
    obtain ⟨hstep, hsteps⟩ := h
    cases step with
    | close => exact absurd rfl hstep
    | toggle =>
      rw [List.foldl_cons, ih hsteps, List.count_cons_self, Nat.odd_add_one, Nat.even_add_one,
        Nat.not_odd_iff_even, Nat.not_even_iff_odd]
      cases start <;> simp [apply, toggle]

private theorem exists_last_close {steps : List Step} (h : .close ∈ steps) :
    ∃ before after, steps = before ++ .close :: after ∧ .close ∉ after := by
  obtain ⟨after, before, hsteps, hafter⟩ := List.eq_append_cons_of_mem (List.mem_reverse.2 h)
  refine ⟨before.reverse, after.reverse, ?_, by simpa using hafter⟩
  rw [← List.reverse_reverse steps, hsteps]
  simp

/-- A panel is open after some steps if and only if the toggles since the last closing are odd in
number, or, if there was none, all of them are odd or even in number as the panel was closed or open at
the start. So two panels that start in different states and take the same steps differ up to the first
closing and agree from there on, and what any panel shows from a closing on is what a closed one shows
that takes the steps after it. -/
theorem trace_by_counting :
    (∀ (start : Disclosure) (taken rest : List Step), ∃ state,
      (start.trace (taken ++ rest))[taken.length]? = some state ∧
      (state = .opened ↔
        (∃ before after, taken = before ++ .close :: after ∧ .close ∉ after ∧
          Odd (after.count .toggle)) ∨
        .close ∉ taken ∧
          (start = .closed ∧ Odd (taken.count .toggle) ∨
            start = .opened ∧ Even (taken.count .toggle)))) ∧
    (∀ taken rest : List Step,
      (closed.trace (taken ++ rest))[taken.length]? =
          (opened.trace (taken ++ rest))[taken.length]? ↔ .close ∈ taken) ∧
    ∀ (start : Disclosure) (before after : List Step),
      ((start.trace (before ++ .close :: after)).drop (before.length + 1)).map outputs =
        (closed.trace after).map outputs := by
  refine ⟨fun start taken rest => ⟨_, getElem?_trace start taken rest, ?_⟩, fun taken rest => ?_,
    fun start before after => ?_⟩
  · constructor
    · intro hopen
      by_cases hclose : .close ∈ taken
      · obtain ⟨before, after, rfl, hafter⟩ := exists_last_close hclose
        rw [foldl_apply_close, foldl_apply_eq_opened_iff hafter] at hopen
        exact .inl ⟨before, after, rfl, hafter, by simpa using hopen⟩
      · exact .inr ⟨hclose, (foldl_apply_eq_opened_iff hclose).1 hopen⟩
    · rintro (⟨before, after, rfl, hafter, hodd⟩ | ⟨hclose, hcount⟩)
      · rw [foldl_apply_close, foldl_apply_eq_opened_iff hafter]
        exact .inl ⟨rfl, hodd⟩
      · exact (foldl_apply_eq_opened_iff hclose).2 hcount
  · rw [getElem?_trace, getElem?_trace, Option.some_inj]
    constructor
    · intro hsame
      by_contra hclose
      have hclosed := @foldl_apply_eq_opened_iff .closed _ hclose
      have hopened := @foldl_apply_eq_opened_iff .opened _ hclose
      rw [hsame, hopened] at hclosed
      simp [← Nat.not_even_iff_odd] at hclosed
    · intro hclose
      obtain ⟨before, after, rfl, -⟩ := exists_last_close hclose
      rw [foldl_apply_close, foldl_apply_close]
  · have htrace := drop_trace start (before ++ [.close]) after
    rw [List.append_assoc, List.singleton_append, List.length_append, List.length_singleton,
      foldl_apply_close] at htrace
    rw [htrace]
    rfl

end LandingPage.Disclosure
