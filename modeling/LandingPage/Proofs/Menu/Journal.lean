import LandingPage.Proofs.Menu.Header
import Mathlib.Data.List.Basic
import Mathlib.Data.List.Induction

/-!
# The log as a journal of the menu

A click that sets the menu logs one event, and the event tells the state that the menu is set to, so
the renders can be read back from the log: the mount and one for each line. The panel links are the
delicate case, because their handler is silent when its render is not open; they log all the same
since only open renders have a panel.
-/
namespace LandingPage

def Log.Event.menu? : Log.Event → Option Disclosure
  | menuSet state => some state
  | menuClosedByNavigation => some .closed
  | scrollKept | pageRendered _ | contentFault _ => none

/-- No other line reads like the one that an opening logs. -/
private theorem Log.Event.menu?_eq_opened_iff (event : Log.Event) :
    event.menu? = some .opened ↔ event.line = "DEBUG mobile menu open" := by
  cases event with
  | menuSet state => cases state <;> decide
  | menuClosedByNavigation => decide
  | scrollKept => decide
  | pageRendered route => cases route <;> decide
  | contentFault error =>
    have hfirst : (contentFault error).line.toList.head? = some 'W' := by
      simp [line, level, Level.name]
    refine ⟨fun h => by simp [menu?] at h, fun h => ?_⟩
    rw [h] at hfirst
    exact absurd hfirst (by decide)

private theorem Log.Event.line_menuSet (state : Disclosure) :
    (menuSet state).line =
      if state = .opened then "DEBUG mobile menu open" else "DEBUG mobile menu closed" := by
  cases state <;> decide

namespace MenuSession

def journal (s : MenuSession) (clicks : List MenuClick) : List Log.Event :=
  (s.answers clicks).flatMap fun answer => answer.2.log

def lines (clicks : List MenuClick) : List String :=
  (start.journal clicks).map Log.Event.line

private theorem journal_concat (s : MenuSession) (clicks : List MenuClick) (click : MenuClick) :
    s.journal (clicks ++ [click]) =
      s.journal clicks ++ ((s.steps clicks).answer click).2.log := by
  simp [journal, answers_concat]

/-- All that a click can log. -/
theorem log_answer (s : MenuSession) (click : MenuClick) :
    (s.answer click).2.log =
      match s.hit? click with
      | some (shown, .trigger) => [.menuSet shown.toggle]
      | some (_, .panelLink) => [.menuClosedByNavigation]
      | some (_, .plain) => []
      | none => [] := by
  simp only [answer, report, actionOf_target?]
  rcases hhit : s.hit? click with _ | ⟨shown, role⟩
  · rfl
  · cases role with
    | trigger => rfl
    | panelLink =>
      have hopen := eq_opened_of_hit_panelLink hhit
      subst hopen
      rfl
    | plain => rfl

private theorem renders_step_eq_log (s : MenuSession) (click : MenuClick) :
    (s.step click).renders.map some =
      s.renders.map some ++ (s.answer click).2.log.map Log.Event.menu? := by
  rw [step_eq, log_answer]
  rcases s.hit? click with _ | ⟨shown, role⟩
  · simp
  · cases role <;> simp [renders_rerender, Log.Event.menu?]

/-- The renders of a session read back from its log. -/
theorem renders_steps_eq_journal (clicks : List MenuClick) :
    (start.steps clicks).renders.map some =
      some .initial :: (start.journal clicks).map Log.Event.menu? := by
  induction clicks using List.reverseRecOn with
  | nil => rfl
  | append_singleton clicks click ih =>
    rw [steps_concat, renders_step_eq_log, ih, journal_concat, List.map_append, List.cons_append]

private theorem length_renders_steps (clicks : List MenuClick) :
    (start.steps clicks).renders.length = (start.journal clicks).length + 1 := by
  have h := congrArg List.length (renders_steps_eq_journal clicks)
  simpa using h

private theorem getLast?_renders_steps (clicks : List MenuClick) :
    (some .initial :: (start.journal clicks).map Log.Event.menu?).getLast? =
      some (some (start.steps clicks).newest) := by
  rw [← renders_steps_eq_journal, renders, List.map_append, List.map_singleton,
    List.getLast?_concat]

theorem newest_steps_eq_opened_iff (clicks : List MenuClick) :
    (start.steps clicks).newest = .opened ↔
      (lines clicks).getLast? = some "DEBUG mobile menu open" := by
  have hnewest := getLast?_renders_steps clicks
  rcases List.eq_nil_or_concat' (start.journal clicks) with hnone | ⟨events, event, hlast⟩
  · rw [hnone, List.map_nil, List.getLast?_singleton, Option.some_inj, Option.some_inj] at hnewest
    rw [lines, hnone, ← hnewest]
    decide
  · rw [hlast, List.map_append, List.map_singleton, ← List.cons_append, List.getLast?_concat,
      Option.some_inj] at hnewest
    rw [lines, hlast, List.map_append, List.map_singleton, List.getLast?_concat, Option.some_inj,
      ← Log.Event.menu?_eq_opened_iff, hnewest, Option.some_inj]

private theorem lines_concat (clicks : List MenuClick) (click : MenuClick) :
    lines (clicks ++ [click]) =
      lines clicks ++ ((start.steps clicks).answer click).2.log.map Log.Event.line := by
  rw [lines, journal_concat, List.map_append, lines]

private theorem length_log_answer (s : MenuSession) (click : MenuClick) :
    (s.answer click).2.log.length = if (s.answer click).1.isHandled then 1 else 0 := by
  rw [log_answer, isHandled_answer]
  rcases s.hit? click with _ | ⟨shown, role⟩
  · rfl
  · cases role <;> rfl

private theorem eq_opened_of_closeMenu {s : MenuSession} {click : MenuClick} {shown : Disclosure}
    (h : actionOf (s.target? click) = some (.closeMenu shown)) : shown = .opened := by
  rw [actionOf_target?] at h
  obtain ⟨⟨state, role⟩, hhit, haction⟩ := Option.bind_eq_some_iff.1 h
  cases role with
  | trigger => simp [Role.action?] at haction
  | panelLink =>
    have hstate : state = shown := by simpa [Role.action?] using haction
    rw [← hstate]
    exact eq_opened_of_hit_panelLink hhit
  | plain => simp [Role.action?] at haction

/-- The log of every session is a faithful journal: it has one line for each handled click and none
for any other, the line tells what the click did to the menu, and so the lines count the renders after
the mount and the last of them tells whether the menu is open. -/
theorem lines_faithful (clicks : List MenuClick) :
    let s := start.steps clicks
    s.renders.length = 1 + (lines clicks).length ∧
    (s.newest = .opened ↔ (lines clicks).getLast? = some "DEBUG mobile menu open") ∧
    ∀ click : MenuClick,
      let handled := (s.answer click).1.isHandled
      let logged := (s.answer click).2.log.map Log.Event.line
      let newest := (s.step click).newest
      lines (clicks ++ [click]) = lines clicks ++ logged ∧
      logged.length = (if handled then 1 else 0) ∧
      (∀ shown, actionOf (s.target? click) = some (.closeMenu shown) → shown = .opened) ∧
      match s.hit? click with
      | some (shown, .trigger) =>
        handled ∧ newest = shown.toggle ∧
          logged =
            [if newest = .opened then "DEBUG mobile menu open" else "DEBUG mobile menu closed"]
      | some (shown, .panelLink) =>
        handled ∧ shown = .opened ∧ newest = .closed ∧
          logged = ["DEBUG mobile menu closed by navigation"]
      | some (_, .plain) => ¬ handled
      | none => ¬ handled := by
  intro s
  refine ⟨?_, newest_steps_eq_opened_iff clicks, ?_⟩
  · rw [length_renders_steps, lines, List.length_map, Nat.add_comm]
  intro click handled logged menu
  have hlogged : logged = _ := congrArg (List.map Log.Event.line) (log_answer s click)
  have hhandled : handled = _ := isHandled_answer s click
  have hmenu : menu = _ := congrArg newest (step_eq s click)
  refine ⟨lines_concat clicks click, ?_, fun shown => eq_opened_of_closeMenu, ?_⟩
  · rw [List.length_map]
    exact length_log_answer s click
  rcases hhit : s.hit? click with _ | ⟨shown, role⟩
  · rw [hhit] at hhandled
    simp [hhandled]
  · rw [hhit] at hlogged hhandled hmenu
    cases role with
    | trigger =>
      refine ⟨by simp [hhandled], hmenu, ?_⟩
      rw [hlogged, hmenu, List.map_singleton, Log.Event.line_menuSet]
      rfl
    | panelLink =>
      exact ⟨by simp [hhandled], eq_opened_of_hit_panelLink hhit, hmenu, hlogged⟩
    | plain => simp [hhandled]

/-- After an opening and a closing the trigger of the mount still opens and a link of the panel still
closes, and each logs its own line. -/
theorem lines_faithful_on_older_renders :
    let clicks : List MenuClick := [⟨6, none⟩, ⟨6, none⟩]
    let s := start.steps clicks
    let trigger : MenuClick := ⟨6, some 0⟩
    let link : MenuClick := ⟨8, some 1⟩
    (s.step trigger).newest = .opened ∧ (s.step link).newest = .closed ∧
    lines (clicks ++ [trigger]) =
      ["DEBUG mobile menu open", "DEBUG mobile menu closed", "DEBUG mobile menu open"] ∧
    lines (clicks ++ [link]) =
      ["DEBUG mobile menu open", "DEBUG mobile menu closed",
        "DEBUG mobile menu closed by navigation"] := by
  intro clicks s trigger link
  obtain ⟨-, -, hclicks⟩ := lines_faithful clicks
  have hbefore : lines clicks = ["DEBUG mobile menu open", "DEBUG mobile menu closed"] := by decide
  have htrigger : s.hit? trigger = some (.closed, .trigger) := by decide
  have hlink : s.hit? link = some (.opened, .panelLink) := by decide
  obtain ⟨htriggerLines, -, -, htriggerDoes⟩ := hclicks trigger
  obtain ⟨hlinkLines, -, -, hlinkDoes⟩ := hclicks link
  rw [htrigger] at htriggerDoes
  rw [hlink] at hlinkDoes
  obtain ⟨-, hopens, hopening⟩ := htriggerDoes
  obtain ⟨-, -, hcloses, hclosing⟩ := hlinkDoes
  refine ⟨hopens, hcloses, ?_, ?_⟩
  · rw [htriggerLines, hopening, hopens, hbefore]
    rfl
  · rw [hlinkLines, hclosing, hbefore]
    rfl

end MenuSession

end LandingPage
