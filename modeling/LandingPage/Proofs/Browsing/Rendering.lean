import LandingPage.Proofs.Browsing.Page

/-!
# Rendering afresh

What a step of a visit shows follows from the entry that it leads to. Nothing else is carried over:
the page that a click hits was rendered afresh by the step before, so its menu is closed, and the one
line that a click can log is that of an opening.
-/
namespace LandingPage

def Route.renderingLine : Route → String
  | home => "INFO Rendering Landing page"
  | notFound => "INFO Rendering NotFound page"

private theorem Log.Event.line_pageRendered (route : Route) :
    (pageRendered route).line = route.renderingLine := by
  cases route <;> decide

def isAbsolute (path : String) : Bool :=
  path.toList.head? = some '/'

def BrowsingStep.isAbsolute : BrowsingStep → Bool
  | visit path => LandingPage.isAbsolute path
  | go _ | click _ => true

private theorem Route.ofPath_eq_of_isAbsolute {path : String} (habsolute : isAbsolute path) :
    ofPath path = if path = "/" ∨ path = "//" then home else notFound := by
  have hempty : path ≠ "" := by
    rintro rfl
    exact absurd habsolute (by decide)
  split
  · rename_i hslashes
    exact ofPath_eq_home_iff.2 (.inr hslashes)
  · rename_i hslashes
    cases hroute : ofPath path with
    | home =>
      rcases ofPath_eq_home_iff.1 hroute with hpath | hpath
      · exact absurd hpath hempty
      · exact absurd hpath hslashes
    | notFound => rfl

namespace BrowsingSession

private theorem absolute_entries_moved {s : BrowsingSession} (hfresh : s.Fresh)
    {move : BrowsingStep} (hentries : ∀ entry ∈ s.history.entries, isAbsolute entry)
    (hmove : move.isAbsolute) :
    ∀ entry ∈ (s.moved move).entries, isAbsolute entry := by
  intro entry hentry
  cases move with
  | visit path =>
    rcases History.mem_entries_push hentry with hold | rfl
    · exact hentries entry hold
    · exact hmove
  | go n =>
    rw [moved, History.entries_go] at hentry
    exact hentries entry hentry
  | click element =>
    by_cases hhit : s.Hits .notFound element
    · rw [moved_of_hits hhit] at hentry
      rcases History.mem_entries_push hentry with hold | rfl
      · exact hentries entry hold
      · decide
    · rw [moved_of_not_hits hfresh hhit] at hentry
      exact hentries entry hentry

private theorem absolute_entries_steps {s : BrowsingSession} (hfresh : s.Fresh)
    {moves : List BrowsingStep} (hentries : ∀ entry ∈ s.history.entries, isAbsolute entry)
    (hmoves : ∀ move ∈ moves, move.isAbsolute) :
    ∀ entry ∈ (s.steps moves).history.entries, isAbsolute entry := by
  induction moves generalizing s with
  | nil => exact hentries
  | cons move moves ih =>
    have hstep := absolute_entries_moved hfresh hentries (hmoves move List.mem_cons_self)
    exact ih (fresh_step s move) hstep fun later hlater => hmoves later (List.mem_cons_of_mem _ hlater)

private theorem absolute_current {moves : List BrowsingStep}
    (hmoves : ∀ move ∈ moves, move.isAbsolute) :
    isAbsolute (start.steps moves).history.current :=
  absolute_entries_steps (fresh_start_steps []) (by decide) hmoves _
    (start.steps moves).history.current_mem_entries

/-- The step opens the menu of a landing page, which the step before rendered. -/
def Opens (s : BrowsingSession) (move : BrowsingStep) : Prop :=
  ∃ element, move = .click element ∧ s.Hits .home element

private theorem clickLog_of_opens {s : BrowsingSession} {move : BrowsingStep}
    (hopens : s.Opens move) :
    s.clickLog move = [.menuSet .opened] := by
  obtain ⟨element, rfl, hhit⟩ := hopens
  exact clickLog_of_hits hhit

private theorem clickLog_of_not_opens {s : BrowsingSession} (hfresh : s.Fresh) {move : BrowsingStep}
    (hopens : ¬ s.Opens move) : s.clickLog move = [] := by
  cases move with
  | visit path => rfl
  | go n => rfl
  | click element => exact clickLog_of_not_hits hfresh fun hhit => hopens ⟨element, rfl, hhit⟩

/-- The log of a step is the line of its rendering, after that of an opening if there was one. -/
theorem lines_report {s : BrowsingSession} (hfresh : s.Fresh) {move : BrowsingStep} {route : Route}
    (hroute : .ofPath (s.moved move).current = route) :
    let lines := (s.report move).log.map Log.Event.line
    (s.Opens move → lines = ["DEBUG mobile menu open", route.renderingLine]) ∧
    (¬ s.Opens move → lines = [route.renderingLine]) := by
  intro lines
  have hlines : lines = (s.clickLog move).map Log.Event.line ++ [route.renderingLine] := by
    rw [← Log.Event.line_pageRendered, ← hroute]
    exact List.map_append
  constructor
  · intro hopens
    rw [hlines, clickLog_of_opens hopens]
    rfl
  · intro hopens
    rw [hlines, clickLog_of_not_opens hfresh hopens]
    rfl

private theorem closing_not_mem (route : Route) {line : String}
    (hline : line = "DEBUG mobile menu closed" ∨ line = "DEBUG mobile menu closed by navigation") :
    line ∉ ["DEBUG mobile menu open", route.renderingLine] := by
  rcases hline with rfl | rfl <;> cases route <;> decide

private theorem report_eq_of_rendered_eq {s s' : BrowsingSession} {move move' : BrowsingStep}
    (h : (s'.step move').rendered = (s.step move).rendered) :
    (s'.report move').clickables = (s.report move).clickables ∧
    (s'.report move').htmlBytes = (s.report move).htmlBytes ∧
    (s'.report move').log.getLast? = (s.report move).log.getLast? := by
  rw [rendered_step, rendered_step, Option.some_inj, page_inj] at h
  have hroute : Route.ofPath (s'.moved move').current = .ofPath (s.moved move).current := h
  simp only [report, app, hroute, List.getLast?_concat, and_self]

/-- In a visit to absolute paths, what a step shows follows from the entry that it leads to, the same
in every visit, and the log of a step is the line of its rendering, after the line of an opening if
the step opens the menu of a landing page. -/
theorem reports_eq_of_entry {moves : List BrowsingStep} (hmoves : ∀ move ∈ moves, move.isAbsolute)
    {n : Nat} {move : BrowsingStep} (hmove : moves[n]? = some move) :
    let before := start.steps (moves.take n)
    let after := start.steps (moves.take (n + 1))
    let entry := after.history.current
    let route : Route := if entry = "/" ∨ entry = "//" then .home else .notFound
    ∃ report, (start.reports moves)[n]? = some report ∧
    report.path = entry ∧ after.rendered = some (page route) ∧
    report.clickables = (page route).clickables.length ∧
    report.htmlBytes = (page route).render.utf8ByteSize ∧
    (∀ moves' n' report', (start.reports moves')[n']? = some report' →
      (start.steps (moves'.take (n' + 1))).rendered = after.rendered →
      report'.clickables = report.clickables ∧ report'.htmlBytes = report.htmlBytes ∧
        report'.log.getLast? = report.log.getLast?) ∧
    let lines := report.log.map Log.Event.line
    (before.Opens move → lines = ["DEBUG mobile menu open", route.renderingLine]) ∧
    (¬ before.Opens move → lines = [route.renderingLine]) ∧
    "DEBUG mobile menu closed" ∉ lines ∧ "DEBUG mobile menu closed by navigation" ∉ lines := by
  intro before after entry route
  have hfresh : before.Fresh := fresh_start_steps (moves.take n)
  have hafter : after = before.step move := steps_take_succ start hmove
  have habsolute : isAbsolute entry :=
    absolute_current fun move hmove => hmoves move (List.mem_of_mem_take hmove)
  have hentry : (before.moved move).current = entry := by
    change (before.step move).history.current = after.history.current
    rw [hafter]
  have hroute : .ofPath (before.moved move).current = route := by
    rw [hentry]
    exact Route.ofPath_eq_of_isAbsolute habsolute
  have hreport : (start.reports moves)[n]? = some (before.report move) := by
    rw [getElem?_reports, hmove, Option.map_some]
  have hlines := lines_report hfresh hroute
  refine ⟨before.report move, hreport, hentry, ?_, ?_, ?_, ?_, hlines.1, hlines.2, ?_⟩
  · rw [hafter]
    exact rendered_step_eq hroute
  · rw [← hroute]
    rfl
  · rw [← hroute]
    rfl
  · intro moves' n' report' hreport' hrendered
    rw [getElem?_reports] at hreport'
    obtain ⟨move', hmove', rfl⟩ := Option.map_eq_some_iff.1 hreport'
    rw [hafter, steps_take_succ start hmove'] at hrendered
    exact report_eq_of_rendered_eq hrendered
  · have hclosing {line : String} (hline : line = "DEBUG mobile menu closed" ∨
        line = "DEBUG mobile menu closed by navigation") :
        line ∉ (before.report move).log.map Log.Event.line := by
      by_cases hopens : before.Opens move
      · rw [hlines.1 hopens]
        exact closing_not_mem route hline
      · rw [hlines.2 hopens]
        exact fun hmem => closing_not_mem route hline (List.mem_cons_of_mem _ hmem)
    exact ⟨hclosing (.inl rfl), hclosing (.inr rfl)⟩

/-- After a way home from an unknown path, the trigger at the seventh place opens the menu. -/
theorem reports_eq_after_way_home :
    let moves := [BrowsingStep.visit "/x/", .click 0, .click 6]
    (∀ move ∈ moves, move.isAbsolute) ∧ moves[2]? = some (.click 6) ∧
    ∃ report, (start.reports moves)[2]? = some report ∧ report.path = "/" ∧
      report.log.map Log.Event.line =
        ["DEBUG mobile menu open", "INFO Rendering Landing page"] := by
  intro moves
  have hmoves : ∀ move ∈ moves, move.isAbsolute := by decide
  have hmove : moves[2]? = some (.click 6) := rfl
  refine ⟨hmoves, hmove, ?_⟩
  obtain ⟨report, hreport, hpath, -, -, -, -, hlines, -⟩ := reports_eq_of_entry hmoves hmove
  have hentry : (start.steps (moves.take 3)).history.current = "/" := by decide
  have hopens : (start.steps (moves.take 2)).Opens (.click 6) := by
    have hhome : (start.steps (moves.take 2)).rendered = some (page .home) :=
      rendered_step_eq (by decide)
    have htarget : ((start.steps (moves.take 2)).target? 6).any (Route.isLive .home) := by
      rw [target?, hhome]
      decide
    exact ⟨6, rfl, hhome, (Option.any_eq_true _ _).1 htarget⟩
  refine ⟨report, hreport, hpath.trans hentry, ?_⟩
  have hlines := hlines hopens
  rw [hentry] at hlines
  exact hlines

end BrowsingSession

end LandingPage
