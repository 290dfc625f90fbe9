import LandingPage.Proofs.Content.Anchors

/-!
# Which fault the check reports

The check goes through the identifiers before it looks at any link, and it stops at the first fault.
So a repeated identifier wins over every link, the repetition that is reported is the one completed
first, and of the links the first one counts that leads to no section. A link to the top of the page
or away from it is never looked at, and no link leads to an empty identifier.
-/
namespace LandingPage

/-- The identifier at this position stands before it too. -/
def RepeatsAt (ids : List String) (i : Nat) : Prop :=
  ∃ id, ids[i]? = some id ∧ id ∈ ids.take i

def NavLink.Misses (sections : List String) (link : NavLink) (anchor : String) : Prop :=
  anchor ≠ "" ∧ link.target = "#" ++ anchor ∧ anchor ∉ sections

namespace NavLink

private theorem reaches_iff_forall_not_misses {sections : List String} {link : NavLink} :
    link.Reaches sections ↔ ∀ anchor, ¬ link.Misses sections anchor := by
  simp only [reaches_iff, Misses, Option.mem_def, anchor?_eq_some_iff, and_imp, not_and,
    Classical.not_not]

private theorem not_reaches_and_target_iff {sections : List String} {link : NavLink}
    {anchor : String} :
    ¬ link.Reaches sections ∧ link.target = "#" ++ anchor ↔ link.Misses sections anchor := by
  rw [reaches_iff_forall_not_misses]
  constructor
  · rintro ⟨hmisses, htarget⟩
    obtain ⟨found, hfound⟩ := Classical.not_forall_not.1 hmisses
    have hanchor : anchor = found := (String.append_right_inj "#").1 (htarget.symm.trans hfound.2.1)
    exact hanchor ▸ hfound
  · exact fun hmisses => ⟨fun hnone => hnone anchor hmisses, hmisses.2.1⟩

private theorem fault?_eq_none_of_target {sections : List String} {link : NavLink}
    (htarget : link.target.toList.head? ≠ some '#' ∨ link.target = "#") :
    link.fault? sections = none :=
  fault?_eq_none_iff.2 (htarget.elim .inl fun htop => .inr (.inl htop))

private theorem fault?_filter_ne_empty (sections : List String) (link : NavLink) :
    link.fault? (sections.filter (· ≠ "")) = link.fault? sections := by
  unfold fault?
  cases hanchor : link.anchor? with
  | none => rfl
  | some anchor =>
    have hne : anchor ≠ "" := (anchor?_eq_some_iff.1 hanchor).1
    simp [hne]

end NavLink

private def RepeatsAfter (seen ids : List String) (i : Nat) : Prop :=
  ∃ id, ids[i]? = some id ∧ (id ∈ seen ∨ id ∈ ids.take i)

private theorem repeatsAfter_succ {seen ids : List String} {id : String} {i : Nat} :
    RepeatsAfter seen (id :: ids) (i + 1) ↔ RepeatsAfter (id :: seen) ids i := by
  simp only [RepeatsAfter, List.getElem?_cons_succ, List.take_succ_cons, List.mem_cons]
  simp only [or_assoc, or_left_comm]

private theorem repeatsAfter_zero {seen ids : List String} {id : String} :
    RepeatsAfter seen (id :: ids) 0 ↔ id ∈ seen := by
  simp [RepeatsAfter]

/-- The induction moves the identifiers one by one into `seen`, so positions go down by one. -/
private theorem firstRepeated_eq_some_iff_after {seen ids : List String} {id : String} :
    firstRepeated seen ids = some id ↔
      ∃ i, ids[i]? = some id ∧ RepeatsAfter seen ids i ∧ ∀ j < i, ¬ RepeatsAfter seen ids j := by
  induction ids generalizing seen with
  | nil => simp [firstRepeated]
  | cons first ids ih =>
    by_cases hseen : first ∈ seen
    · rw [firstRepeated, if_pos hseen, Option.some_inj]
      constructor
      · rintro rfl
        exact ⟨0, rfl, repeatsAfter_zero.2 hseen, by simp⟩
      · rintro ⟨i, hid, -, hleast⟩
        cases i with
        | zero => exact Option.some_inj.1 hid
        | succ i => exact absurd (repeatsAfter_zero.2 hseen) (hleast 0 i.succ_pos)
    · rw [firstRepeated, if_neg hseen, ih]
      constructor
      · rintro ⟨i, hid, hrepeats, hleast⟩
        refine ⟨i + 1, hid, repeatsAfter_succ.2 hrepeats, fun j hj => ?_⟩
        cases j with
        | zero => exact fun hzero => hseen (repeatsAfter_zero.1 hzero)
        | succ j => exact fun hj' => hleast j (Nat.lt_of_succ_lt_succ hj) (repeatsAfter_succ.1 hj')
      · rintro ⟨i, hid, hrepeats, hleast⟩
        cases i with
        | zero => exact absurd (repeatsAfter_zero.1 hrepeats) hseen
        | succ i =>
          refine ⟨i, hid, repeatsAfter_succ.1 hrepeats, fun j hj hj' => ?_⟩
          exact hleast (j + 1) (Nat.succ_lt_succ hj) (repeatsAfter_succ.2 hj')

private theorem firstRepeated_eq_some_iff {ids : List String} {id : String} :
    firstRepeated [] ids = some id ↔
      ∃ i, ids[i]? = some id ∧ RepeatsAt ids i ∧ ∀ j < i, ¬ RepeatsAt ids j := by
  have hafter (i : Nat) : RepeatsAfter [] ids i ↔ RepeatsAt ids i := by
    simp [RepeatsAfter, RepeatsAt]
  simp only [firstRepeated_eq_some_iff_after, hafter]

theorem checkAnchors_eq_duplicateSection_iff {sections : List String} {links : List NavLink}
    {id : String} :
    checkAnchors sections links = .error (.duplicateSection id) ↔
      firstRepeated [] sections = some id := by
  unfold checkAnchors
  cases firstRepeated [] sections with
  | some found => simp
  | none =>
    have hfault : links.findSome? (NavLink.fault? sections) ≠ some (.duplicateSection id) := by
      intro hfault
      obtain ⟨link, -, hlink⟩ := List.exists_of_findSome?_eq_some hfault
      unfold NavLink.fault? at hlink
      split at hlink
      · simp at hlink
      · split at hlink <;> simp at hlink
    cases hlinks : links.findSome? (NavLink.fault? sections) with
    | none => simp
    | some fault =>
      rw [hlinks, ne_eq, Option.some_inj] at hfault
      simpa using hfault

private theorem firstRepeated_eq_none_iff_nodup {ids : List String} :
    firstRepeated [] ids = none ↔ ids.Nodup := by
  simp [firstRepeated_eq_none_iff]

private theorem nodup_of_checkAnchors {sections : List String} {links : List NavLink}
    (h : ∀ id, checkAnchors sections links ≠ .error (.duplicateSection id)) : sections.Nodup := by
  rw [← firstRepeated_eq_none_iff_nodup]
  exact Option.eq_none_iff_forall_ne_some.2 fun id hid =>
    h id (checkAnchors_eq_duplicateSection_iff.2 hid)

theorem checkAnchors_eq_missingAnchor_iff_misses {sections : List String} (hsections : sections.Nodup)
    (links : List NavLink) {label anchor : String} :
    checkAnchors sections links = .error (.missingAnchor label anchor) ↔
      ∃ before link after, links = before ++ link :: after ∧
        (∀ earlier ∈ before, ∀ other, ¬ earlier.Misses sections other) ∧
        link.Misses sections anchor ∧ link.label = label := by
  have hlink (link : NavLink) :
      ¬ link.Reaches sections ∧ link.label = label ∧ link.target = "#" ++ anchor ↔
        link.Misses sections anchor ∧ link.label = label := by
    rw [and_left_comm, NavLink.not_reaches_and_target_iff, and_comm]
  rw [checkAnchors_eq_missingAnchor_iff hsections]
  simp only [hlink]
  simp only [NavLink.reaches_iff_forall_not_misses]

private theorem findSome?_fault?_filter (sections : List String) (links : List NavLink) :
    (links.filter fun link => link.target.toList.head? = some '#' ∧ link.target ≠ "#").findSome?
      (NavLink.fault? sections) = links.findSome? (NavLink.fault? sections) := by
  rw [← List.head?_filterMap, ← List.head?_filterMap, List.filterMap_filter]
  congr 2
  funext link
  split
  · rfl
  · rename_i houtside
    refine (NavLink.fault?_eq_none_of_target ?_).symm
    simpa only [decide_eq_true_iff, Classical.not_and_iff_not_or_not, Classical.not_not]
      using houtside

/-- The check has exactly three results. It reports the identifier at the least position that repeats
an earlier one, whatever the links are; else the first link that leads to an identifier which no
section has; else nothing. Links to the top of the page or away from it never matter, nor does an
empty identifier. -/
theorem checkAnchors_verdict (sections : List String) (links : List NavLink) :
    let result := checkAnchors sections links
    (∀ id, result = .error (.duplicateSection id) ↔
      ∃ i, sections[i]? = some id ∧ RepeatsAt sections i ∧ ∀ j < i, ¬ RepeatsAt sections j) ∧
    ((∃ id, result = .error (.duplicateSection id)) ↔ ¬ sections.Nodup) ∧
    (∀ label anchor, result = .error (.missingAnchor label anchor) ↔
      sections.Nodup ∧ ∃ before link after, links = before ++ link :: after ∧
        (∀ earlier ∈ before, ∀ other, ¬ earlier.Misses sections other) ∧
        link.Misses sections anchor ∧ link.label = label) ∧
    (result = .ok () ↔
      sections.Nodup ∧ ∀ link ∈ links, ∀ anchor, anchor ≠ "" → link.target = "#" ++ anchor →
        anchor ∈ sections) ∧
    checkAnchors sections
      (links.filter fun link => link.target.toList.head? = some '#' ∧ link.target ≠ "#") = result ∧
    (sections.Nodup → checkAnchors (sections.filter (· ≠ "")) links = result) := by
  intro result
  have hnodup (h : ∀ id, result ≠ .error (.duplicateSection id)) : sections.Nodup :=
    nodup_of_checkAnchors h
  refine ⟨fun id => ?_, ?_, fun label anchor => ?_, ?_, ?_, ?_⟩
  · exact checkAnchors_eq_duplicateSection_iff.trans firstRepeated_eq_some_iff
  · simp only [result, checkAnchors_eq_duplicateSection_iff, ← Option.isSome_iff_exists,
      ← firstRepeated_eq_none_iff_nodup, Option.isSome_iff_ne_none, ne_eq]
  · constructor
    · intro hmissing
      have hsections := hnodup fun id hid => by simp [hid] at hmissing
      exact ⟨hsections, (checkAnchors_eq_missingAnchor_iff_misses hsections links).1 hmissing⟩
    · rintro ⟨hsections, hfirst⟩
      exact (checkAnchors_eq_missingAnchor_iff_misses hsections links).2 hfirst
  · constructor
    · intro hok
      have hsections := hnodup fun id hid => by simp [hid] at hok
      refine ⟨hsections, fun link hlink anchor hne htarget => ?_⟩
      have hreaches := (checkAnchors_eq_ok_iff hsections links).1 hok link hlink
      exact NavLink.reaches_iff.1 hreaches anchor (NavLink.anchor?_eq_some_iff.2 ⟨hne, htarget⟩)
    · rintro ⟨hsections, hanchors⟩
      refine (checkAnchors_eq_ok_iff hsections links).2 fun link hlink => ?_
      refine NavLink.reaches_iff.2 fun anchor hanchor => ?_
      obtain ⟨hne, htarget⟩ := NavLink.anchor?_eq_some_iff.1 hanchor
      exact hanchors link hlink anchor hne htarget
  · simp only [result, checkAnchors, findSome?_fault?_filter]
  · intro hsections
    simp only [result, checkAnchors_of_nodup hsections, checkAnchors_of_nodup (hsections.filter _),
      funext (NavLink.fault?_filter_ne_empty sections)]

/-- The copy that ends first is reported, though another identifier has its copy later and a link
leads nowhere. -/
example : checkAnchors ["a", "", "", "a"] [⟨"Missing", "#x"⟩] = .error (.duplicateSection "") :=
  rfl

end LandingPage
