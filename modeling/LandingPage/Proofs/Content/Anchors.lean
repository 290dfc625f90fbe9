import LandingPage.Content.Anchors

namespace LandingPage

namespace NavLink

/-- The link does not lead into the page, or it leads to the top or to one of the sections. -/
def Reaches (sections : List String) (link : NavLink) : Prop :=
  link.target.toList.head? ≠ some '#' ∨ link.target = "#" ∨
    ∃ id ∈ sections, link.target = "#" ++ id

private theorem head?_eq_hash_iff {target : String} :
    target.toList.head? = some '#' ↔ ∃ rest, target = "#" ++ rest := by
  constructor
  · intro h
    obtain ⟨rest, hrest⟩ := List.head?_eq_some_iff.1 h
    refine ⟨String.ofList rest, ?_⟩
    rw [← String.toList_inj, hrest, String.toList_append, String.toList_ofList]
    simp
  · rintro ⟨rest, rfl⟩
    simp

theorem reaches_iff {sections : List String} {link : NavLink} :
    link.Reaches sections ↔ ∀ anchor ∈ link.anchor?, anchor ∈ sections := by
  constructor
  · intro hreaches anchor hanchor
    obtain ⟨hne, htarget⟩ := anchor?_eq_some_iff.1 hanchor
    rcases hreaches with hhead | htop | ⟨id, hid, hsection⟩
    · exact absurd (head?_eq_hash_iff.2 ⟨anchor, htarget⟩) hhead
    · have hempty : anchor = "" := (String.append_right_inj "#").1 (htarget.symm.trans htop)
      exact absurd hempty hne
    · rw [(String.append_right_inj "#").1 (htarget.symm.trans hsection)]
      exact hid
  · intro hanchors
    by_cases hhead : link.target.toList.head? = some '#'
    · obtain ⟨anchor, htarget⟩ := head?_eq_hash_iff.1 hhead
      by_cases hempty : anchor = ""
      · exact .inr (.inl (by rw [htarget, hempty]; rfl))
      · have hanchor := hanchors anchor (anchor?_eq_some_iff.2 ⟨hempty, htarget⟩)
        exact .inr (.inr ⟨anchor, hanchor, htarget⟩)
    · exact .inl hhead

theorem fault?_eq_none_iff {sections : List String} {link : NavLink} :
    link.fault? sections = none ↔ link.Reaches sections := by
  rw [reaches_iff, fault?]
  cases link.anchor? <;> simp

private theorem fault?_eq_missingAnchor_iff {sections : List String} {link : NavLink}
    {label anchor : String} :
    link.fault? sections = some (.missingAnchor label anchor) ↔
      ¬ link.Reaches sections ∧ link.label = label ∧ link.target = "#" ++ anchor := by
  rw [reaches_iff, fault?]
  cases hanchor : link.anchor? with
  | none => simp
  | some found =>
    obtain ⟨-, htarget⟩ := anchor?_eq_some_iff.1 hanchor
    by_cases hmem : found ∈ sections
    · simp [hmem]
    · simp [hmem, htarget]

end NavLink

theorem firstRepeated_eq_none_iff {seen ids : List String} :
    firstRepeated seen ids = none ↔ ids.Nodup ∧ ∀ id ∈ ids, id ∉ seen := by
  induction ids generalizing seen with
  | nil => simp [firstRepeated]
  | cons id ids ih =>
    by_cases hid : id ∈ seen
    · simp [firstRepeated, hid]
    · rw [firstRepeated, if_neg hid, ih, List.nodup_cons]
      simp only [List.mem_cons, forall_eq_or_imp, not_or, forall_and]
      constructor
      · rintro ⟨hids, hne, hseen⟩
        exact ⟨⟨fun hmem => hne id hmem rfl, hids⟩, hid, hseen⟩
      · rintro ⟨⟨hmem, hids⟩, -, hseen⟩
        exact ⟨hids, fun other hother he => hmem (he ▸ hother), hseen⟩

variable {sections : List String} (hsections : sections.Nodup) (links : List NavLink)

include hsections

theorem checkAnchors_of_nodup :
    checkAnchors sections links =
      (links.findSome? (NavLink.fault? sections)).elim (.ok ()) .error := by
  have hrepeated : firstRepeated [] sections = none :=
    firstRepeated_eq_none_iff.2 ⟨hsections, by simp⟩
  simp only [checkAnchors, hrepeated]
  cases links.findSome? (NavLink.fault? sections) <;> rfl

theorem checkAnchors_eq_ok_iff :
    checkAnchors sections links = .ok () ↔ ∀ link ∈ links, link.Reaches sections := by
  have hnone : links.findSome? (NavLink.fault? sections) = none ↔
      ∀ link ∈ links, link.Reaches sections := by
    simp only [List.findSome?_eq_none_iff, NavLink.fault?_eq_none_iff]
  rw [checkAnchors_of_nodup hsections, ← hnone]
  cases links.findSome? (NavLink.fault? sections) <;> simp

theorem checkAnchors_eq_missingAnchor_iff {label anchor : String} :
    checkAnchors sections links = .error (.missingAnchor label anchor) ↔
      ∃ before link after, links = before ++ link :: after ∧
        (∀ earlier ∈ before, earlier.Reaches sections) ∧
        ¬ link.Reaches sections ∧ link.label = label ∧ link.target = "#" ++ anchor := by
  have hsome : links.findSome? (NavLink.fault? sections) = some (.missingAnchor label anchor) ↔
      ∃ before link after, links = before ++ link :: after ∧
        (∀ earlier ∈ before, earlier.Reaches sections) ∧
        ¬ link.Reaches sections ∧ link.label = label ∧ link.target = "#" ++ anchor := by
    simp only [List.findSome?_eq_some_iff, NavLink.fault?_eq_none_iff,
      NavLink.fault?_eq_missingAnchor_iff, and_comm, and_assoc]
  rw [checkAnchors_of_nodup hsections, ← hsome]
  cases links.findSome? (NavLink.fault? sections) <;> simp

end LandingPage
