import LandingPage.Html.Writer
import LandingPage.View.Scroll

/-!
# Arriving at an address

Whether the page scrolls to its top is decided by the size of the part of the address from `#` on, and
whether a link leads into the page by what its target holds behind the `#`. The two rules agree on every
text that can stand there, since nothing but the `#` itself takes a single byte.
-/
namespace LandingPage

private theorem Log.Event.line_scrollKept :
    scrollKept.line = "DEBUG keeping scroll position for anchored url" := by decide

private theorem NavLink.isSome_anchor?_iff {link : NavLink}
    (h : link.target = "" ∨ link.target.toList.head? = some '#') :
    link.anchor?.isSome ↔ 1 < link.target.utf8ByteSize := by
  have hanchor : link.anchor?.isSome ↔ ∃ anchor, anchor ≠ "" ∧ link.target = "#" ++ anchor := by
    simp only [Option.isSome_iff_exists, anchor?_eq_some_iff]
  rw [hanchor]
  rcases h with hempty | hmark
  · simp [hempty]
  · obtain ⟨rest, hrest⟩ := List.head?_eq_some_iff.1 hmark
    have htarget : link.target = "#" ++ String.ofList rest := by
      rw [← String.toList_inj, hrest, String.toList_append, String.toList_ofList]
      simp
    have hsize : ("#" ++ String.ofList rest).utf8ByteSize = 1 + (String.ofList rest).utf8ByteSize :=
      String.utf8ByteSize_append
    rw [htarget, hsize]
    calc (∃ anchor, anchor ≠ "" ∧ "#" ++ String.ofList rest = "#" ++ anchor)
        ↔ String.ofList rest ≠ "" := by simp
      _ ↔ (String.ofList rest).utf8ByteSize ≠ 0 := not_congr String.utf8ByteSize_eq_zero_iff.symm
      _ ↔ 1 < 1 + (String.ofList rest).utf8ByteSize := by omega

private theorem Window.isAnchored_iff {window : Window} :
    window.isAnchored = true ↔ ∃ hash, window.hash = some hash ∧ 1 < hash.utf8ByteSize := by
  obtain ⟨hash⟩ := window
  cases hash <;> simp [isAnchored]

private theorem arrive_of_isAnchored {window : Window} (h : window.isAnchored = true) :
    arrive (some window) = ⟨[], [.scrollKept]⟩ :=
  if_pos h

private theorem arrive_of_not_isAnchored {window : Window} (h : ¬ window.isAnchored = true) :
    arrive (some window) = ⟨[(0, 0)], []⟩ :=
  if_neg h

private theorem scrolls_arrive_eq_nil_iff (window : Window) :
    (arrive (some window)).scrolls = [] ↔ window.isAnchored = true := by
  by_cases h : window.isAnchored = true
  · simp [arrive_of_isAnchored h, h]
  · simp [arrive_of_not_isAnchored h, h]

/-- In a window the page keeps its position for the addresses that a link with an anchor leads to, and
for no other. Whatever can be read of the address, it either scrolls to the top once or logs one line
and no more, the line if and only if more than one byte is read; without a window it does neither. All
this happens when the landing page appears, and no part of the page depends on it. -/
theorem arrival_fits_anchors :
    (∀ label hash, hash = "" ∨ hash.toList.head? = some '#' →
      ((arrive (some ⟨some hash⟩)).scrolls = [] ↔
        (⟨label, hash⟩ : NavLink).anchor?.isSome)) ∧
    arrive none = ⟨[], []⟩ ∧
    (∀ hash : Option String,
      let scrolls := (arrive (some ⟨hash⟩)).scrolls
      let lines := (arrive (some ⟨hash⟩)).log.map Log.Event.line
      let kept := ["DEBUG keeping scroll position for anchored url"]
      (scrolls = [(0, 0)] ∧ lines = [] ∨ scrolls = [] ∧ lines = kept) ∧
      (lines = kept ↔ ∃ text, hash = some text ∧ 1 < text.utf8ByteSize)) ∧
    ∀ window, (mountLanding window).2 = arrive window ∧
      ∀ window', (mountLanding window).1.render = (mountLanding window').1.render := by
  refine ⟨fun label hash hhash => ?_, rfl, fun hash => ?_, fun window => ⟨rfl, fun window' => rfl⟩⟩
  · have hanchor : (⟨label, hash⟩ : NavLink).anchor?.isSome ↔ 1 < hash.utf8ByteSize :=
      NavLink.isSome_anchor?_iff hhash
    rw [scrolls_arrive_eq_nil_iff, hanchor, Window.isAnchored_iff]
    simp
  · intro scrolls lines kept
    have hanchored : (⟨hash⟩ : Window).isAnchored = true ↔
        ∃ text, hash = some text ∧ 1 < text.utf8ByteSize := Window.isAnchored_iff
    rw [← hanchored]
    by_cases h : (⟨hash⟩ : Window).isAnchored = true
    · have hlines : lines = kept := by
        simp only [lines, arrive_of_isAnchored h, List.map_singleton, Log.Event.line_scrollKept, kept]
      have hscrolls : scrolls = [] := by simp only [scrolls, arrive_of_isAnchored h]
      exact ⟨.inr ⟨hscrolls, hlines⟩, fun _ => h, fun _ => hlines⟩
    · have hlines : lines = [] := by
        simp only [lines, arrive_of_not_isAnchored h, List.map_nil]
      have hscrolls : scrolls = [(0, 0)] := by simp only [scrolls, arrive_of_not_isAnchored h]
      refine ⟨.inl ⟨hscrolls, hlines⟩, fun hkept => ?_, fun hlong => absurd hlong h⟩
      exact absurd (hlines.symm.trans hkept) (by simp [kept])

/-- A single character of two bytes behind the mark is an anchor and keeps the position; the mark
alone is none and does not. -/
theorem arrival_fits_anchor_of_two_bytes :
    ("#é" = "" ∨ "#é".toList.head? = some '#') ∧
    ((arrive (some ⟨some "#é"⟩)).scrolls = [] ↔ (⟨"&", "#é"⟩ : NavLink).anchor?.isSome) ∧
    (⟨"&", "#é"⟩ : NavLink).anchor? = some "é" ∧
    ("#" = "" ∨ "#".toList.head? = some '#') ∧
    ((arrive (some ⟨some "#"⟩)).scrolls = [] ↔ (⟨"&", "#"⟩ : NavLink).anchor?.isSome) ∧
    (⟨"&", "#"⟩ : NavLink).anchor? = none := by
  have hletter : "#é" = "" ∨ "#é".toList.head? = some '#' := .inr (by decide)
  have hmark : "#" = "" ∨ "#".toList.head? = some '#' := .inr (by decide)
  exact ⟨hletter, arrival_fits_anchors.1 _ _ hletter, by decide, hmark,
    arrival_fits_anchors.1 _ _ hmark, by decide⟩

end LandingPage
