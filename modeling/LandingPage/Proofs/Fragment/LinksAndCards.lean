import LandingPage.Proofs.Fragment.Glyph
import LandingPage.View.Card
import LandingPage.View.Navigation

namespace LandingPage

open Html

private theorem link_inj {link link' : NavLink} {classes classes' : Option String}
    {onClick onClick' : Option Action} {k l : Cut}
    (h : (Html.element .a [⟨.href, link.target⟩] classes onClick (.text link.label)).cutBefore k =
      (Html.element .a [⟨.href, link'.target⟩] classes' onClick' (.text link'.label)).cutBefore l) :
    link = link' ∧ classes = classes' ∧ k = l := by
  simp only [cutBefore, Cut.tag_inj] at h
  obtain ⟨-, hattrs, hclasses⟩ := Markup.start_inj h.1
  obtain ⟨hlabel, hrest⟩ := Readable.text_tag (α := Action) h.2
  have htarget : link.target = link'.target := by simpa using hattrs
  exact ⟨NavLink.ext hlabel htarget, hclasses, (Cut.tag_inj.1 hrest).2⟩

private theorem readable_navLink :
    Readable fun drawn : ClassList × NavLink => navLink drawn.1 none drawn.2 := by
  intro drawn drawn' k l h
  obtain ⟨hlink, hclasses, hkl⟩ := link_inj h
  exact ⟨Prod.ext (ClassList.text?_inj.1 hclasses) hlink, hkl⟩

private theorem opens_navLink (drawn : ClassList × NavLink) (k : Cut) :
    ((navLink drawn.1 none drawn.2).cutBefore k).Opens :=
  ⟨_, _, _, _, rfl⟩

private theorem render_navLinkList (links : List NavLink) (classes : ClassList)
    (onNavigate : Option Action) :
    (navLinkList links classes onNavigate).render =
      (join ((links.map (classes, ·)).map fun drawn => navLink drawn.1 none drawn.2)).render := by
  rw [render_eq_iff]
  induction links with
  | nil => rfl
  | cons link links ih => exact congrArg ((navLink classes none link).write ++ ·) ih

theorem render_navLinkList_eq_iff {links links' : List NavLink} {classes classes' : ClassList}
    {onNavigate onNavigate' : Option Action} :
    (navLinkList links classes onNavigate).render = (navLinkList links' classes' onNavigate').render ↔
      links = links' ∧ (links = [] ∨ classes = classes') := by
  rw [render_navLinkList, render_navLinkList]
  constructor
  · intro h
    have hdrawn := (Readable.map readable_navLink opens_navLink Cut.not_opens_nil Cut.not_opens_nil
      (cutBefore_eq_of_render_eq h)).1
    have hlinks : links = links' := by
      have hsnd := congrArg (List.map Prod.snd) hdrawn
      simpa [Function.comp_def] using hsnd
    subst hlinks
    refine ⟨rfl, ?_⟩
    cases links with
    | nil => exact .inl rfl
    | cons link links => exact .inr (Prod.mk.inj (List.cons.inj hdrawn).1).1
  · rintro ⟨rfl, rfl | rfl⟩
    · rfl
    · rfl

private theorem readable_footerLink : Readable footerLink := by
  apply Readable.node rfl
  intro link link' k l h
  obtain ⟨hlink, -, hrest⟩ := @link_inj link link' _ _ none none _ _ h
  exact ⟨hlink, (Cut.tag_inj.1 hrest).2⟩

private theorem opens_footerLink (link : NavLink) (k : Cut) :
    ((footerLink link).cutBefore k).Opens :=
  ⟨_, _, _, _, rfl⟩

private theorem readable_footerColumn : Readable footerColumn := by
  apply Readable.node rfl
  intro column column' k l h
  simp only [join, cutBefore] at h
  obtain ⟨htitle, h⟩ := Readable.label rfl h
  obtain ⟨hlinks, hrest⟩ := Readable.map_items readable_footerLink opens_footerLink rfl h
  exact ⟨FooterColumn.ext htitle hlinks, (Cut.tag_inj.1 hrest).2⟩

private theorem tone_inj {tone tone' : Tone}
    (h : (ClassList.ofTexts ["rounded-2xl", "p-6", "sm:p-8", tone.background]).text? =
      (ClassList.ofTexts ["rounded-2xl", "p-6", "sm:p-8", tone'.background]).text?) :
    tone = tone' := by
  revert h
  cases tone <;> cases tone' <;> decide

private theorem readable_problemCard : Readable problemCard := by
  refine Readable.element rfl fun card card' k l _ hclasses h => ?_
  have htone := tone_inj hclasses
  rw [htone] at h
  simp only [join, cutBefore] at h
  obtain ⟨hcategory, h⟩ := Readable.label rfl h
  obtain ⟨hheadline, h⟩ := Readable.label rfl h
  obtain ⟨hbody, hrest⟩ := Readable.label rfl h
  exact ⟨ProblemCard.ext hcategory hheadline hbody htone, (Cut.tag_inj.1 hrest).2⟩

private theorem readable_styledGlyph (classes : String) :
    Readable fun icon => (styledGlyph icon classes : Html Action) := by
  intro icon icon' k l h
  obtain ⟨hdrawn, hrest⟩ := readable_glyph (x := (icon, .ofTexts [classes]))
    (y := (icon', .ofTexts [classes])) h
  exact ⟨(Prod.mk.inj hdrawn).1, hrest⟩

private theorem readable_howItWorksStep : Readable howItWorksStep := by
  apply Readable.node rfl
  intro item item' k l h
  simp only [join, cutBefore] at h
  obtain ⟨hicon, h⟩ := (readable_styledGlyph _).among rfl [] [] h
  obtain ⟨htitle, h⟩ := Readable.label rfl h
  obtain ⟨hbody, hrest⟩ := Readable.label rfl h
  exact ⟨Highlight.ext hicon htitle hbody, (Cut.tag_inj.1 hrest).2⟩

private theorem readable_featureHighlight : Readable featureHighlight := by
  have htexts : Readable fun texts : String × String =>
      (Html.plain .div [
        .styled .h3 "text-brand mb-1.5 text-lg font-semibold tracking-tight sm:mb-2 sm:text-xl" [
          .text texts.1],
        .styled .p "text-sm text-gray-600 sm:text-base" [.text texts.2]] : Html Action) := by
    apply Readable.node rfl
    intro texts texts' k l h
    simp only [join, cutBefore] at h
    obtain ⟨htitle, h⟩ := Readable.label rfl h
    obtain ⟨hbody, hrest⟩ := Readable.label rfl h
    exact ⟨Prod.ext htitle hbody, (Cut.tag_inj.1 hrest).2⟩
  apply Readable.node rfl
  intro item item' k l h
  simp only [join, cutBefore] at h
  obtain ⟨hicon, h⟩ := (readable_styledGlyph _).among rfl [] [] h
  obtain ⟨hitem, hrest⟩ := htexts (x := (item.title, item.body)) (y := (item'.title, item'.body)) h
  obtain ⟨htitle, hbody⟩ := Prod.mk.inj hitem
  exact ⟨Highlight.ext hicon htitle hbody, (Cut.tag_inj.1 hrest).2⟩

/-- The text of a document that is drawn from content alone determines the content. -/
private theorem render_eq_iff_of_readable {β : Type} {draw : β → Html Action}
    (hread : Readable draw) {x y : β} : (draw x).render = (draw y).render ↔ x = y :=
  ⟨fun h => (hread (cutBefore_eq_of_render_eq h)).1, fun h => h ▸ rfl⟩

/-- Two texts of one renderer are the same for the same content only: the links in order and, if there
are any, the distinct class names in order; the title and the links of a column; the texts and the tone
of a problem card; the icon and the texts of a highlight, both beside and above its text. What a click
on the links does and where the column stands changes nothing in them. -/
theorem renderers_tell_content :
    (∀ links links' classes classes' onNavigate onNavigate',
      (navLinkList links classes onNavigate).render =
          (navLinkList links' classes' onNavigate').render ↔
        links = links' ∧ (links = [] ∨ classes.names = classes'.names)) ∧
    (∀ position position' column column',
      (keyedFooterColumn position column).document.render =
          (keyedFooterColumn position' column').document.render ↔
        column.title = column'.title ∧ column.links = column'.links) ∧
    (∀ card card', (problemCard card).render = (problemCard card').render ↔ card = card') ∧
    (∀ item item', (featureHighlight item).render = (featureHighlight item').render ↔
      item = item') ∧
    ∀ item item', (howItWorksStep item).render = (howItWorksStep item').render ↔ item = item' := by
  refine ⟨?_, ?_, fun _ _ => render_eq_iff_of_readable readable_problemCard,
    fun _ _ => render_eq_iff_of_readable readable_featureHighlight,
    fun _ _ => render_eq_iff_of_readable readable_howItWorksStep⟩
  · intro links links' classes classes' onNavigate onNavigate'
    rw [render_navLinkList_eq_iff, ClassList.ext_iff]
  · intro position position' column column'
    rw [keyedFooterColumn, keyedFooterColumn, render_eq_iff_of_readable readable_footerColumn,
      FooterColumn.ext_iff]

end LandingPage
