import LandingPage.Proofs.Content.Anchors
import LandingPage.Proofs.Html.Values
import LandingPage.Proofs.Menu.Coherence
import LandingPage.Session.Browsing
import Mathlib.Data.List.Nodup

/-!
# Links on the live page

A visit to the header changes the landing page in the header alone: the panel with its identifier and
its links comes and goes. The check of the content compares only the tables of the header and of the
footer with the sections; here the identifiers and the links of the whole page are put together, the
link of the first section and those of the panel included. The page for unknown paths leads nowhere
on itself.
-/
namespace LandingPage

open Html

variable {α : Type}

/-- The document with another document in the place of its header. -/
def Html.withHeader : Html α → Html α → Html α
  | empty, _ => empty
  | text content, _ => text content
  | element tag attrs classes onClick body, doc =>
    if tag = .header then doc else element tag attrs classes onClick (body.withHeader doc)
  | append first second, doc => append (first.withHeader doc) (second.withHeader doc)

private theorem Html.withHeader_eq_self {h : Html α} (doc : Html α)
    (hnone : ∀ e ∈ h.elements, e.tag ≠ .header) : h.withHeader doc = h := by
  induction h with
  | empty => rfl
  | text content => rfl
  | element tag attrs classes onClick body ih =>
    have htag : tag ≠ .header := hnone _ List.mem_cons_self
    rw [withHeader, if_neg htag, ih fun e he => hnone e (List.mem_cons_of_mem _ he)]
  | append first second ihFirst ihSecond =>
    rw [withHeader, ihFirst fun e he => hnone e (List.mem_append_left _ he),
      ihSecond fun e he => hnone e (List.mem_append_right _ he)]

def livePage (doc : Html Action) : Html Action :=
  (page .home).withHeader doc

/-- Below the header nothing of the page depends on the state of the menu. -/
private theorem livePage_header (menu : Disclosure) : livePage (header menu) = landing menu := by
  have hheader : (header .initial).withHeader (header menu) = header menu := rfl
  have hfooter : footer.withHeader (header menu) = footer :=
    withHeader_eq_self _ (by decide)
  rw [livePage, page, landing, styled, node, join, join, join, withHeader, if_neg (by decide),
    withHeader, withHeader, withHeader, hheader, hfooter, withHeader_eq_self _ (by decide +kernel)]
  rfl

private theorem ids_landing (menu : Disclosure) :
    (landing menu).ids =
      (if menu.isOpen then [mobileMenuId] else []) ++ SectionId.all.map SectionId.id := by
  cases menu <;> decide +kernel

private theorem linkTargets_landing (menu : Disclosure) :
    (landing menu).linkTargets =
      "/#" :: (navLinks.map NavLink.target ++
        ((if menu.isOpen then navLinks.map NavLink.target else []) ++
          SectionId.howItWorks.href :: (footerColumns.flatMap FooterColumn.links).map NavLink.target)) := by
  cases menu <;> decide +kernel

private theorem controls_landing (menu : Disclosure) :
    ((landing menu).elements.filter fun e => (e.attr? .ariaControls).isSome).map
        (fun e => (e.attr? .ariaControls, e.attr? .ariaExpanded)) =
      [(some mobileMenuId, some menu.ariaExpanded)] := by
  cases menu <;> decide +kernel

/-- The links of the tables pass the check of the content; besides them there are the logo, which does
not lead into the page, and the link of the first section, which is made from a section. -/
private theorem reaches_of_mem_linkTargets {menu : Disclosure} {target : String}
    (htarget : target ∈ (landing menu).linkTargets) (label : String) :
    (NavLink.mk label target).Reaches (SectionId.all.map SectionId.id) := by
  have htables : ∀ link ∈ navLinks ++ footerColumns.flatMap FooterColumn.links,
      link.Reaches (SectionId.all.map SectionId.id) :=
    (checkAnchors_eq_ok_iff (by decide) _).1 validate_eq_ok
  have htable {links : List NavLink}
      (hlinks : links ⊆ navLinks ++ footerColumns.flatMap FooterColumn.links)
      (hmem : target ∈ links.map NavLink.target) :
      (NavLink.mk label target).Reaches (SectionId.all.map SectionId.id) := by
    obtain ⟨link, hlink, rfl⟩ := List.mem_map.1 hmem
    exact htables link (hlinks hlink)
  have hnav := List.subset_append_left navLinks (footerColumns.flatMap FooterColumn.links)
  rw [linkTargets_landing, List.mem_cons, List.mem_append, List.mem_append, List.mem_cons] at htarget
  rcases htarget with rfl | hwide | hpanel | rfl | hfooter
  · exact .inl (by simp)
  · exact htable hnav hwide
  · cases menu with
    | closed => exact absurd hpanel List.not_mem_nil
    | opened => exact htable hnav hpanel
  · have hhref : SectionId.howItWorks.href = "#" ++ SectionId.howItWorks.id := by decide
    exact .inr (.inr ⟨_, by decide, hhref⟩)
  · exact htable (List.subset_append_right _ _) hfooter

/-- What the elements of a page say of each other. -/
structure LinksResolve (tags : List TagText) : Prop where
  distinct : (idsOf tags).Nodup
  anchors : ∀ target ∈ targetsOf tags, ∀ label,
    ∀ anchor ∈ (NavLink.mk label target).anchor?, (idsOf tags).count anchor = 1
  trigger : ∃ t controlled, (tags.filter fun tag => (tag.value? "aria-controls").isSome) = [t] ∧
    t.value? "aria-controls" = some controlled ∧
    (controlled ∈ idsOf tags ↔ t.value? "aria-expanded" = some "true")

theorem linksResolve_landing (menu : Disclosure) :
    LinksResolve ((landing menu).elements.map Element.tagText) where
  distinct := by
    rw [idsOf_elements, ids_landing]
    cases menu <;> decide
  anchors := by
    intro target htarget label anchor hanchor
    rw [targetsOf_elements] at htarget
    have hreaches := reaches_of_mem_linkTargets htarget label
    have hsection := NavLink.reaches_iff.1 hreaches anchor hanchor
    rw [idsOf_elements, ids_landing]
    refine List.count_eq_one_of_mem ?_ (List.mem_append_right _ hsection)
    cases menu <;> decide
  trigger := by
    have hcontrols : (fun tag : TagText => (tag.value? "aria-controls").isSome) ∘ Element.tagText =
        fun e : Element Action => (e.attr? .ariaControls).isSome :=
      funext fun e => congrArg Option.isSome (e.value?_tagText .ariaControls)
    obtain ⟨e, he, hvalues⟩ := List.map_eq_singleton_iff.1 (controls_landing menu)
    obtain ⟨hcontrolled, hexpanded⟩ := Prod.mk.inj hvalues
    refine ⟨e.tagText, mobileMenuId, ?_, ?_, ?_⟩
    · rw [List.filter_map, hcontrols, he, List.map_singleton]
    · rw [← hcontrolled]
      exact e.value?_tagText .ariaControls
    · have hvalue : e.tagText.value? "aria-expanded" = some menu.ariaExpanded := by
        rw [← hexpanded]
        exact e.value?_tagText .ariaExpanded
      rw [hvalue, idsOf_elements, ids_landing]
      cases menu <;> decide

/-- Whatever a visit to the header renders, the page around it has distinct identifiers, each of its
links into the page leads to exactly one element, and the trigger controls an element that is there
just if it says that the menu is open. The page at a path that does not lead home has no link into
itself. -/
theorem livePage_linksResolve :
    (∀ clicks, ∀ doc ∈ MenuSession.documents clicks,
      ∃ tags, readElements (livePage doc).render = some tags ∧ LinksResolve tags) ∧
    ∀ path, Route.ofPath path ≠ .home →
      ∃ tags, readElements (app path).1.render = some tags ∧
        ∀ target ∈ targetsOf tags, ∀ label, (NavLink.mk label target).anchor? = none := by
  constructor
  · intro clicks doc hdoc
    rw [MenuSession.documents_eq] at hdoc
    obtain ⟨menu, -, rfl⟩ := List.mem_map.1 hdoc
    rw [livePage_header]
    exact ⟨_, readElements_render _, linksResolve_landing menu⟩
  · intro path hpath
    refine ⟨_, readElements_render _, fun target htarget label => ?_⟩
    have hroute : (app path).1 = page .notFound := by
      unfold app
      cases hpage : Route.ofPath path with
      | home => exact absurd hpage hpath
      | notFound => rfl
    have htargets : (page .notFound).linkTargets = ["/"] := by decide
    rw [targetsOf_elements, hroute, htargets, List.mem_singleton] at htarget
    simp [htarget, NavLink.anchor?]

end LandingPage
