import LandingPage.Proofs.Browsing.Page
import LandingPage.Proofs.Fragment.Basic
import LandingPage.Proofs.Html.WellFormed
import LandingPage.Proofs.Menu.Coherence

namespace LandingPage

open Html

private theorem distinctAttrs_glyph {α : Type} (icon : Icon) (classes : ClassList) :
    (glyph icon classes : Html α).DistinctAttrs := by
  have hattrs : (glyphAttrs.map Attr.name).Nodup := by decide
  cases icon <;> simp [glyph, hattrs, Icon.shapes, Icon.rule, Icon.stroke]

private theorem distinctAttrs_styledGlyph {α : Type} (icon : Icon) (classes : String) :
    (styledGlyph icon classes : Html α).DistinctAttrs :=
  distinctAttrs_glyph icon _

private theorem distinctAttrs_menuTrigger (state : Disclosure) (onClick : Action) :
    (menuTrigger state onClick).DistinctAttrs := by
  simp [menuTrigger, distinctAttrs_styledGlyph]

private theorem distinctAttrs_codeToken (token : Token) : (codeToken token).DistinctAttrs := by
  unfold codeToken
  cases token.kind.colour? <;> simp

private theorem distinctAttrs_planCard (index : Nat) (plan : PricingPlan) :
    (planCard index plan).DistinctAttrs := by
  have hbadge : planBadge.DistinctAttrs := by simp [planBadge]
  have hbutton : salesButton.DistinctAttrs := by simp [salesButton]
  have hfeature (feature : String) : (planFeature feature).DistinctAttrs := by
    simp [planFeature, distinctAttrs_styledGlyph]
  simp [planCard, hfeature, hbadge, hbutton]

private theorem distinctAttrs_of_mem_planCards {index : Nat} {plans : List PricingPlan}
    {card : Html Action} (hcard : card ∈ planCards index plans) : card.DistinctAttrs := by
  rw [planCards_eq_mapIdx] at hcard
  obtain ⟨i, hi, rfl⟩ := List.mem_mapIdx.1 hcard
  exact distinctAttrs_planCard _ _

private theorem distinctAttrs_fragment (p : Fragment) : p.html.DistinctAttrs := by
  cases p with
  | navLinks links classes onNavigate => simp [Fragment.html, navLinkList, navLink]
  | footerColumn column => simp [Fragment.html, LandingPage.footerColumn, footerLink]
  | problemCard card => simp [Fragment.html, LandingPage.problemCard]
  | featureHighlight item =>
    simp [Fragment.html, LandingPage.featureHighlight, distinctAttrs_styledGlyph]
  | howItWorksStep item =>
    simp [Fragment.html, LandingPage.howItWorksStep, distinctAttrs_styledGlyph]
  | codeToken token => exact distinctAttrs_codeToken token
  | codeLine line => simp [Fragment.html, LandingPage.codeLine, distinctAttrs_codeToken]
  | planCard index plan => exact distinctAttrs_planCard index plan
  | pricingSection plans =>
    have hcards : ∀ card ∈ planCards 0 plans, card.DistinctAttrs := fun card hcard =>
      distinctAttrs_of_mem_planCards hcard
    simpa [Fragment.html, LandingPage.pricingSection, sectionHeading] using hcards

private theorem distinctAttrs_header (menu : Disclosure) : (header menu).DistinctAttrs := by
  cases menu <;> decide

private theorem distinctAttrs_page (route : Route) : (page route).DistinctAttrs := by
  cases route <;> decide +kernel

/-- Whatever an icon, a trigger or a fragment of the page is drawn from, the text of it is well
formed, and so are the texts of every render of every session and of the page at every path. -/
theorem wellFormed_drawn :
    (∀ icon classes, WellFormed (glyph icon classes : Html Action).render) ∧
    (∀ state onClick, WellFormed (menuTrigger state onClick).render) ∧
    (∀ p : Fragment, WellFormed p.html.render) ∧
    (∀ clicks, ∀ doc ∈ MenuSession.documents clicks, WellFormed doc.render) ∧
    ∀ path, WellFormed (app path).1.render := by
  refine ⟨fun icon classes => ?_, fun state onClick => ?_, fun p => ?_, fun clicks doc hdoc => ?_,
    fun path => ?_⟩
  · exact wellFormed_render (distinctAttrs_glyph icon classes)
  · exact wellFormed_render (distinctAttrs_menuTrigger state onClick)
  · exact wellFormed_render (distinctAttrs_fragment p)
  · rw [MenuSession.documents_eq] at hdoc
    obtain ⟨menu, -, rfl⟩ := List.mem_map.1 hdoc
    exact wellFormed_render (distinctAttrs_header menu)
  · exact wellFormed_render (distinctAttrs_page (.ofPath path))

end LandingPage
