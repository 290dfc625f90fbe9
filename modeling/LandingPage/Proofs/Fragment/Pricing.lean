import LandingPage.Proofs.Html.Readable
import LandingPage.View.Section

namespace LandingPage

open Html

private theorem readable_planFeature : Readable planFeature :=
  (Readable.label rfl).among rfl [_] []

private theorem opens_planFeature (feature : String) (k : Cut) :
    ((planFeature feature).cutBefore k).Opens :=
  ⟨_, _, _, _, rfl⟩

private theorem price_eq {p q : Price} (hlabel : p.label = q.label)
    (hcustom : p.isCustom = q.isCustom) : p = q := by
  cases p <;> cases q <;> simp_all [Price.label, Price.isCustom]

/-- Only the card of a plan without a list price goes on with a start tag after the features. -/
private theorem readable_salesButton {sales sales' : Bool} {tag : Tag} {k l : Cut}
    (h : (if sales then salesButton else .empty).cutBefore (.tag (Markup.stop tag).chars k) =
      (if sales' then salesButton else .empty).cutBefore (.tag (Markup.stop tag).chars l)) :
    sales = sales' ∧ k = l := by
  have hopens (m : Cut) : (salesButton.cutBefore m).Opens := ⟨_, _, _, _, rfl⟩
  cases sales with
  | false =>
    cases sales' with
    | false => exact ⟨rfl, (Cut.tag_inj.1 h).2⟩
    | true =>
      have hstop : Cut.tag (Markup.stop tag).chars k = salesButton.cutBefore _ := h
      exact absurd (hstop ▸ hopens _) (Cut.not_opens_stop tag k)
  | true =>
    cases sales' with
    | false =>
      have hstop : salesButton.cutBefore _ = Cut.tag (Markup.stop tag).chars l := h
      exact absurd (hstop ▸ hopens _) (Cut.not_opens_stop tag l)
    | true =>
      have hbutton := (cutBefore_right_inj salesButton).1 h
      exact ⟨rfl, (Cut.tag_inj.1 hbutton).2⟩

private theorem readable_priceLabel (classes unit : String) (children : List (Html Action)) :
    Readable fun label : String =>
      (Html.styled .div classes [.text label, .styled .span unit children] : Html Action) := by
  apply Readable.node rfl
  intro label label' k l h
  obtain ⟨hlabel, hrest⟩ := Readable.text_tag (α := Action) h
  have hspan := (cutBefore_right_inj (.styled .span unit children : Html Action)).1 hrest
  exact ⟨hlabel, (Cut.tag_inj.1 hspan).2⟩

private theorem readable_planCard (index : Nat) : Readable (planCard index) := by
  apply Readable.node rfl
  intro plan plan' k l h
  simp only [join, cutBefore, cutBefore_right_inj] at h
  obtain ⟨hname, h⟩ := Readable.label rfl h
  obtain ⟨hdescription, h⟩ := Readable.label rfl h
  obtain ⟨hlabel, h⟩ := readable_priceLabel _ _ _ h
  obtain ⟨hfeatures, h⟩ := Readable.map_items readable_planFeature opens_planFeature rfl h
  obtain ⟨hsales, hkl⟩ := readable_salesButton h
  have hprice := price_eq hlabel hsales
  obtain ⟨name, description, price, features⟩ := plan
  obtain ⟨name', description', price', features'⟩ := plan'
  subst hname hdescription hprice hfeatures
  exact ⟨rfl, hkl⟩

private theorem opens_planCard (index : Nat) (plan : PricingPlan) (k : Cut) :
    ((planCard index plan).cutBefore k).Opens :=
  ⟨_, _, _, _, rfl⟩

private theorem readable_pricingGrid (classes : String) :
    Readable fun plans : List PricingPlan => Html.styled .div classes (planCards 0 plans) := by
  simp only [planCards_eq_mapIdx]
  exact Readable.items (fun i => readable_planCard (0 + i)) (fun i => opens_planCard (0 + i)) rfl

theorem readable_pricingSection : Readable pricingSection :=
  ((readable_pricingGrid _).among rfl [_] []).among rfl [] []

/-- The text of the pricing section determines the plans. In particular a list price that reads as
the label of a plan without one gives another text, wherever the plan stands. -/
theorem render_pricingSection_inj (plans plans' : List PricingPlan) :
    ((pricingSection plans).render = (pricingSection plans').render ↔ plans = plans') ∧
    Price.custom.label = (Price.monthly "Custom").label ∧
    ∀ (before after : List PricingPlan) (plan : PricingPlan),
      (pricingSection (before ++ { plan with price := .custom } :: after)).render ≠
        (pricingSection (before ++ { plan with price := .monthly "Custom" } :: after)).render := by
  have hinj {plans plans' : List PricingPlan}
      (h : (pricingSection plans).render = (pricingSection plans').render) : plans = plans' :=
    (readable_pricingSection (cutBefore_eq_of_render_eq h)).1
  refine ⟨⟨hinj, fun h => h ▸ rfl⟩, rfl, ?_⟩
  intro before after plan h
  have hplan := List.append_cancel_left (hinj h)
  simp at hplan

end LandingPage
