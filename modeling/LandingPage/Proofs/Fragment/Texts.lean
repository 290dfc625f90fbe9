import LandingPage.Proofs.Fragment.Basic
import LandingPage.Proofs.Html.VisibleText

namespace LandingPage

open Html

def PricingPlan.texts (index : Nat) (plan : PricingPlan) : List String :=
  (if index = 1 then ["Most Popular"] else []) ++
    [plan.name, plan.description, plan.price.label, "/month"] ++ plan.features ++
    (if plan.price = .custom then ["Contact Sales"] else [])

namespace Fragment

def texts : Fragment → List String
  | navLinks links _ _ => links.map NavLink.label
  | footerColumn column => column.title :: column.links.map NavLink.label
  | problemCard card => [card.category, card.headline, card.body]
  | featureHighlight item => [item.title, item.body]
  | howItWorksStep item => [item.title, item.body]
  | codeToken token => [token.text]
  | codeLine line => line.tokens.map Token.text
  | planCard index plan => plan.texts index
  | pricingSection plans =>
    "Simple, Predictable Pricing" ::
      "No hidden costs, no surprise bills. All compliance features included by default." ::
      plans.zipIdx.flatMap fun (plan, index) => plan.texts index

end Fragment

private theorem visibleText_glyph {α : Type} (icon : Icon) (classes : ClassList) :
    (glyph icon classes : Html α).visibleText = "" := by
  cases icon <;> rfl

private theorem visibleText_codeToken (token : Token) :
    (codeToken token).visibleText = token.text := by
  unfold codeToken
  cases token.kind.colour? <;> simp [visibleText]

private theorem visibleText_planFeature (feature : String) :
    (planFeature feature).visibleText = feature := by
  simp [planFeature, styledGlyph, visibleText_glyph, visibleText]

private theorem visibleText_planCard (index : Nat) (plan : PricingPlan) :
    (planCard index plan).visibleText = String.join (plan.texts index) := by
  have hbadge : (if index = mostPopularPlan then planBadge else .empty).visibleText =
      String.join (if index = 1 then ["Most Popular"] else []) := by
    unfold mostPopularPlan
    split <;> rfl
  have hbutton : (if plan.contactSales then salesButton else .empty).visibleText =
      String.join (if plan.price = .custom then ["Contact Sales"] else []) := by
    unfold PricingPlan.contactSales
    cases plan.price <;> rfl
  have hfeatures : plan.features.map (visibleText ∘ planFeature) = plan.features := by
    simp [Function.comp_def, visibleText_planFeature]
  simp [planCard, PricingPlan.texts, hbadge, hbutton, hfeatures, visibleText, String.append_assoc]

private theorem visibleText_planCards (index : Nat) (plans : List PricingPlan) :
    String.join ((planCards index plans).map visibleText) =
      String.join ((plans.zipIdx index).flatMap fun (plan, index) => plan.texts index) := by
  induction plans generalizing index with
  | nil => rfl
  | cons plan plans ih => simp [planCards, visibleText_planCard, ih]

theorem Fragment.visibleText_html (p : Fragment) :
    p.html.visibleText = String.join p.texts := by
  cases p with
  | navLinks links classes onNavigate =>
    simp [html, texts, navLinkList, navLink, visibleText, Function.comp_def]
  | footerColumn column =>
    simp [html, texts, LandingPage.footerColumn, footerLink, visibleText, Function.comp_def]
  | problemCard card =>
    simp [html, texts, LandingPage.problemCard, visibleText]
  | featureHighlight item =>
    simp [html, texts, LandingPage.featureHighlight, styledGlyph, visibleText_glyph, visibleText]
  | howItWorksStep item =>
    simp [html, texts, LandingPage.howItWorksStep, styledGlyph, visibleText_glyph, visibleText]
  | codeToken token =>
    simp [html, texts, visibleText_codeToken]
  | codeLine line =>
    simp [html, texts, LandingPage.codeLine, visibleText_codeToken, Function.comp_def]
  | planCard index plan => exact visibleText_planCard index plan
  | pricingSection plans =>
    simp [html, texts, LandingPage.pricingSection, sectionHeading, visibleText,
      visibleText_planCards, String.append_assoc, -String.reduceAppend]

/-- Deleting the tags from the text of a fragment and replacing the entities gives the texts of its
content one after another. -/
theorem Fragment.readText_eq_texts (p : Fragment) :
    readText p.html.render = some (String.join p.texts) := by
  rw [Html.readText_render, p.visibleText_html]

end LandingPage
