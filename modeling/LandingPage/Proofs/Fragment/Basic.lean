import LandingPage.View.Navigation
import LandingPage.View.Section

/-!
# Fragments of the page with their content

The fragments of the page that are drawn from content given to them, and the shape of that content:
what is left of it when every text in it is emptied. Two fragments of one shape differ in their texts
alone; list lengths, icons, tones, kinds, flags, positions and class names belong to the shape.
-/
namespace LandingPage

def NavLink.shape (_ : NavLink) : NavLink := ⟨"", ""⟩

def FooterColumn.shape (column : FooterColumn) : FooterColumn :=
  ⟨"", column.links.map NavLink.shape⟩

def ProblemCard.shape (card : ProblemCard) : ProblemCard := ⟨"", "", "", card.tone⟩

def Highlight.shape (item : Highlight) : Highlight := ⟨item.icon, "", ""⟩

def Token.shape (token : Token) : Token := ⟨token.kind, ""⟩

def CodeLine.shape (line : CodeLine) : CodeLine :=
  ⟨line.gap, line.indent, line.tokens.map Token.shape⟩

def Price.shape : Price → Price
  | monthly _ => monthly ""
  | custom => custom

def PricingPlan.shape (plan : PricingPlan) : PricingPlan :=
  ⟨"", "", plan.price.shape, plan.features.map fun _ => ""⟩

inductive Fragment where
  | navLinks (links : List NavLink) (classes : ClassList) (onNavigate : Option Action)
  | footerColumn (column : FooterColumn)
  | problemCard (card : ProblemCard)
  | featureHighlight (item : Highlight)
  | howItWorksStep (item : Highlight)
  | codeToken (token : Token)
  | codeLine (line : CodeLine)
  | planCard (index : Nat) (plan : PricingPlan)
  | pricingSection (plans : List PricingPlan)

namespace Fragment

def html : Fragment → Html Action
  | navLinks links classes onNavigate => navLinkList links classes onNavigate
  | footerColumn column => LandingPage.footerColumn column
  | problemCard card => LandingPage.problemCard card
  | featureHighlight item => LandingPage.featureHighlight item
  | howItWorksStep item => LandingPage.howItWorksStep item
  | codeToken token => LandingPage.codeToken token
  | codeLine line => LandingPage.codeLine line
  | planCard index plan => LandingPage.planCard index plan
  | pricingSection plans => LandingPage.pricingSection plans

/-- The fragment without its texts. The action of a link is no part of the shape. -/
def shape : Fragment → Fragment
  | navLinks links classes _ => navLinks (links.map NavLink.shape) classes none
  | footerColumn column => footerColumn column.shape
  | problemCard card => problemCard card.shape
  | featureHighlight item => featureHighlight item.shape
  | howItWorksStep item => howItWorksStep item.shape
  | codeToken token => codeToken token.shape
  | codeLine line => codeLine line.shape
  | planCard index plan => planCard index plan.shape
  | pricingSection plans => pricingSection (plans.map PricingPlan.shape)

end Fragment

end LandingPage
