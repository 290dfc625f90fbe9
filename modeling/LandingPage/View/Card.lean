import LandingPage.Action
import LandingPage.Content.Card
import LandingPage.Content.CodeSample
import LandingPage.Content.Pricing

namespace LandingPage

def Tone.background : Tone → String
  | red => "bg-red-50"
  | orange => "bg-orange-50"
  | yellow => "bg-yellow-50"

def Tone.label : Tone → String
  | red => "text-red-500 group-hover:text-red-400"
  | orange => "text-orange-500 group-hover:text-orange-400"
  | yellow => "text-amber-500 group-hover:text-amber-400"

def problemCard (card : ProblemCard) : Html Action :=
  .node .div [] (ClassList.ofTexts ["rounded-2xl", "p-6", "sm:p-8", card.tone.background]).text? [
    .node .div []
      (ClassList.ofTexts ["mb-2", "text-xs", "font-medium", "uppercase", "tracking-wider",
        "sm:text-sm", card.tone.label]).text? [
      .text card.category],
    .styled .h3 "text-brand mb-2 text-lg font-semibold sm:text-xl" [.text card.headline],
    .styled .p "text-sm text-gray-600 sm:text-base" [.text card.body]]

def featureHighlight (item : Highlight) : Html Action :=
  .styled .div "flex items-start space-x-3 sm:space-x-4" [
    .styled .div "bg-brand flex h-8 w-8 flex-shrink-0 items-center justify-center rounded-xl sm:h-10 sm:w-10" [
      styledGlyph item.icon "h-4 w-4 text-white sm:h-5 sm:w-5"],
    .plain .div [
      .styled .h3 "text-brand mb-1.5 text-lg font-semibold tracking-tight sm:mb-2 sm:text-xl" [
        .text item.title],
      .styled .p "text-sm text-gray-600 sm:text-base" [.text item.body]]]

def howItWorksStep (item : Highlight) : Html Action :=
  .styled .div "text-center" [
    .styled .div "bg-brand mx-auto mb-4 flex h-12 w-12 items-center justify-center rounded-2xl sm:mb-6 sm:h-16 sm:w-16" [
      styledGlyph item.icon "h-6 w-6 text-white sm:h-8 sm:w-8"],
    .styled .h3 "text-brand mb-3 text-lg font-semibold tracking-tight sm:mb-4 sm:text-xl" [
      .text item.title],
    .styled .p "text-sm text-gray-600 sm:text-base" [.text item.body]]

/-- The colour of a token; punctuation keeps the colour of the line. -/
def TokenKind.colour? : TokenKind → Option String
  | comment => some "text-gray-500"
  | keyword => some "text-blue-400"
  | identifier => some "text-white"
  | str => some "text-yellow-400"
  | literal => some "text-orange-400"
  | punct => none

def codeToken (token : Token) : Html Action :=
  match token.kind.colour? with
  | some colour => .node .span [] (ClassList.ofTexts [colour]).text? [.text token.text]
  | none => .text token.text

def codeLine (line : CodeLine) : Html Action :=
  .node .div []
    (ClassList.ofTexts
      ((if line.gap then ["mt-4"] else []) ++ (if line.indent then ["ml-4"] else []))).text?
    (line.tokens.map codeToken)

def planFeature (feature : String) : Html Action :=
  .styled .li "flex items-center" [
    styledGlyph .circleCheck "mr-2 h-4 w-4 flex-shrink-0 text-green-500 sm:mr-3 sm:h-5 sm:w-5",
    .styled .span "text-sm text-gray-600 sm:text-base" [.text feature]]

def planBadge : Html Action :=
  .styled .div "absolute -top-3 left-1/2 -translate-x-1/2 transform sm:-top-4" [
    .styled .span "bg-brand rounded-full px-3 py-1 text-xs font-medium text-white sm:px-4 sm:py-2 sm:text-sm" [
      .text "Most Popular"]]

def salesButton : Html Action :=
  .styled .button "bg-brand hover:bg-brand/90 w-full rounded-lg py-2.5 text-sm font-semibold text-white transition-colors sm:py-3 sm:text-base" [
    .text "Contact Sales"]

def planCard (index : Nat) (plan : PricingPlan) : Html Action :=
  .node .div []
    (ClassList.ofTexts ["relative", "rounded-2xl", "border",
      if index = mostPopularPlan then "border-brand bg-white shadow-lg"
      else "border-gray-200 bg-white",
      "p-6", "sm:p-8"]).text? [
    if index = mostPopularPlan then planBadge else .empty,
    .styled .h3 "text-brand mb-2 text-xl font-bold sm:text-2xl" [.text plan.name],
    .styled .p "mb-4 text-sm text-gray-600 sm:mb-6 sm:text-base" [.text plan.description],
    .styled .div "text-brand mb-4 text-3xl font-bold sm:mb-6 sm:text-4xl" [
      .text plan.price.label,
      .styled .span "text-lg font-normal text-gray-600 sm:text-xl" [.text "/month"]],
    .styled .ul "mb-6 space-y-2 sm:mb-8 sm:space-y-3" (plan.features.map planFeature),
    if plan.contactSales then salesButton else .empty]

/-- The cards of a list of plans whose first stands at position `index`. -/
def planCards (index : Nat) : List PricingPlan → List (Html Action)
  | [] => []
  | plan :: plans => planCard index plan :: planCards (index + 1) plans

theorem planCards_eq_mapIdx (index : Nat) (plans : List PricingPlan) :
    planCards index plans = plans.mapIdx fun i => planCard (index + i) := by
  induction plans generalizing index with
  | nil => rfl
  | cons plan plans ih =>
    rw [planCards, List.mapIdx_cons, ih]
    simp only [Nat.add_zero, Nat.add_assoc, Nat.add_comm 1]

end LandingPage
