/-!
Plans and their prices. A plan without a list price is sold through the sales team; the text of a
price does not tell the two kinds apart, since a list price may read `Custom` as well.
-/
namespace LandingPage

inductive Price where
  | monthly (amount : String)
  | custom
  deriving DecidableEq

def Price.label : Price → String
  | monthly amount => amount
  | custom => "Custom"

def Price.isCustom : Price → Bool
  | monthly _ => false
  | custom => true

structure PricingPlan where
  name : String
  description : String
  price : Price
  features : List String
  deriving DecidableEq

def PricingPlan.contactSales (plan : PricingPlan) : Bool :=
  plan.price.isCustom

/-- The position of the plan with the badge, whatever plan stands there. -/
def mostPopularPlan : Nat := 1

def pricingPlans : List PricingPlan :=
  [⟨"Startup", "Perfect for early-stage startups and small projects", .monthly "€79+",
      ["Up to 20GB storage", "25M API Calls/month", "Full GDPR compliance", "Email support"]⟩,
    ⟨"Growth", "For growing businesses and teams", .monthly "€349+",
      ["Up to 100GB storage", "150M API Calls/month", "Full GDPR compliance", "Priority support"]⟩,
    ⟨"Scale", "For large organizations with custom needs", .custom,
      ["Custom storage", "Custom API Calls limit", "Dedicated support", "SLA guarantees"]⟩]

end LandingPage
