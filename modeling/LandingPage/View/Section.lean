import LandingPage.View.Card
import LandingPage.Content.Link

namespace LandingPage

def sectionHeading (classes heading lead : String) : Html Action :=
  .styled .div classes [
    .styled .h2 "text-brand mb-3 text-2xl font-bold tracking-tight sm:mb-4 sm:text-3xl md:text-4xl" [
      .text heading],
    .styled .p "mx-auto max-w-3xl text-base text-gray-600 sm:text-lg md:text-xl" [.text lead]]

def heroSection : Html Action :=
  .styled .sect "py-22 lg:py-25 relative bg-gradient-to-b from-slate-50 to-white sm:py-16" [
    .styled .div "mx-auto max-w-7xl px-4 sm:px-6 lg:px-8" [
      .styled .div "text-center" [
        .styled .div "text-brand mb-4 inline-flex items-center rounded-full bg-blue-50 px-3 py-1.5 text-xs font-medium sm:mb-6 sm:px-4 sm:py-2 sm:text-sm" [
          styledGlyph .shield "mr-2 h-3 w-3 sm:h-4 sm:w-4",
          .text "GDPR-Native Database Platform"],
        .styled .h1 "text-brand mb-4 text-3xl font-bold sm:mb-6 sm:text-4xl md:text-5xl lg:text-6xl" [
          .text "The Database That ",
          .styled .span "block sm:inline md:block" [.text "Can't Be Breached"]],
        .styled .p "mx-auto mb-6 max-w-3xl text-base text-gray-600 sm:mb-8 sm:text-lg md:text-xl" [
          .text "Traditional databases store everything. When breached, they expose everything. Gardbase flips the script—storing only encrypted data, makes catastrophic data breaches ",
          .plain .strong [.text "architecturally impossible"],
          .text "."],
        .styled .div "flex flex-col gap-3 sm:flex-row sm:justify-center sm:gap-4" [
          .node .a
            [⟨.href, SectionId.howItWorks.href⟩]
            (some "bg-brand hover:bg-brand/90 flex items-center justify-center rounded-lg px-6 py-3 text-base font-semibold text-white transition-colors sm:px-8 sm:py-4 sm:text-lg") [
            .text "See How It Works",
            styledGlyph .arrowRight "ml-2 h-4 w-4 sm:h-5 sm:w-5"],
          .styled .button "text-brand rounded-lg border border-gray-300 px-6 py-3 text-base font-semibold transition-colors hover:bg-gray-50 sm:px-8 sm:py-4 sm:text-lg" [
            .text "Try Live Demo"]]]]]

def problemSection : Html Action :=
  .styled .sect "lg:py-25 mb-20 bg-white py-12 sm:py-16" [
    .styled .div "mx-auto max-w-7xl px-4 sm:px-6 lg:px-8" [
      sectionHeading "mb-20 text-center sm:mb-16" "GDPR Compliance Shouldn't Be This Hard"
        "Traditional databases make you choose between developer experience and compliance. With complex configurations, shared responsibility models, and constant legal uncertainty.",
      .styled .div "grid gap-6 sm:gap-8 md:grid-cols-3" (problemCards.map problemCard)]]

def featuresSection : Html Action :=
  .node .sect [⟨.id, SectionId.features.id⟩] (some "lg:py-30 bg-slate-50 py-12 sm:py-16") [
    .styled .div "mx-auto max-w-7xl px-4 sm:px-6 lg:px-8" [
      sectionHeading "mb-12 text-center sm:mb-16" "Compliance as a Service, Not a Tool"
        "Gardbase shifts the paradigm from complex configuration to automatic compliance. Our zero-knowledge architecture makes data breaches technically impossible.",
      .styled .div "grid items-center gap-8 sm:gap-12 md:grid-cols-2" [
        .plain .div [
          .styled .div "space-y-6 sm:space-y-8" (featureHighlights.map featureHighlight)],
        .styled .div "rounded-2xl bg-white p-4 shadow-lg sm:p-6 lg:p-8" [
          .styled .div "overflow-x-auto rounded-lg bg-gray-800 p-4 font-mono text-xs text-green-400 sm:p-6 sm:text-sm" [
            .styled .div "mb-2" [.styled .span "text-gray-500" [.text codeSampleHeading]],
            .styled .div "space-y-1" (codeSample.map codeLine)]]]]]

def howItWorksSection : Html Action :=
  .node .sect [⟨.id, SectionId.howItWorks.id⟩] (some "lg:py-25 mb-25 bg-white py-12 sm:py-16") [
    .styled .div "mx-auto max-w-7xl px-4 sm:px-6 lg:px-8" [
      sectionHeading "mb-12 text-center sm:mb-16" "How Gardbase Works"
        "Three simple steps to breach-proof, compliant data storage",
      .styled .div "grid gap-8 md:grid-cols-3" (howItWorksSteps.map howItWorksStep)]]

def pricingSection (plans : List PricingPlan) : Html Action :=
  .node .sect [⟨.id, SectionId.pricing.id⟩] (some "bg-slate-50 py-12 sm:py-16 lg:py-20") [
    .styled .div "mx-auto max-w-7xl px-4 sm:px-6 lg:px-8" [
      sectionHeading "mb-12 text-center sm:mb-16" "Simple, Predictable Pricing"
        "No hidden costs, no surprise bills. All compliance features included by default.",
      .styled .div "grid gap-6 sm:gap-8 md:grid-cols-3" (planCards 0 plans)]]

def ctaSection : Html Action :=
  .styled .sect "bg-brand border-b border-gray-800 py-12 sm:py-16 lg:py-20" [
    .styled .div "mx-auto max-w-7xl px-4 text-center sm:px-6 lg:px-8" [
      .styled .h2 "mb-3 text-2xl font-bold text-white sm:mb-4 sm:text-3xl md:text-4xl" [
        .text "Ready to Build with Confidence?"],
      .styled .p "mx-auto mb-6 max-w-2xl text-base text-blue-200 sm:mb-8 sm:text-lg md:text-xl" [
        .text "Join the developers who've chosen to focus on building great products instead of managing compliance complexity."],
      .styled .div "flex flex-col gap-3 sm:flex-row sm:justify-center sm:gap-4" [
        .styled .button "text-brand rounded-lg bg-white px-6 py-3 text-base font-semibold transition-colors hover:bg-gray-100 sm:px-8 sm:py-4 sm:text-lg" [
          .text "Start Free Trial"],
        .styled .button "rounded-lg border border-blue-200 px-6 py-3 text-base font-semibold text-white transition-colors hover:bg-white/10 sm:px-8 sm:py-4 sm:text-lg" [
          .text "Schedule Demo"]]]]

end LandingPage
