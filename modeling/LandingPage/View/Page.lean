import LandingPage.View.Navigation
import LandingPage.View.Section

namespace LandingPage

def landing (menu : Disclosure) : Html Action :=
  .styled .div "min-h-screen bg-white text-gray-900" [
    header menu,
    .plain .main [
      heroSection,
      problemSection,
      featuresSection,
      howItWorksSection,
      pricingSection pricingPlans,
      ctaSection],
    footer]

def notFoundPage : Html Action :=
  .styled .div "flex min-h-screen flex-col items-center justify-center bg-slate-50 px-4 text-center" [
    logo Brand.logoPath "mb-8 h-8",
    .styled .h1 "text-brand mb-3 text-3xl font-bold sm:text-4xl" [.text "Page not found"],
    .styled .p "mb-6 text-base text-gray-600 sm:text-lg" [
      .text "The page you were looking for doesn't exist."],
    .element .a
      [⟨.href, Route.home.path⟩]
      (some "bg-brand hover:bg-brand/90 rounded-lg px-6 py-3 text-base font-semibold text-white transition-colors")
      (some (.follow .home))
      (.text "Back to home")]

def page : Route → Html Action
  | .home => landing .initial
  | .notFound => notFoundPage

end LandingPage
