import LandingPage.Icon

namespace LandingPage

inductive Tone where
  | red | orange | yellow
  deriving DecidableEq

@[ext] structure ProblemCard where
  category : String
  headline : String
  body : String
  tone : Tone
  deriving DecidableEq

def problemCards : List ProblemCard :=
  [⟨"Financial Impact", "€5.88B in Fines",
      "GDPR fines continue to escalate, with enforcement becoming more aggressive and personal liability extending to executives.",
      .red⟩,
    ⟨"Business Cost", "8% Profit Drop",
      "SMEs face disproportionate compliance costs, with some experiencing over 8% reduction in profits due to regulatory overhead.",
      .orange⟩,
    ⟨"Technical Burden", "Complex Tools",
      "Current solutions offer compliance as a tool you must configure correctly, leaving all responsibility and risk with you.",
      .yellow⟩]

@[ext] structure Highlight where
  icon : Icon
  title : String
  body : String
  deriving DecidableEq

def featureHighlights : List Highlight :=
  [⟨.shield, "Breach-Proof Architecture",
      "Client-side encryption with zero-knowledge design. Even if our infrastructure is compromised, your data remains useless ciphertext."⟩,
    ⟨.circleCheck, "Automated Compliance",
      "GDPR-conformant audit logs, automated data retention, and built-in portability features work out of the box."⟩,
    ⟨.database, "Developer-First Experience",
      "Seamless integration with your existing stack. Simple SDKs, predictable pricing, and familiar database interfaces."⟩]

def howItWorksSteps : List Highlight :=
  [⟨.lock, "Client-Side Encryption",
      "Your data is encrypted on your servers before it ever reaches Gardbase. Even if our infrastructure is compromised, your data remains useless ciphertext to attackers."⟩,
    ⟨.database, "Automated Compliance",
      "All GDPR requirements are handled automatically—audit logs, data retention, portability, and deletion rights—without manual configuration or oversight."⟩,
    ⟨.shield, "Seamless Integration",
      "Deploy through developer-friendly SDKs with simple, predictable pricing that includes all compliance features in your existing stack."⟩]

end LandingPage
