import LandingPage.Brand

namespace LandingPage

inductive SectionId where
  | features | howItWorks | pricing
  deriving DecidableEq

namespace SectionId

def all : List SectionId := [features, howItWorks, pricing]

def id : SectionId → String
  | features => "features"
  | howItWorks => "how-it-works"
  | pricing => "pricing"

def href : SectionId → String
  | features => "#features"
  | howItWorks => "#how-it-works"
  | pricing => "#pricing"

end SectionId

/-- A target is `#` and the identifier of a section, `#` alone for the top of the page, or an
address. -/
@[ext] structure NavLink where
  label : String
  target : String
  deriving DecidableEq

/-- The identifier that the link scrolls to, unless it leads to the top or away from the page. -/
def NavLink.anchor? (link : NavLink) : Option String :=
  match link.target.toList with
  | '#' :: c :: rest => some (String.ofList (c :: rest))
  | _ => none

theorem NavLink.anchor?_eq_some_iff {link : NavLink} {anchor : String} :
    link.anchor? = some anchor ↔ anchor ≠ "" ∧ link.target = "#" ++ anchor := by
  have htarget : link.target = "#" ++ anchor ↔ link.target.toList = '#' :: anchor.toList := by
    rw [← String.toList_inj, String.toList_append]
    rfl
  rw [htarget, ne_eq, ← String.toList_eq_nil_iff]
  unfold anchor?
  split
  · rename_i c rest hcs
    rw [hcs, Option.some_inj, ← String.toList_inj, String.toList_ofList, List.cons_inj_right]
    exact ⟨fun h => ⟨by simp [← h], h⟩, And.right⟩
  · rename_i hshort
    refine ⟨fun h => by simp at h, fun ⟨hne, h⟩ => ?_⟩
    obtain ⟨c, rest, hanchor⟩ := List.exists_cons_of_ne_nil hne
    exact absurd (hanchor ▸ h) (hshort c rest)

def navLinks : List NavLink :=
  [⟨"Features", "#features"⟩, ⟨"How it Works", "#how-it-works"⟩, ⟨"Pricing", "#pricing"⟩]

@[ext] structure FooterColumn where
  title : String
  links : List NavLink
  deriving DecidableEq

def footerColumns : List FooterColumn :=
  [⟨"Product",
      [⟨"Features", "#features"⟩, ⟨"Pricing", "#pricing"⟩, ⟨"Documentation", "#"⟩,
        ⟨"API Reference", "#"⟩]⟩,
    ⟨"Company",
      [⟨"About", Brand.companyAddress⟩, ⟨"Blog", "#"⟩, ⟨"Careers", "#"⟩,
        ⟨"Contact", Brand.companyAddress⟩]⟩,
    ⟨"Legal",
      [⟨"Privacy Policy", "#"⟩, ⟨"Terms of Service", "#"⟩, ⟨"Security", "#"⟩,
        ⟨"Compliance", "#"⟩]⟩]

end LandingPage
