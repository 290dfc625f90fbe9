import LandingPage.Content.Link

/-!
Agreement of links and sections. Identifiers of sections must be distinct and every link into the
page must name one of them. A repeated identifier is reported before any link, and of several faults
of one kind the first in order.
-/
namespace LandingPage

inductive ContentError where
  | missingAnchor (label anchor : String)
  | duplicateSection (id : String)
  deriving DecidableEq

def ContentError.message : ContentError → String
  | missingAnchor label anchor =>
    "link \"" ++ label ++ "\" points to #" ++ anchor ++ " but no section has that id"
  | duplicateSection id => "section id \"" ++ id ++ "\" is used by more than one section"

/-- The first identifier that is in `seen` or repeats one before it. -/
def firstRepeated (seen : List String) : List String → Option String
  | [] => none
  | id :: rest => if id ∈ seen then some id else firstRepeated (id :: seen) rest

/-- The fault of a link, if it leads into the page but to none of the sections. -/
def NavLink.fault? (sections : List String) (link : NavLink) : Option ContentError :=
  match link.anchor? with
  | none => none
  | some anchor => if anchor ∈ sections then none else some (.missingAnchor link.label anchor)

def checkAnchors (sections : List String) (links : List NavLink) : Except ContentError Unit :=
  match firstRepeated [] sections with
  | some id => .error (.duplicateSection id)
  | none =>
    match links.findSome? (NavLink.fault? sections) with
    | some fault => .error fault
    | none => .ok ()

def validate : Except ContentError Unit :=
  checkAnchors (SectionId.all.map SectionId.id)
    (navLinks ++ footerColumns.flatMap FooterColumn.links)

theorem validate_eq_ok : validate = .ok () := by rfl

end LandingPage
