import LandingPage.Proofs.Html.Markup
import LandingPage.Proofs.Fragment.Basic
import Mathlib.Data.List.Forall2

/-!
# No text can inject markup

Two documents are alike if they differ in nothing but their texts, the targets of their links and
what a click does. Alike documents have the same tags up to these targets, and a fragment is alike to
its shape. Since reading a text finds exactly the tags of the document, whatever the texts of a
fragment hold stays text or target.
-/
namespace LandingPage

namespace Html

/-- The tag as read, without the target that it leads to if it is a link. -/
def TagText.withoutTarget (t : TagText) : TagText where
  name := t.name
  attrs := t.attrs.map fun (name, value) =>
    if t.name = ['a'] ∧ name = ['h', 'r', 'e', 'f'] then (name, []) else (name, value)

def Markup.withoutTarget : Markup → Markup
  | start tag attrs classes =>
    start tag
      (attrs.map fun attr => if tag = .a ∧ attr.name = .href then ⟨.href, ""⟩ else attr) classes
  | stop tag => stop tag

private theorem Markup.text_withoutTarget (m : Markup) :
    m.withoutTarget.text = m.text.withoutTarget := by
  have hname (tag : Tag) : tag.name.toList = ['a'] ↔ tag = .a := by
    cases tag <;> decide
  have hattr (name : AttrName) : name.name.toList = ['h', 'r', 'e', 'f'] ↔ name = .href := by
    cases name <;> decide
  cases m with
  | start tag attrs classes =>
    simp only [withoutTarget, text, attrTexts, TagText.withoutTarget, List.map_append, List.map_map,
      hname]
    congr 2
    · apply List.map_congr_left
      intro attr _
      by_cases htarget : tag = .a ∧ attr.name = .href
      · simp [htarget, escapeValue, AttrName.name]
      · simp [htarget, hattr]
    · cases classes <;> simp
  | stop tag =>
    simp [withoutTarget, text, TagText.withoutTarget]

variable {α : Type}

/-- The documents differ in their texts, the targets of their links and their actions alone. -/
inductive Alike : Html α → Html α → Prop
  | refl {h : Html α} : Alike h h
  | text {s t : String} : Alike (text s) (text t)
  | element {tag : Tag} {attrs attrs' : List Attr} {classes : Option String}
      {onClick onClick' : Option α} {body body' : Html α}
      (hattrs : (Markup.start tag attrs classes).withoutTarget =
        (Markup.start tag attrs' classes).withoutTarget)
      (hbody : Alike body body') :
      Alike (element tag attrs classes onClick body) (element tag attrs' classes onClick' body')
  | append {h h' k k' : Html α} (hfirst : Alike h h') (hsecond : Alike k k') :
      Alike (append h k) (append h' k')

namespace Alike

private theorem markup_eq {h k : Html α} (halike : Alike h k) :
    h.markup.map Markup.withoutTarget = k.markup.map Markup.withoutTarget := by
  induction halike with
  | refl => rfl
  | text => rfl
  | element hattrs _ ih => simp only [markup, List.map_cons, List.map_append, hattrs, ih]
  | append _ _ ihFirst ihSecond => simp only [markup, List.map_append, ihFirst, ihSecond]

theorem join {hs ks : List (Html α)} (h : List.Forall₂ Alike hs ks) :
    Alike (join hs) (join ks) := by
  induction h with
  | nil => exact .refl
  | cons hfirst _ ih => exact .append hfirst ih

theorem node {tag : Tag} {attrs : List Attr} {classes : Option String} {hs ks : List (Html α)}
    (h : List.Forall₂ Alike hs ks) :
    Alike (node tag attrs classes hs) (node tag attrs classes ks) :=
  .element rfl (.join h)

theorem label {tag : Tag} {classes s t : String} :
    Alike (styled tag classes [Html.text s] : Html α) (styled tag classes [Html.text t]) :=
  .node (.cons .text .nil)

theorem items {β : Type} {draw draw' : β → Html α} {shape : β → β}
    (h : ∀ x, Alike (draw x) (draw' (shape x))) (xs : List β) :
    List.Forall₂ Alike (xs.map draw) ((xs.map shape).map draw') := by
  induction xs with
  | nil => exact .nil
  | cons x xs ih => exact .cons (h x) ih

end Alike

end Html

open Html

private theorem alike_navLink (classes : ClassList) (onNavigate : Option Action) (link : NavLink) :
    Alike (navLink classes onNavigate link) (navLink classes none link.shape) :=
  .element rfl .text

private theorem alike_footerLink (link : NavLink) :
    Alike (footerLink link) (footerLink link.shape) :=
  .node (.cons (.element rfl (.append .text .refl)) .nil)

private theorem alike_footerColumn (column : FooterColumn) :
    Alike (footerColumn column) (footerColumn column.shape) :=
  .node (.cons .label (.cons (.node (Alike.items alike_footerLink column.links)) .nil))

private theorem alike_codeToken (token : Token) :
    Alike (codeToken token) (codeToken token.shape) := by
  obtain ⟨kind, text⟩ := token
  cases kind with
  | punct => exact .text
  | comment => exact .node (.cons .text .nil)
  | keyword => exact .node (.cons .text .nil)
  | identifier => exact .node (.cons .text .nil)
  | str => exact .node (.cons .text .nil)
  | literal => exact .node (.cons .text .nil)

private theorem alike_planFeature (feature : String) :
    Alike (planFeature feature) (planFeature "") :=
  .node (.cons .refl (.cons .label .nil))

private theorem alike_planCard (index : Nat) (plan : PricingPlan) :
    Alike (planCard index plan) (planCard index plan.shape) := by
  have hsales : plan.shape.contactSales = plan.contactSales := by
    obtain ⟨name, description, price, features⟩ := plan
    cases price <;> rfl
  unfold planCard
  rw [hsales]
  apply Alike.node
  -- the badge and the button depend on the shape alone
  refine .cons .refl (.cons .label (.cons .label (.cons ?_ (.cons ?_ (.cons .refl .nil)))))
  · exact .node (.cons .text (.cons .refl .nil))
  · exact .node (Alike.items alike_planFeature plan.features)

private theorem alike_planCards (index : Nat) (plans : List PricingPlan) :
    List.Forall₂ Alike (planCards index plans) (planCards index (plans.map PricingPlan.shape)) := by
  induction plans generalizing index with
  | nil => exact .nil
  | cons plan plans ih => exact .cons (alike_planCard index plan) (ih (index + 1))

private theorem alike_pricingSection (plans : List PricingPlan) :
    Alike (pricingSection plans) (pricingSection (plans.map PricingPlan.shape)) :=
  .node (.cons (.node (.cons .refl (.cons (.node (alike_planCards 0 plans)) .nil))) .nil)

theorem Fragment.alike_shape (p : Fragment) : Alike p.html p.shape.html := by
  cases p with
  | navLinks links classes onNavigate =>
    exact .join (Alike.items (alike_navLink classes onNavigate) links)
  | footerColumn column => exact alike_footerColumn column
  | problemCard card =>
    exact .node (.cons (.node (.cons .text .nil)) (.cons .label (.cons .label .nil)))
  | featureHighlight item =>
    exact .node (.cons .refl (.cons (.node (.cons .label (.cons .label .nil))) .nil))
  | howItWorksStep item =>
    exact .node (.cons .refl (.cons .label (.cons .label .nil)))
  | codeToken token => exact alike_codeToken token
  | codeLine line => exact .node (Alike.items alike_codeToken line.tokens)
  | planCard index plan => exact alike_planCard index plan
  | pricingSection plans => exact alike_pricingSection plans

/-- The texts of two fragments of one shape are both read as tags and runs, and the tags have the same
names and the same attributes with the same values, but for the targets of links. -/
theorem Fragment.readTags_eq_of_shape_eq {p q : Fragment} (hshape : p.shape = q.shape) :
    ∃ tags tags', readTags p.html.render = some tags ∧ readTags q.html.render = some tags' ∧
      tags.map TagText.withoutTarget = tags'.map TagText.withoutTarget := by
  refine ⟨_, _, readTags_render p.html, readTags_render q.html, ?_⟩
  have hmarkup : p.html.markup.map Markup.withoutTarget =
      q.html.markup.map Markup.withoutTarget := by
    rw [p.alike_shape.markup_eq, hshape, q.alike_shape.markup_eq]
  have hread (marks : List Markup) : (marks.map Markup.text).map TagText.withoutTarget =
      (marks.map Markup.withoutTarget).map Markup.text := by
    simp only [List.map_map]
    exact List.map_congr_left fun m _ => m.text_withoutTarget.symm
  rw [hread, hread, hmarkup]

/-- A label that imitates an end tag and a target that imitates an attribute change no tag. -/
theorem Fragment.readTags_eq_of_imitated_markup :
    let p := Fragment.navLinks [⟨"</a><b x=\"&lt;", "#\" onclick=\"<"⟩] (.ofTexts ["px-3"]) none
    let q := Fragment.navLinks [⟨"Pricing", "#pricing"⟩] (.ofTexts ["px-3"]) none
    p.shape = q.shape ∧
    ∃ tags tags', readTags p.html.render = some tags ∧ readTags q.html.render = some tags' ∧
      tags.map TagText.withoutTarget = tags'.map TagText.withoutTarget :=
  ⟨rfl, readTags_eq_of_shape_eq rfl⟩

end LandingPage
