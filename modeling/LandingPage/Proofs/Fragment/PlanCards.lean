import LandingPage.Proofs.Html.Occurrences
import LandingPage.View.Section

/-!
# What stands on the cards of the plans

The cards of a pricing section stand one after another in its text. The badge and the border of the
most popular plan, the button of a plan without a list price, the items of a list of features and the
unit of a price are found on the cards that they were drawn on and nowhere else in the text, whatever
the names, descriptions, prices and features spell.
-/
namespace LandingPage

open Html Text

def cardTexts (plans : List PricingPlan) : List (List Char) :=
  plans.mapIdx fun i plan => (planCard i plan).render.toList

/-- What stands on some of the cards: the badge, the start tag of the card with the badge, the button,
an item in the list of features, and the unit of the price. -/
inductive CardMark where
  | badge | border | button | item | unit
  deriving DecidableEq

namespace CardMark

def all : List CardMark := [badge, border, button, item, unit]

private theorem mem_all (m : CardMark) : m ∈ all := by
  cases m <;> decide

instance {p : CardMark → Prop} [DecidablePred p] : Decidable (∀ m, p m) :=
  decidable_of_iff (∀ m ∈ all, p m) ⟨fun h m => h m m.mem_all, fun h m _ => h m⟩

/-- The part of the mark in the start tag that it begins in. -/
def opening : CardMark → String
  | badge =>
    "<span class=\"bg-brand rounded-full px-3 py-1 text-xs font-medium text-white sm:px-4 sm:py-2 sm:text-sm\">"
  | border =>
    "<div class=\"relative rounded-2xl border border-brand bg-white shadow-lg p-6 sm:p-8\">"
  | button => "<button"
  | item => "<li"
  | unit => "sm:text-xl\">"

def inside : CardMark → String
  | badge => "Most Popular</span>"
  | unit => "/month</span>"
  | _ => ""

def markup (m : CardMark) : String :=
  m.opening ++ m.inside

/-- How many times the mark is on the card of the plan at a position. -/
def times : CardMark → Nat → PricingPlan → Nat
  | badge, index, _ => if index = 1 then 1 else 0
  | border, index, _ => if index = 1 then 1 else 0
  | button, _, plan => if plan.price = .custom then 1 else 0
  | item, _, plan => plan.features.length
  | unit, _, _ => 1

def total : CardMark → List PricingPlan → Nat
  | badge, plans => if 2 ≤ plans.length then 1 else 0
  | border, plans => if 2 ≤ plans.length then 1 else 0
  | button, plans => plans.countP (·.price = .custom)
  | item, plans => (plans.map (·.features.length)).sum
  | unit, plans => plans.length

end CardMark

def PricingPlan.blank : PricingPlan := ⟨"", "", .monthly "", []⟩

private theorem starts_planFeature (feature : String) :
    (planFeature feature).starts = (planFeature "").starts := by
  simp [planFeature]

def cardTag (index : Nat) : TagText :=
  ((planCard index .blank).starts.head?).getD ⟨[], []⟩

private def cardFrame : List TagText :=
  (planCard 0 .blank).starts.tail

private theorem starts_planCard (index : Nat) (plan : PricingPlan) :
    (planCard index plan).starts = cardTag index ::
      ((if index = 1 then planBadge.starts else []) ++ (cardFrame ++
        ((plan.features.flatMap fun _ => (planFeature "").starts) ++
          if plan.contactSales then salesButton.starts else []))) := by
  have hbadge : (if index = mostPopularPlan then planBadge else .empty).starts =
      if index = 1 then planBadge.starts else [] := by
    unfold mostPopularPlan
    split <;> rfl
  have hfeatures : (plan.features.map planFeature).flatMap starts =
      plan.features.flatMap fun _ => (planFeature "").starts := by
    rw [List.flatMap_map]
    exact congrArg (plan.features.flatMap ·) (funext starts_planFeature)
  have hbutton : (if plan.contactSales then salesButton else .empty).starts =
      if plan.contactSales then salesButton.starts else [] := by
    split <;> rfl
  have hframe : cardFrame = [_, _, _, _, _] := rfl
  simp only [planCard, starts_node, starts_styled, starts_text, List.flatMap_cons,
    List.flatMap_nil, List.append_nil, hbadge, hfeatures, hbutton, hframe]
  rfl

private theorem map_mapIdx {β γ δ : Type} (g : γ → δ) (f : Nat → β → γ) (xs : List β) :
    (xs.mapIdx f).map g = xs.mapIdx fun i x => g (f i x) :=
  List.ext_getElem? fun i => by simp [Function.comp_def]

private theorem starts_pricingSection (plans : List PricingPlan) :
    (pricingSection plans).starts = (pricingSection []).starts ++
      (plans.mapIdx fun i plan => (planCard i plan).starts).flatten := by
  have hcards : (planCards 0 plans).flatMap starts =
      (plans.mapIdx fun i plan => (planCard i plan).starts).flatten := by
    simp only [planCards_eq_mapIdx, List.flatMap_def, map_mapIdx, Nat.zero_add]
  simp [pricingSection, hcards, planCards]

private theorem planCard_of_ne {index : Nat} (h : index ≠ 1) (plan : PricingPlan) :
    planCard index plan = planCard 0 plan := by
  simp [planCard, mostPopularPlan, h]

private theorem cardTag_of_ne {index : Nat} (h : index ≠ 1) : cardTag index = cardTag 0 := by
  rw [cardTag, planCard_of_ne h]
  rfl

private theorem frames_pricingSection : ∃ lead tail, ∀ plans : List PricingPlan,
    (pricingSection plans).render.toList = lead ++ ((cardTexts plans).flatten ++ tail) := by
  obtain ⟨lead, tail, hwrite⟩ : Frames fun cards : List (Html Action) =>
      Html.node .sect [⟨.id, SectionId.pricing.id⟩] (some "bg-slate-50 py-12 sm:py-16 lg:py-20") [
        .styled .div "mx-auto max-w-7xl px-4 sm:px-6 lg:px-8" [
          sectionHeading "mb-12 text-center sm:mb-16" "Simple, Predictable Pricing"
            "No hidden costs, no surprise bills. All compliance features included by default.",
          .styled .div "grid gap-6 sm:gap-8 md:grid-cols-3" cards]] :=
    ((frames_node _ _ _).among _ _ _ [_] []).among _ _ _ [] []
  refine ⟨lead, tail, fun plans => ?_⟩
  have hcards : (planCards 0 plans).flatMap write = (cardTexts plans).flatten := by
    simp only [planCards_eq_mapIdx, List.flatMap_def, map_mapIdx, Nat.zero_add, cardTexts,
      toList_render]
  rw [toList_render, ← hcards]
  exact hwrite _

namespace CardMark

private theorem foundInStarts (m : CardMark) : FoundInStarts m.opening.toList := by
  have hclose (m : CardMark) (h : m.opening.toList.getLast? = some '>' ∧
      '<' ∉ m.opening.toList.tail ∧ '>' ∉ m.opening.toList.dropLast ∧ '"' ∈ m.opening.toList) :
      FoundInStarts m.opening.toList :=
    foundInStarts_close h.1 h.2.1 h.2.2.1 h.2.2.2
  cases m with
  | badge => exact hclose badge (by decide +kernel)
  | border => exact hclose border (by decide +kernel)
  | button => exact foundInStarts_open (by decide) (by decide)
  | item => exact foundInStarts_open (by decide) (by decide)
  | unit => exact hclose unit (by decide +kernel)

private def shownBy (m : CardMark) (tags : List TagText) : Nat :=
  (tags.map fun t => count m.opening.toList t.write).sum

private theorem shownBy_append (m : CardMark) (tags tags' : List TagText) :
    m.shownBy (tags ++ tags') = m.shownBy tags + m.shownBy tags' := by
  simp [shownBy]

private theorem shownBy_flatten (m : CardMark) (tagss : List (List TagText)) :
    m.shownBy tagss.flatten = (tagss.map m.shownBy).sum := by
  induction tagss with
  | nil => rfl
  | cons tags tagss ih => simp [shownBy_append, ih]

/-- All parts and marks are evaluated at once, since the characters of a text are costly to find. -/
private theorem shownBy_parts : ∀ m : CardMark,
    m.shownBy (pricingSection []).starts = 0 ∧
    m.shownBy [cardTag 0] = 0 ∧
    m.shownBy [cardTag 1] = (if m = border then 1 else 0) ∧
    m.shownBy planBadge.starts = (if m = badge then 1 else 0) ∧
    m.shownBy cardFrame = (if m = unit then 1 else 0) ∧
    m.shownBy (planFeature "").starts = (if m = item then 1 else 0) ∧
    m.shownBy salesButton.starts = if m = button then 1 else 0 := by
  decide +kernel

private theorem shownBy_cardTag (m : CardMark) (index : Nat) :
    m.shownBy [cardTag index] = if index = 1 ∧ m = border then 1 else 0 := by
  obtain ⟨-, hother, hpopular, -⟩ := shownBy_parts m
  by_cases hindex : index = 1
  · simp only [hindex, hpopular, true_and]
  · simp only [cardTag_of_ne hindex, hother, hindex, false_and, if_false]

private theorem shownBy_planCard (m : CardMark) (index : Nat) (plan : PricingPlan) :
    m.shownBy (planCard index plan).starts = m.times index plan := by
  obtain ⟨-, -, -, hplanBadge, hframe, hfeature, hsales⟩ := shownBy_parts m
  have hbadge : m.shownBy (if index = 1 then planBadge.starts else []) =
      if index = 1 then (if m = badge then 1 else 0) else 0 := by
    rw [← hplanBadge]
    split <;> rfl
  have hfeatures : m.shownBy (plan.features.flatMap fun _ => (planFeature "").starts) =
      plan.features.length * if m = item then 1 else 0 := by
    rw [List.flatMap_def, shownBy_flatten, List.map_map, Function.comp_def, List.map_const',
      List.sum_replicate_nat, hfeature]
  have hbutton : m.shownBy (if plan.contactSales then salesButton.starts else []) =
      if plan.price = .custom then (if m = button then 1 else 0) else 0 := by
    rw [← hsales]
    cases hprice : plan.price <;> simp [PricingPlan.contactSales, Price.isCustom, hprice, shownBy]
  rw [starts_planCard, ← List.singleton_append, shownBy_append, shownBy_append, shownBy_append,
    shownBy_append, shownBy_cardTag, hbadge, hframe, hfeatures, hbutton]
  cases m <;> simp [times]

private theorem count_opening (m : CardMark) (h : Html Action) :
    count m.opening.toList h.write = m.shownBy h.starts :=
  m.foundInStarts.count_write h

private theorem opening_prefix_markup (m : CardMark) : m.opening.toList <+: m.markup.toList := by
  rw [markup, String.toList_append]
  exact List.prefix_append _ _

/-- Each card has its marks, the badge and the unit with the text in them. -/
theorem count_markup_planCard (m : CardMark) (index : Nat) (plan : PricingPlan) :
    count m.markup.toList (planCard index plan).write = m.times index plan := by
  have hshown : count m.opening.toList (planCard index plan).write = m.times index plan := by
    rw [count_opening, shownBy_planCard]
  -- there are no more marks than openings; where the mark goes on behind its opening, it is there too
  refine Nat.le_antisymm (hshown ▸ count_le_of_isPrefix m.opening_prefix_markup _) ?_
  cases m with
  | badge =>
    by_cases hindex : index = 1
    · have hbadge : badge.markup.toList <:+: planBadge.write := by decide +kernel
      have hcard : planBadge.write <:+: (planCard index plan).write :=
        write_infix_node (by simp [hindex, mostPopularPlan]) .div [] _
      simpa [times, hindex] using one_le_count_of_infix (hbadge.trans hcard)
    · simp [times, hindex]
  | border => exact Nat.le_of_eq hshown.symm
  | button => exact Nat.le_of_eq hshown.symm
  | item => exact Nat.le_of_eq hshown.symm
  | unit =>
    let unitSpan : Html Action :=
      .styled .span "text-lg font-normal text-gray-600 sm:text-xl" [.text "/month"]
    let price : Html Action :=
      .styled .div "text-brand mb-4 text-3xl font-bold sm:mb-6 sm:text-4xl" [
        .text plan.price.label, unitSpan]
    have hunit : unit.markup.toList <:+: unitSpan.write := by decide +kernel
    have hprice : unitSpan.write <:+: price.write := write_infix_node (by simp) .div [] _
    have hcard : price.write <:+: (planCard index plan).write :=
      write_infix_node (by simp [price, unitSpan]) .div [] _
    exact one_le_count_of_infix (hunit.trans (hprice.trans hcard))

private theorem mapIdx_const {β γ : Type} (f : β → γ) (xs : List β) :
    (xs.mapIdx fun _ x => f x) = xs.map f :=
  List.ext_getElem? fun i => by simp

private theorem sum_mapIdx_second {β : Type} (xs : List β) :
    (xs.mapIdx fun i _ => if i = 1 then 1 else 0).sum = if 2 ≤ xs.length then 1 else 0 := by
  match xs with
  | [] => rfl
  | [x] => rfl
  | x :: y :: xs =>
    have hlater : xs.mapIdx (fun i _ => if i + 1 + 1 = 1 then 1 else 0) =
        List.replicate xs.length 0 := by
      rw [← List.map_const', ← mapIdx_const]
      simp
    have hzero : (List.replicate xs.length 0).sum = 0 := by
      rw [List.sum_replicate_nat, Nat.mul_zero]
    rw [List.mapIdx_cons, List.mapIdx_cons, List.sum_cons, List.sum_cons, hlater, hzero]
    simp

private theorem sum_map_ite {β : Type} (p : β → Prop) [DecidablePred p] (xs : List β) :
    (xs.map fun x => if p x then 1 else 0).sum = xs.countP p := by
  induction xs with
  | nil => rfl
  | cons x xs ih =>
    rw [List.map_cons, List.sum_cons, ih, List.countP_cons, Nat.add_comm]
    simp only [decide_eq_true_eq]

private theorem sum_times (m : CardMark) (plans : List PricingPlan) :
    (plans.mapIdx m.times).sum = m.total plans := by
  cases m with
  | badge => exact sum_mapIdx_second plans
  | border => exact sum_mapIdx_second plans
  | button => exact (congrArg List.sum (mapIdx_const _ plans)).trans (sum_map_ite _ plans)
  | item => exact congrArg List.sum (mapIdx_const _ plans)
  | unit =>
    have hones : plans.mapIdx unit.times = plans.map fun _ => 1 := mapIdx_const _ plans
    rw [hones, List.map_const', List.sum_replicate_nat, Nat.mul_one]
    rfl

theorem occursIn_cardTexts (m : CardMark) {plans : List PricingPlan} {lead tail : List Char}
    (hsection : (pricingSection plans).render.toList = lead ++ ((cardTexts plans).flatten ++ tail)) :
    OccursIn m.markup.toList lead (cardTexts plans) tail (plans.mapIdx m.times) := by
  have hmarkup : m.markup.toList ≠ [] := fun h =>
    m.foundInStarts.ne_nil (List.prefix_nil.1 (h ▸ m.opening_prefix_markup))
  have hcards : (cardTexts plans).map (count m.markup.toList) = plans.mapIdx m.times := by
    simp only [cardTexts, map_mapIdx, toList_render, count_markup_planCard]
  have hopening : count m.opening.toList (pricingSection plans).write =
      (plans.mapIdx m.times).sum := by
    rw [count_opening, starts_pricingSection, shownBy_append, (shownBy_parts m).1, Nat.zero_add,
      shownBy_flatten, map_mapIdx]
    simp only [shownBy_planCard]
  refine occursIn_of_count_le hmarkup hcards ?_
  rw [← hsection, toList_render, ← hopening]
  exact count_le_of_isPrefix m.opening_prefix_markup _

end CardMark

def Html.TagText.hasClass (name : String) (t : TagText) : Bool :=
  (t.value? "class").any fun classes => (ClassList.wordsOf classes).contains name

private theorem readElements_planCard (index : Nat) (plan : PricingPlan) :
    ∃ tags, readElements (planCard index plan).render = some (cardTag index :: tags) :=
  ⟨_, readElements_render _⟩

private theorem hasClass_cardTag_iff (index : Nat) :
    (cardTag index).hasClass "border-brand" = true ↔ index = 1 := by
  by_cases hindex : index = 1
  · simp only [hindex, iff_true]
    decide +kernel
  · simp only [cardTag_of_ne hindex, hindex, iff_false]
    decide +kernel

private theorem write_cardTag_iff (index : Nat) :
    (cardTag index).write = CardMark.border.markup.toList ↔ index = 1 := by
  by_cases hindex : index = 1
  · simp only [hindex, iff_true]
    decide +kernel
  · simp only [cardTag_of_ne hindex, hindex, iff_false]
    decide +kernel

/-- The cards stand in the section one after another, and every mark is on the cards that it belongs
to, as often as it belongs there, and nowhere else, whatever the plans are. Of all cards, the one at
the position of the badge alone begins with a tag that has the class of the border. -/
theorem pricingSection_marks :
    (∃ lead tail, ∀ plans : List PricingPlan,
      (pricingSection plans).render.toList = lead ++ ((cardTexts plans).flatten ++ tail) ∧
      ∀ m : CardMark,
        OccursIn m.markup.toList lead (cardTexts plans) tail (plans.mapIdx m.times) ∧
        count m.markup.toList (pricingSection plans).render.toList = m.total plans) ∧
    ∀ index plan, ∃ t tags, readElements (planCard index plan).render = some (t :: tags) ∧
      (t.hasClass "border-brand" = true ↔ index = 1) ∧
      (t.write = CardMark.border.markup.toList ↔ index = 1) := by
  constructor
  · obtain ⟨lead, tail, hsection⟩ := frames_pricingSection
    refine ⟨lead, tail, fun plans => ⟨hsection plans, fun m => ?_⟩⟩
    have hcards := m.occursIn_cardTexts (hsection plans)
    refine ⟨hcards, ?_⟩
    rw [hsection plans, hcards.count_eq, m.sum_times]
  · intro index plan
    obtain ⟨tags, hread⟩ := readElements_planCard index plan
    exact ⟨cardTag index, tags, hread, hasClass_cardTag_iff index, write_cardTag_iff index⟩

end LandingPage
