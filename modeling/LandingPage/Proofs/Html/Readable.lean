import LandingPage.Proofs.Html.Markup

/-!
# Documents that tell what they were drawn from

A family of documents is readable if the text of a member, whatever stands behind it, determines the
content it was drawn from and what stands behind it. Texts before a tag and elements around readable
documents are readable, and so are lists whose items begin with a start tag, up to the first text that
does not go on with one.
-/
namespace LandingPage.Html

private theorem escapeText_inj {s t : List Char} : escapeText s = escapeText t ↔ s = t :=
  ⟨fun h => by rw [← decode_escapeText s, h, decode_escapeText], fun h => h ▸ rfl⟩

private theorem escapeValue_inj {s t : List Char} : escapeValue s = escapeValue t ↔ s = t :=
  ⟨fun h => by rw [← decode_escapeValue s, h, decode_escapeValue], fun h => h ▸ rfl⟩

namespace Markup

private theorem value_inj {s t : String} (h : escapeValue s.toList = escapeValue t.toList) :
    s = t :=
  String.toList_inj.1 (escapeValue_inj.1 h)

private theorem attrTexts_nil_ne (attr : Attr) (attrs : List Attr)
    (classes classes' : Option String) : attrTexts [] classes ≠ attrTexts (attr :: attrs) classes' := by
  intro h
  cases classes with
  | none => exact List.cons_ne_nil _ _ h.symm
  | some text =>
    obtain ⟨hname, -⟩ := Prod.mk.inj (List.cons.inj h).1
    exact attr.name.name_ne_class (String.toList_inj.1 hname.symm)

private theorem attrTexts_nil_inj {classes classes' : Option String}
    (h : attrTexts [] classes = attrTexts [] classes') : classes = classes' := by
  cases classes with
  | none => cases classes' with
    | none => rfl
    | some text' => exact absurd h.symm (List.cons_ne_nil _ _)
  | some text => cases classes' with
    | none => exact absurd h (List.cons_ne_nil _ _)
    | some text' => exact congrArg some (value_inj (Prod.mk.inj (List.cons.inj h).1).2)

private theorem attrTexts_inj {attrs attrs' : List Attr} {classes classes' : Option String}
    (h : attrTexts attrs classes = attrTexts attrs' classes') :
    attrs = attrs' ∧ classes = classes' := by
  induction attrs generalizing attrs' with
  | nil =>
    cases attrs' with
    | nil => exact ⟨rfl, attrTexts_nil_inj h⟩
    | cons attr' attrs' => exact absurd h (attrTexts_nil_ne attr' attrs' _ _)
  | cons attr attrs ih =>
    cases attrs' with
    | nil => exact absurd h.symm (attrTexts_nil_ne attr attrs _ _)
    | cons attr' attrs' =>
      obtain ⟨hattr, hrest⟩ := List.cons.inj h
      obtain ⟨hname, hvalue⟩ := Prod.mk.inj hattr
      obtain ⟨rfl, rfl⟩ := ih hrest
      obtain ⟨name, value⟩ := attr
      obtain ⟨name', value'⟩ := attr'
      obtain rfl := AttrName.name_inj.1 (String.toList_inj.1 hname)
      obtain rfl := value_inj hvalue
      exact ⟨rfl, rfl⟩

/-- A start tag tells its element, its attributes and its class text, whatever the values hold. -/
theorem start_inj {tag tag' : Tag} {attrs attrs' : List Attr} {classes classes' : Option String}
    (h : (start tag attrs classes).chars = (start tag' attrs' classes').chars) :
    tag = tag' ∧ attrs = attrs' ∧ classes = classes' := by
  have hread := readTag_chars (start tag attrs classes)
  rw [h, readTag_chars, Option.some_inj] at hread
  obtain ⟨hname, htexts⟩ := TagText.mk.inj hread.symm
  exact ⟨Tag.name_inj.1 (String.toList_inj.1 hname), attrTexts_inj htexts⟩

end Markup

namespace Cut

theorem tag_inj {a b : List Char} {k l : Cut} : tag a k = tag b l ↔ a = b ∧ k = l := by
  obtain ⟨lead, tags⟩ := k
  obtain ⟨lead', tags'⟩ := l
  simp [tag, and_assoc]

private theorem run_tag_inj {r s a b : List Char} {k l : Cut} :
    run r (tag a k) = run s (tag b l) ↔ r = s ∧ tag a k = tag b l := by
  simp [run, tag]

private theorem run_right_inj {r : List Char} {k l : Cut} : run r k = run r l ↔ k = l := by
  obtain ⟨lead, tags⟩ := k
  obtain ⟨lead', tags'⟩ := l
  simp [run]

/-- The text goes on with a start tag. -/
def Opens (k : Cut) : Prop :=
  ∃ tag attrs classes l, k = Cut.tag (Markup.start tag attrs classes).chars l

theorem not_opens_nil : ¬Cut.nil.Opens := by
  rintro ⟨tag, attrs, classes, l, h⟩
  exact absurd (congrArg Cut.tags h) (by simp [nil, Cut.tag])

theorem not_opens_stop (tag : Tag) (k : Cut) : ¬(Cut.tag (Markup.stop tag).chars k).Opens := by
  rintro ⟨tag', attrs, classes, l, h⟩
  have hhead := congrArg List.head? (tag_inj.1 h).1
  cases tag' <;> simp [Markup.chars, Tag.name] at hhead

end Cut

variable {α β : Type}

theorem cutBefore_right_inj (h : Html α) {k l : Cut} :
    h.cutBefore k = h.cutBefore l ↔ k = l := by
  induction h generalizing k l with
  | empty => rfl
  | text content => exact Cut.run_right_inj
  | element tag attrs classes onClick body ih =>
    rw [cutBefore, cutBefore, Cut.tag_inj, ih]
    cases tag.isVoid <;> simp [Cut.tag_inj]
  | append first second ihFirst ihSecond => exact ihFirst.trans ihSecond

private theorem cutBefore_join_append (hs ks : List (Html α)) (k : Cut) :
    (join (hs ++ ks)).cutBefore k = (join hs).cutBefore ((join ks).cutBefore k) := by
  induction hs with
  | nil => rfl
  | cons h hs ih => simp only [List.cons_append, join, cutBefore, ih]

/-- The text determines the content that the document is drawn from, and where the document ends. -/
def Readable (draw : β → Html α) : Prop :=
  ∀ ⦃x y k l⦄, (draw x).cutBefore k = (draw y).cutBefore l → x = y ∧ k = l

namespace Readable

theorem element {tag : Tag} (htag : tag.isVoid = false) {attrs : β → List Attr}
    {classes : β → Option String} {onClick : β → Option α} {body : β → Html α}
    (hbody : ∀ x y k l, attrs x = attrs y → classes x = classes y →
      (body x).cutBefore (.tag (Markup.stop tag).chars k) =
        (body y).cutBefore (.tag (Markup.stop tag).chars l) →
      x = y ∧ k = l) :
    Readable fun x => Html.element tag (attrs x) (classes x) (onClick x) (body x) := by
  intro x y k l h
  simp only [cutBefore, htag, Cut.tag_inj] at h
  obtain ⟨-, hattrs, hclasses⟩ := Markup.start_inj h.1
  exact hbody x y k l hattrs hclasses h.2

theorem node {tag : Tag} (htag : tag.isVoid = false) {attrs : List Attr}
    {classes : Option String} {children : β → List (Html α)}
    (hchildren : ∀ x y k l,
      (join (children x)).cutBefore (.tag (Markup.stop tag).chars k) =
        (join (children y)).cutBefore (.tag (Markup.stop tag).chars l) →
      x = y ∧ k = l) :
    Readable fun x => node tag attrs classes (children x) :=
  element htag fun x y k l _ _ h => hchildren x y k l h

theorem among {draw : β → Html α} (hread : Readable draw) {tag : Tag}
    (htag : tag.isVoid = false) {attrs : List Attr} {classes : Option String}
    (before after : List (Html α)) :
    Readable fun x => Html.node tag attrs classes (before ++ draw x :: after) := by
  apply node htag
  intro x y k l h
  rw [cutBefore_join_append, cutBefore_join_append, cutBefore_right_inj] at h
  obtain ⟨hxy, hafter⟩ := hread h
  exact ⟨hxy, (Cut.tag_inj.1 ((cutBefore_right_inj _).1 hafter)).2⟩

theorem text_tag {s t : String} {a b : List Char} {k l : Cut}
    (h : (text s : Html α).cutBefore (.tag a k) = (text t : Html α).cutBefore (.tag b l)) :
    s = t ∧ Cut.tag a k = .tag b l := by
  obtain ⟨hrun, htag⟩ := Cut.run_tag_inj.1 h
  exact ⟨String.toList_inj.1 (escapeText_inj.1 hrun), htag⟩

theorem label {tag : Tag} (htag : tag.isVoid = false) {attrs : List Attr}
    {classes : Option String} :
    Readable fun s => (Html.node tag attrs classes [text s] : Html α) := by
  apply node htag
  intro s t k l h
  obtain ⟨htext, hrest⟩ := text_tag (α := α) h
  exact ⟨htext, (Cut.tag_inj.1 hrest).2⟩

/-- A list of readable items is readable up to a text that does not go on with a start tag. -/
theorem mapIdx {draw : Nat → β → Html α} (hread : ∀ i, Readable (draw i))
    (hopens : ∀ i x k, ((draw i x).cutBefore k).Opens) {xs ys : List β} {k l : Cut}
    (hk : ¬k.Opens) (hl : ¬l.Opens)
    (h : (join (xs.mapIdx draw)).cutBefore k = (join (ys.mapIdx draw)).cutBefore l) :
    xs = ys ∧ k = l := by
  induction xs generalizing ys draw with
  | nil =>
    cases ys with
    | nil => exact ⟨rfl, h⟩
    | cons y ys =>
      simp only [List.mapIdx_nil, List.mapIdx_cons, join, cutBefore] at h
      exact absurd (h ▸ hopens 0 y _) hk
  | cons x xs ih =>
    cases ys with
    | nil =>
      simp only [List.mapIdx_nil, List.mapIdx_cons, join, cutBefore] at h
      exact absurd (h ▸ hopens 0 x _) hl
    | cons y ys =>
      rw [List.mapIdx_cons, List.mapIdx_cons] at h
      obtain ⟨rfl, hrest⟩ := hread 0 h
      obtain ⟨rfl, hkl⟩ := ih (fun i => hread (i + 1)) (fun i => hopens (i + 1)) hrest
      exact ⟨rfl, hkl⟩

theorem items {draw : Nat → β → Html α} (hread : ∀ i, Readable (draw i))
    (hopens : ∀ i x k, ((draw i x).cutBefore k).Opens) {tag : Tag} (htag : tag.isVoid = false)
    {attrs : List Attr} {classes : Option String} :
    Readable fun xs : List β => Html.node tag attrs classes (xs.mapIdx draw) := by
  apply node htag
  intro xs ys k l h
  have hstop := Cut.not_opens_stop tag
  obtain ⟨hitems, hrest⟩ := mapIdx hread hopens (hstop k) (hstop l) h
  exact ⟨hitems, (Cut.tag_inj.1 hrest).2⟩

theorem map {draw : β → Html α} (hread : Readable draw)
    (hopens : ∀ x k, ((draw x).cutBefore k).Opens) {xs ys : List β} {k l : Cut}
    (hk : ¬k.Opens) (hl : ¬l.Opens)
    (h : (join (xs.map draw)).cutBefore k = (join (ys.map draw)).cutBefore l) :
    xs = ys ∧ k = l := by
  have hmap (xs : List β) : xs.map draw = xs.mapIdx fun _ => draw :=
    (List.mapIdx_eq_iff.2 fun _ => List.getElem?_map).symm
  rw [hmap, hmap] at h
  exact mapIdx (fun _ => hread) (fun _ => hopens) hk hl h

theorem map_items {draw : β → Html α} (hread : Readable draw)
    (hopens : ∀ x k, ((draw x).cutBefore k).Opens) {tag : Tag} (htag : tag.isVoid = false)
    {attrs : List Attr} {classes : Option String} :
    Readable fun xs : List β => Html.node tag attrs classes (xs.map draw) := by
  apply node htag
  intro xs ys k l h
  have hstop := Cut.not_opens_stop tag
  obtain ⟨hitems, hrest⟩ := map hread hopens (hstop k) (hstop l) h
  exact ⟨hitems, (Cut.tag_inj.1 hrest).2⟩

end Readable

end LandingPage.Html
