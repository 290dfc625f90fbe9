import LandingPage.Action
import LandingPage.Proofs.Html.ClassNames
import LandingPage.Proofs.Html.Readable
import LandingPage.Proofs.Html.Values

/-!
# What an icon tells

The first shape of an icon is enough to tell it from the others, and its start tag tells its class
names. So the text of an icon determines which icon it is and the set of its class names, and it keeps
nothing else of the texts in which the names were given.
-/
namespace LandingPage

open Html

variable {α : Type}

namespace Icon

private def lead? (icon : Icon) : Option (Tag × List Attr) :=
  (join icon.shapes : Html Unit).elements.head?.map fun e => (e.tag, e.attrs)

private theorem lead?_inj {icon icon' : Icon} (h : icon.lead? = icon'.lead?) : icon = icon' := by
  cases icon <;> cases icon' <;>
    first
    | rfl
    | simp [lead?, shapes, rule, stroke, elements, node, join] at h

private theorem lead?_shapes (icon : Icon) (k : Cut) :
    ∃ tag attrs, icon.lead? = some (tag, attrs) ∧
      ((join icon.shapes : Html α).cutBefore k).tags.head?.map Prod.fst =
        some (Markup.start tag attrs none).chars := by
  cases icon <;> exact ⟨_, _, rfl, rfl⟩

end Icon

private theorem icon_of_shapes {icon icon' : Icon} {k l : Cut}
    (h : (join icon.shapes : Html α).cutBefore k = (join icon'.shapes : Html α).cutBefore l) :
    icon = icon' := by
  obtain ⟨tag, attrs, hlead, hshapes⟩ := icon.lead?_shapes (α := α) k
  obtain ⟨tag', attrs', hlead', hshapes'⟩ := icon'.lead?_shapes (α := α) l
  rw [h, hshapes', Option.some_inj] at hshapes
  obtain ⟨rfl, rfl, -⟩ := Markup.start_inj hshapes
  exact Icon.lead?_inj (hlead.trans hlead'.symm)

theorem readable_glyph :
    Readable fun drawn : Icon × ClassList => (glyph drawn.1 drawn.2 : Html α) := by
  refine Readable.element rfl fun (icon, classes) (icon', classes') k l _ hclasses h => ?_
  obtain rfl := icon_of_shapes h
  obtain rfl := ClassList.text?_inj.1 hclasses
  exact ⟨rfl, (Cut.tag_inj.1 ((cutBefore_right_inj _).1 h)).2⟩

def glyphText (icon : Icon) (texts : List String) : String :=
  (glyph icon (.ofTexts texts) : Html Action).render

private theorem glyphText_eq_iff {icon icon' : Icon} {texts texts' : List String} :
    glyphText icon texts = glyphText icon' texts' ↔
      icon = icon' ∧ ClassList.ofTexts texts = ClassList.ofTexts texts' := by
  constructor
  · intro h
    have hdrawn := (readable_glyph (α := Action) (x := (icon, .ofTexts texts))
      (y := (icon', .ofTexts texts')) (cutBefore_eq_of_render_eq h)).1
    exact Prod.mk.inj hdrawn
  · rintro ⟨rfl, hclasses⟩
    rw [glyphText, glyphText, hclasses]

private theorem readElements_glyphText (icon : Icon) (texts : List String) :
    ∃ svg others, readElements (glyphText icon texts) = some (svg :: others) ∧
      svg.value? "class" = (ClassList.ofTexts texts).text? :=
  ⟨_, _, readElements_render _, Element.value?_class_tagText _⟩

/-- The text of an icon determines the icon and its distinct class names in order, and nothing more.
So it stays the same when the names are spread over the texts in another way or set apart by other
white space, when a name is given again, and when the class text that is read back from it is given in
place of all the texts; and it has a class text unless there are no names. -/
theorem glyphText_tells_icon_and_names :
    (∀ icon icon' texts texts', glyphText icon texts = glyphText icon' texts' ↔
      icon = icon' ∧ (texts.flatMap ClassList.wordsOf).eraseDups =
        (texts'.flatMap ClassList.wordsOf).eraseDups) ∧
    (∀ icon texts texts' groups groups', List.Forall₂ ClassList.Holds texts groups →
      List.Forall₂ ClassList.Holds texts' groups' → groups.flatten = groups'.flatten →
      glyphText icon texts = glyphText icon texts') ∧
    (∀ icon before after name, name ∈ before.flatMap ClassList.wordsOf →
      glyphText icon (before ++ name :: after) = glyphText icon (before ++ after)) ∧
    ∀ icon texts, ∃ svg others, readElements (glyphText icon texts) = some (svg :: others) ∧
      ("class".toList ∉ svg.attrs.map Prod.fst ↔ texts.flatMap ClassList.wordsOf = []) ∧
      glyphText icon (svg.value? "class").toList = glyphText icon texts := by
  refine ⟨?_, ?_, ?_, ?_⟩
  · intro icon icon' texts texts'
    rw [glyphText_eq_iff, ClassList.ext_iff, ClassList.names_ofTexts, ClassList.names_ofTexts]
  · intro icon texts texts' groups groups' htexts htexts' hgroups
    refine glyphText_eq_iff.2 ⟨rfl, ClassList.ext ?_⟩
    rw [ClassList.names_ofTexts_of_holds htexts, hgroups, ClassList.names_ofTexts_of_holds htexts']
  · intro icon before after name hname
    exact glyphText_eq_iff.2 ⟨rfl, ClassList.ofTexts_append_cons_of_mem hname after⟩
  · intro icon texts
    obtain ⟨svg, others, hread, hclass⟩ := readElements_glyphText icon texts
    refine ⟨svg, others, hread, ?_, ?_⟩
    · rw [← TagText.value?_eq_none_iff, hclass, ClassList.text?_eq_none_iff,
        ClassList.names_ofTexts]
      cases texts.flatMap ClassList.wordsOf <;> simp [List.eraseDups_cons]
    · rw [hclass]
      exact glyphText_eq_iff.2 ⟨rfl, ClassList.ofTexts_text? _⟩

/-- The same three names in two and in one of two texts, apart from each other by an em space, a tab,
a line break and a no-break space, and the second of them given again before a name that holds a
quote and what looks like an entity. -/
theorem glyphText_eq_of_respelled :
    let texts := ["h-6\u2003w-6", " text-white"]
    let texts' := ["\th-6", "w-6\n\n text-white\u00a0"]
    List.Forall₂ ClassList.Holds texts [["h-6", "w-6"], ["text-white"]] ∧
    List.Forall₂ ClassList.Holds texts' [["h-6"], ["w-6", "text-white"]] ∧
    [["h-6", "w-6"], ["text-white"]].flatten = [["h-6"], ["w-6", "text-white"]].flatten ∧
    glyphText .lock texts = glyphText .lock texts' ∧
    "w-6" ∈ texts.flatMap ClassList.wordsOf ∧
    glyphText .lock (texts ++ "w-6" :: ["\"&amp;"]) = glyphText .lock (texts ++ ["\"&amp;"]) := by
  intro texts texts'
  have hholds {text : String} {names : List String} (h : ClassList.wordsOf text = names) :
      ClassList.Holds text names := ClassList.holds_iff.2 h
  have htexts : List.Forall₂ ClassList.Holds texts [["h-6", "w-6"], ["text-white"]] :=
    .cons (hholds (by decide)) (.cons (hholds (by decide)) .nil)
  have htexts' : List.Forall₂ ClassList.Holds texts' [["h-6"], ["w-6", "text-white"]] :=
    .cons (hholds (by decide)) (.cons (hholds (by decide)) .nil)
  have hname : "w-6" ∈ texts.flatMap ClassList.wordsOf := by decide
  obtain ⟨-, hspell, hagain, -⟩ := glyphText_tells_icon_and_names
  exact ⟨htexts, htexts', rfl, hspell .lock _ _ _ _ htexts htexts' rfl, hname,
    hagain .lock _ _ _ hname⟩

end LandingPage
