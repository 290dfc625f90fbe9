import LandingPage.Html.Element
import LandingPage.Proofs.Html.Markup

namespace LandingPage

open Html

namespace Html.TagText

def isStart (t : TagText) : Bool :=
  t.name.head? ≠ some '/'

def isLink (t : TagText) : Bool :=
  t.name = ['a']

def value? (t : TagText) (name : String) : Option String :=
  (t.attrs.find? (·.1 = name.toList)).map fun attr => String.ofList (decode attr.2)

theorem value?_eq_none_iff {t : TagText} {name : String} :
    t.value? name = none ↔ name.toList ∉ t.attrs.map Prod.fst := by
  rw [value?, Option.map_eq_none_iff, List.find?_eq_none]
  simp only [decide_eq_true_eq, List.mem_map, not_exists, not_and]

end Html.TagText

namespace Html

/-- The start tags of a text, one for each of its elements. -/
def readElements (text : String) : Option (List TagText) :=
  (readTags text).map fun tags => tags.filter TagText.isStart

def idsOf (tags : List TagText) : List String :=
  tags.filterMap (·.value? "id")

def targetsOf (tags : List TagText) : List String :=
  (tags.filter TagText.isLink).filterMap (·.value? "href")

end Html

variable {α : Type}

namespace Element

def tagText (e : Element α) : TagText :=
  (Markup.start e.tag e.attrs e.classes).text

private theorem isLink_tagText (e : Element α) : e.tagText.isLink = decide (e.tag = .a) := by
  have hname : e.tag.name.toList = ['a'] ↔ e.tag = .a := by
    cases e.tag <;> decide
  simp [tagText, TagText.isLink, Markup.text, hname]

/-- Reading finds the value that was written, and takes no class text for another attribute. -/
theorem value?_tagText (e : Element α) (name : AttrName) :
    e.tagText.value? name.name = e.attr? name := by
  have hattr (attr : Attr) : decide (attr.name.name.toList = name.name.toList) =
      decide (attr.name = name) :=
    decide_eq_decide.2 (String.toList_inj.trans AttrName.name_inj)
  have hclass : "class".toList ≠ name.name.toList := fun h =>
    name.name_ne_class (String.toList_inj.1 h).symm
  have hclasses : (e.classes.toList.map fun names => ("class".toList, escapeValue names.toList)).find?
      (·.1 = name.name.toList) = none := by
    cases e.classes with
    | none => rfl
    | some names => exact List.find?_cons_of_neg (by simpa using hclass)
  rw [TagText.value?, tagText, Markup.text, Markup.attrTexts, List.find?_append, hclasses,
    Option.or_none, List.find?_map, Option.map_map, attr?]
  simp only [Function.comp_def, hattr, decode_escapeValue, String.ofList_toList]

theorem value?_class_tagText (e : Element α) : e.tagText.value? "class" = e.classes := by
  have hattrs : (e.attrs.map fun attr =>
      (attr.name.name.toList, escapeValue attr.value.toList)).find? (·.1 = "class".toList) =
        none := by
    rw [List.find?_eq_none]
    intro read hread hname
    obtain ⟨attr, -, rfl⟩ := List.mem_map.1 hread
    exact attr.name.name_ne_class (String.toList_inj.1 (of_decide_eq_true hname))
  rw [TagText.value?, tagText, Markup.text, Markup.attrTexts, List.find?_append, hattrs,
    Option.none_or]
  cases e.classes with
  | none => rfl
  | some names => simp [decode_escapeValue]

end Element

namespace Html

private theorem filter_isStart_markup (h : Html α) :
    (h.markup.map Markup.text).filter TagText.isStart = h.elements.map Element.tagText := by
  induction h with
  | empty => rfl
  | text content => rfl
  | element tag attrs classes onClick body ih =>
    have hstart : (Markup.start tag attrs classes).text.isStart = true := by
      cases tag <;> rfl
    have hstop : ((if tag.isVoid then [] else [Markup.stop tag]).map Markup.text).filter
        TagText.isStart = [] := by
      cases tag.isVoid <;> rfl
    rw [markup, List.map_cons, List.filter_cons_of_pos hstart, List.map_append, List.filter_append,
      ih, hstop, List.append_nil, elements, List.map_cons]
    rfl
  | append first second ihFirst ihSecond =>
    rw [markup, List.map_append, List.filter_append, ihFirst, ihSecond, elements, List.map_append]

theorem readElements_render (h : Html α) :
    readElements h.render = some (h.elements.map Element.tagText) := by
  rw [readElements, readTags_render, Option.map_some, filter_isStart_markup]

theorem idsOf_elements (h : Html α) : idsOf (h.elements.map Element.tagText) = h.ids := by
  rw [idsOf, List.filterMap_map, ids]
  exact congrArg (List.filterMap · h.elements) (funext fun e => e.value?_tagText .id)

theorem targetsOf_elements (h : Html α) :
    targetsOf (h.elements.map Element.tagText) = h.linkTargets := by
  have hlink : TagText.isLink ∘ Element.tagText = fun e : Element α => decide (e.tag = .a) :=
    funext Element.isLink_tagText
  rw [targetsOf, List.filter_map, List.filterMap_map, hlink, linkTargets]
  exact congrArg (List.filterMap · _) (funext fun e => e.value?_tagText .href)

end Html

end LandingPage
