import LandingPage.Proofs.Html.Transcript
import Mathlib.Data.List.Nodup

/-!
# Well-formed texts

A text is well formed if it is made of runs and tags with nothing left over, the tags close each other
innermost first, no tag has an attribute twice, and no bracket or quote stands raw in a run or value.
The writer sees to all of this but one: that no attribute stands twice is up to the document.
-/
namespace LandingPage

namespace Html

def isNameChar (c : Char) : Bool := c.isAlphanum || c = '-'

def IsName (name : List Char) : Prop :=
  name ≠ [] ∧ name.all isNameChar

instance (name : List Char) : Decidable (IsName name) :=
  inferInstanceAs (Decidable (_ ∧ _))

/-- The tags close the elements of the stack, the innermost first, and all that they open on the way.
An `img` has no content, so it is neither opened nor closed. -/
inductive Nested : List (List Char) → List TagText → Prop
  | done : Nested [] []
  | void {stack : List (List Char)} {attrs : List (List Char × List Char)} {tags : List TagText} :
      Nested stack tags → Nested stack (⟨['i', 'm', 'g'], attrs⟩ :: tags)
  | start {stack : List (List Char)} {name : List Char} {attrs : List (List Char × List Char)}
      {tags : List TagText} : IsName name → name ≠ ['i', 'm', 'g'] →
      Nested (name :: stack) tags → Nested stack (⟨name, attrs⟩ :: tags)
  | stop {stack : List (List Char)} {name : List Char} {tags : List TagText} :
      Nested stack tags → Nested (name :: stack) (⟨'/' :: name, []⟩ :: tags)

/-- No attribute stands twice, and nothing raw in a value could end it or the tag. -/
structure TagText.Sound (t : TagText) : Prop where
  distinct : (t.attrs.map Prod.fst).Nodup
  names : ∀ attr ∈ t.attrs, IsName attr.1
  values : ∀ attr ∈ t.attrs, ∀ c ∈ attr.2, c ≠ '<' ∧ c ≠ '>' ∧ c ≠ '"'

structure Transcript.Sound (t : Transcript) : Prop where
  nested : Nested [] (t.tags.map Prod.fst)
  tags : ∀ tag ∈ t.tags.map Prod.fst, tag.Sound
  runs : ∀ c ∈ t.runs, c ≠ '<' ∧ c ≠ '>'

/-- The text has a sound transcript, and the transcript leaves nothing of it out. -/
def WellFormed (text : String) : Prop :=
  ∃ t, transcript? text = some t ∧ t.write = text.toList ∧ t.Sound

variable {α : Type}

def DistinctAttrs (h : Html α) : Prop :=
  ∀ e ∈ h.elements, (e.attrs.map Attr.name).Nodup

instance (h : Html α) : Decidable h.DistinctAttrs :=
  inferInstanceAs (Decidable (∀ e ∈ h.elements, _))

namespace DistinctAttrs

@[simp] theorem empty : (Html.empty : Html α).DistinctAttrs := by
  simp [DistinctAttrs, elements]

@[simp] theorem text (content : String) : (Html.text content : Html α).DistinctAttrs := by
  simp [DistinctAttrs, elements]

@[simp] theorem element {tag : Tag} {attrs : List Attr} {classes : Option String}
    {onClick : Option α} {body : Html α} :
    (Html.element tag attrs classes onClick body).DistinctAttrs ↔
      (attrs.map Attr.name).Nodup ∧ body.DistinctAttrs := by
  simp [DistinctAttrs, elements]

@[simp] theorem append {first second : Html α} :
    (Html.append first second).DistinctAttrs ↔ first.DistinctAttrs ∧ second.DistinctAttrs := by
  simp [DistinctAttrs, elements, or_imp, forall_and]

@[simp] theorem optional {shown : Prop} [Decidable shown] {h : Html α} :
    (if shown then h else Html.empty).DistinctAttrs ↔ (shown → h.DistinctAttrs) := by
  by_cases hshown : shown <;> simp [hshown]

@[simp] theorem join {hs : List (Html α)} :
    (Html.join hs).DistinctAttrs ↔ ∀ h ∈ hs, h.DistinctAttrs := by
  induction hs with
  | nil => simp [Html.join]
  | cons h hs ih => simp [Html.join, ih]

@[simp] theorem node {tag : Tag} {attrs : List Attr} {classes : Option String}
    {hs : List (Html α)} :
    (Html.node tag attrs classes hs).DistinctAttrs ↔
      (attrs.map Attr.name).Nodup ∧ ∀ h ∈ hs, h.DistinctAttrs := by
  simp [Html.node]

@[simp] theorem styled {tag : Tag} {classes : String} {hs : List (Html α)} :
    (Html.styled tag classes hs).DistinctAttrs ↔ ∀ h ∈ hs, h.DistinctAttrs := by
  simp [Html.styled]

@[simp] theorem plain {tag : Tag} {hs : List (Html α)} :
    (Html.plain tag hs).DistinctAttrs ↔ ∀ h ∈ hs, h.DistinctAttrs := by
  simp [Html.plain]

end DistinctAttrs

private theorem isName_tag (tag : Tag) : IsName tag.name.toList := by
  cases tag <;> decide

private theorem isName_attr (name : AttrName) : IsName name.name.toList := by
  cases name <;> decide

private theorem name_eq_img_iff (tag : Tag) :
    tag.name.toList = ['i', 'm', 'g'] ↔ tag.isVoid = true := by
  cases tag <;> decide

private theorem mem_attrTexts {attrs : List Attr} {classes : Option String}
    {attr : List Char × List Char} (hattr : attr ∈ Markup.attrTexts attrs classes) :
    ∃ name value : String, IsName name.toList ∧
      attr = (name.toList, escapeValue value.toList) := by
  rcases List.mem_append.1 hattr with hattr | hattr
  · obtain ⟨a, -, rfl⟩ := List.mem_map.1 hattr
    exact ⟨a.name.name, a.value, isName_attr a.name, rfl⟩
  · obtain ⟨names, -, rfl⟩ := List.mem_map.1 hattr
    exact ⟨"class", names, by decide, rfl⟩

private theorem nodup_attrTexts {attrs : List Attr} (hattrs : (attrs.map Attr.name).Nodup)
    (classes : Option String) : ((Markup.attrTexts attrs classes).map Prod.fst).Nodup := by
  have hinj : Function.Injective fun name : AttrName => name.name.toList := fun a b h =>
    AttrName.name_inj.1 (String.toList_inj.1 h)
  have hnames := hattrs.map hinj
  rw [List.map_map] at hnames
  rw [Markup.attrTexts, List.map_append, List.map_map, List.map_map]
  cases classes with
  | none => rwa [Option.toList_none, List.map_nil, List.append_nil]
  | some names =>
    refine hnames.append (List.nodup_singleton _) fun name hname hclass => ?_
    obtain ⟨a, -, rfl⟩ := List.mem_map.1 hname
    exact a.name.name_ne_class (String.toList_inj.1 (List.mem_singleton.1 hclass))

private theorem Markup.sound_start {tag : Tag} {attrs : List Attr} {classes : Option String}
    (hattrs : (attrs.map Attr.name).Nodup) : (start tag attrs classes).text.Sound where
  distinct := nodup_attrTexts hattrs classes
  names := by
    intro attr hattr
    obtain ⟨name, value, hname, rfl⟩ := mem_attrTexts hattr
    exact hname
  values := by
    intro attr hattr c hc
    obtain ⟨name, value, -, rfl⟩ := mem_attrTexts hattr
    exact not_special_of_mem_escapeValue hc

private theorem Markup.sound_stop (tag : Tag) : (stop tag).text.Sound :=
  ⟨List.nodup_nil, by simp [text], by simp [text]⟩

private theorem sound_tags_transcriptBefore {h : Html α} (hattrs : h.DistinctAttrs) {t : Transcript}
    (ht : ∀ tag ∈ t.tags.map Prod.fst, tag.Sound) :
    ∀ tag ∈ (h.transcriptBefore t).tags.map Prod.fst, tag.Sound := by
  induction h generalizing t with
  | empty => exact ht
  | text content => exact ht
  | element tag attrs classes onClick body ih =>
    obtain ⟨hself, hbody⟩ := DistinctAttrs.element.1 hattrs
    intro read hread
    rcases List.mem_cons.1 hread with rfl | hread
    · exact Markup.sound_start hself
    · refine ih hbody ?_ read hread
      cases tag.isVoid with
      | true => exact ht
      | false =>
        intro read hread
        rcases List.mem_cons.1 hread with rfl | hread
        · exact Markup.sound_stop tag
        · exact ht read hread
  | append first second ihFirst ihSecond =>
    obtain ⟨hfirst, hsecond⟩ := DistinctAttrs.append.1 hattrs
    exact ihFirst hfirst (ihSecond hsecond ht)

/-- A document closes all that it opens, so it may stand wherever it leaves the rest nested. -/
private theorem nested_transcriptBefore (h : Html α) {stack : List (List Char)} {t : Transcript}
    (ht : Nested stack (t.tags.map Prod.fst)) :
    Nested stack ((h.transcriptBefore t).tags.map Prod.fst) := by
  induction h generalizing stack t with
  | empty => exact ht
  | text content => exact ht
  | element tag attrs classes onClick body ih =>
    cases hvoid : tag.isVoid with
    | true =>
      simp only [transcriptBefore, hvoid, if_true, Transcript.tag, List.map_cons, Markup.text,
        (name_eq_img_iff tag).2 hvoid]
      exact .void (ih ht)
    | false =>
      have himg : tag.name.toList ≠ ['i', 'm', 'g'] := fun h => by
        simp [(name_eq_img_iff tag).1 h] at hvoid
      simp only [transcriptBefore, hvoid, Bool.false_eq_true, if_false]
      exact .start (isName_tag tag) himg (ih (.stop ht))
  | append first second ihFirst ihSecond => exact ihFirst (ihSecond ht)

/-- The writer makes a well-formed text of every document with distinct attributes. -/
theorem wellFormed_render {h : Html α} (hattrs : h.DistinctAttrs) : WellFormed h.render := by
  refine ⟨h.transcript, transcript?_render h, write_transcript h, ?_, ?_, ?_⟩
  · exact nested_transcriptBefore h .done
  · exact sound_tags_transcriptBefore hattrs (by simp [Transcript.nil])
  · intro c hc
    rw [runs_transcript] at hc
    exact not_angle_of_mem_escapeText hc

end Html

end LandingPage
