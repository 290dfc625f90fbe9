import LandingPage.Proofs.Html.Reading

/-!
# The tags in the text of a document

Every start tag and end tag that the writer puts down is cut out of the text again and read as what it
was, because no name and no escaped character can end a tag, a run or a value. Hence the text of a
document is cut into the tags of the document, whatever its texts and attribute values are.
-/
namespace LandingPage

private theorem Tag.name_clean (tag : Tag) :
    ∀ c ∈ tag.name.toList, c ≠ '<' ∧ c ≠ '>' ∧ c ≠ ' ' ∧ c ≠ '/' := by
  cases tag <;> simp [Tag.name]

private theorem AttrName.name_clean (name : AttrName) :
    ∀ c ∈ name.name.toList, c ≠ '<' ∧ c ≠ '>' ∧ c ≠ '=' := by
  cases name <;> simp [AttrName.name]

namespace Html

inductive Markup where
  | start (tag : Tag) (attrs : List Attr) (classes : Option String)
  | stop (tag : Tag)

namespace Markup

def chars : Markup → List Char
  | start tag attrs classes =>
    tag.name.toList ++ (attrs.flatMap Attr.write ++ writeClasses classes)
  | stop tag => '/' :: tag.name.toList

def attrTexts (attrs : List Attr) (classes : Option String) : List (List Char × List Char) :=
  (attrs.map fun attr => (attr.name.name.toList, escapeValue attr.value.toList)) ++
    classes.toList.map fun names => ("class".toList, escapeValue names.toList)

def text : Markup → TagText
  | start tag attrs classes => ⟨tag.name.toList, attrTexts attrs classes⟩
  | stop tag => ⟨'/' :: tag.name.toList, []⟩

private theorem not_angle_of_mem_writeAttr {name value : String}
    (hname : ∀ c ∈ name.toList, c ≠ '<' ∧ c ≠ '>') {c : Char} (hc : c ∈ writeAttr name value) :
    c ≠ '<' ∧ c ≠ '>' := by
  simp only [writeAttr, List.mem_cons, List.mem_append, List.not_mem_nil, or_false] at hc
  rcases hc with rfl | hc | rfl | rfl | hc | rfl
  · decide
  · exact hname c hc
  · decide
  · decide
  · exact ⟨(not_special_of_mem_escapeValue hc).1, (not_special_of_mem_escapeValue hc).2.1⟩
  · decide

theorem not_angle_of_mem_chars {m : Markup} {c : Char} (hc : c ∈ m.chars) :
    c ≠ '<' ∧ c ≠ '>' := by
  cases m with
  | start tag attrs classes =>
    simp only [chars, List.mem_append, List.mem_flatMap] at hc
    rcases hc with hc | ⟨attr, -, hc⟩ | hc
    · have hclean := tag.name_clean c hc
      exact ⟨hclean.1, hclean.2.1⟩
    · refine not_angle_of_mem_writeAttr (fun d hd => ?_) hc
      have hclean := attr.name.name_clean d hd
      exact ⟨hclean.1, hclean.2.1⟩
    · cases classes with
      | none => simp [writeClasses] at hc
      | some names => exact not_angle_of_mem_writeAttr (by simp) hc
  | stop tag =>
    rcases List.mem_cons.1 hc with rfl | hc
    · decide
    · have hclean := tag.name_clean c hc
      exact ⟨hclean.1, hclean.2.1⟩

private theorem readAttrs_chars (attrs : List Attr) (classes : Option String) :
    readAttrs (attrs.flatMap Attr.write ++ writeClasses classes) =
      some (attrTexts attrs classes) := by
  induction attrs with
  | nil =>
    cases classes with
    | none => rfl
    | some names =>
      have hname : ∀ c ∈ "class".toList, c ≠ '=' := by simp
      have hread := readAttrs_writeAttr hname names []
      simpa [writeClasses, attrTexts, readAttrs] using hread
  | cons attr attrs ih =>
    have hname : ∀ c ∈ attr.name.name.toList, c ≠ '=' := fun c hc =>
      (attr.name.name_clean c hc).2.2
    rw [List.flatMap_cons, List.append_assoc, Attr.write, readAttrs_writeAttr hname, ih]
    rfl

theorem readTag_chars (m : Markup) : readTag m.chars = some m.text := by
  cases m with
  | start tag attrs classes =>
    have hname : ∀ c ∈ tag.name.toList, c ≠ ' ' := fun c hc => (tag.name_clean c hc).2.2.1
    rw [chars, readTag_append hname, readAttrs_chars]
    · rfl
    · cases attrs with
      | nil =>
        cases classes with
        | none => exact .inl rfl
        | some names => exact .inr ⟨_, rfl⟩
      | cons attr attrs => exact .inr ⟨_, rfl⟩
  | stop tag =>
    have hname : ∀ c ∈ '/' :: tag.name.toList, c ≠ ' ' := by
      intro c hc
      rcases List.mem_cons.1 hc with rfl | hc
      · decide
      · exact (tag.name_clean c hc).2.2.1
    have hread : readTag (('/' :: tag.name.toList) ++ []) = some ⟨'/' :: tag.name.toList, []⟩ :=
      readTag_append hname (.inl rfl)
    rwa [List.append_nil] at hread

end Markup

variable {α : Type}

/-- The cut of the text of a document with a cut text behind it. -/
def cutBefore : Html α → Cut → Cut
  | empty, k => k
  | text content, k => k.run (escapeText content.toList)
  | element tag attrs classes _ body, k =>
    .tag (Markup.start tag attrs classes).chars
      (body.cutBefore (if tag.isVoid then k else k.tag (Markup.stop tag).chars))
  | append first second, k => first.cutBefore (second.cutBefore k)

private theorem cut_write_append (h : Html α) (rest : List Char) :
    cut (h.write ++ rest) = (cut rest).map h.cutBefore := by
  induction h generalizing rest with
  | empty =>
    have hcut : (empty : Html α).cutBefore = id := rfl
    rw [hcut, Option.map_id_fun, id]
    rfl
  | text content => exact cut_run (fun c hc => not_angle_of_mem_escapeText hc) rest
  | element tag attrs classes onClick body ih =>
    have hstart : ∀ after, (element tag attrs classes onClick body).write ++ after =
        '<' :: ((Markup.start tag attrs classes).chars ++
          '>' :: (body.write ++ (tag.writeEnd ++ after))) := by
      intro after
      simp [write, Tag.writeStart, Markup.chars]
    have hstop : cut (tag.writeEnd ++ rest) =
        (cut rest).map fun k => if tag.isVoid then k else k.tag (Markup.stop tag).chars := by
      unfold Tag.writeEnd
      split
      · simp
      · have htag := cut_tag (fun c hc => Markup.not_angle_of_mem_chars (m := .stop tag) hc) rest
        simpa [Markup.chars] using htag
    rw [hstart, cut_tag fun c hc => Markup.not_angle_of_mem_chars hc, ih, hstop]
    simp only [Option.map_map]
    rfl
  | append first second ihFirst ihSecond =>
    rw [write, List.append_assoc, ihFirst, ihSecond, Option.map_map]
    rfl

private theorem cut_write (h : Html α) : cut h.write = some (h.cutBefore .nil) := by
  have hcut := cut_write_append h []
  rwa [List.append_nil] at hcut

theorem cut_render (h : Html α) : cut h.render.toList = some (h.cutBefore .nil) := by
  rw [toList_render, cut_write]

def markup : Html α → List Markup
  | empty => []
  | text _ => []
  | element tag attrs classes _ body =>
    .start tag attrs classes :: (body.markup ++ if tag.isVoid then [] else [.stop tag])
  | append first second => first.markup ++ second.markup

private theorem tags_cutBefore (h : Html α) (k : Cut) :
    (h.cutBefore k).tags.map Prod.fst = h.markup.map Markup.chars ++ k.tags.map Prod.fst := by
  induction h generalizing k with
  | empty => rfl
  | text content => rfl
  | element tag attrs classes onClick body ih =>
    rw [cutBefore, Cut.tag, List.map_cons, ih]
    cases hvoid : tag.isVoid <;> simp [markup, hvoid, Cut.tag]
  | append first second ihFirst ihSecond =>
    rw [cutBefore, ihFirst, ihSecond, markup, List.map_append, List.append_assoc]

/-- The tags of a text, or nothing if it is not made of runs and readable tags. -/
def readTags (text : String) : Option (List TagText) :=
  (cut text.toList).bind fun k => (k.tags.map Prod.fst).mapM readTag

/-- Reading the text of a document finds the tags of the document. -/
theorem readTags_render (h : Html α) : readTags h.render = some (h.markup.map Markup.text) := by
  have hread : ∀ marks : List Markup,
      (marks.map Markup.chars).mapM readTag = some (marks.map Markup.text) := by
    intro marks
    induction marks with
    | nil => rfl
    | cons m marks ih =>
      rw [List.map_cons, List.mapM_cons, Markup.readTag_chars, ih]
      rfl
  rw [readTags, cut_render, Option.bind_some, tags_cutBefore]
  simpa [Cut.nil] using hread h.markup

theorem cutBefore_eq_of_render_eq {h k : Html α} (heq : h.render = k.render) :
    h.cutBefore .nil = k.cutBefore .nil := by
  have hcut := cut_render h
  rw [heq, cut_render k] at hcut
  exact (Option.some.inj hcut).symm

end Html

end LandingPage
