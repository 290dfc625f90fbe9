import LandingPage.Html.Element
import LandingPage.Proofs.Html.Markup

namespace LandingPage.Html

def TagText.chars (t : TagText) : List Char :=
  t.name ++ t.attrs.flatMap fun (name, value) => ' ' :: (name ++ '=' :: '"' :: (value ++ ['"']))

/-- A text with its tags read: the run before the first tag, then every tag with the run after it. -/
structure Transcript where
  lead : List Char
  tags : List (TagText × List Char)

namespace Transcript

def nil : Transcript := ⟨[], []⟩

def run (chars : List Char) (t : Transcript) : Transcript := ⟨chars ++ t.lead, t.tags⟩

def tag (read : TagText) (t : Transcript) : Transcript := ⟨[], (read, t.lead) :: t.tags⟩

def write (t : Transcript) : List Char :=
  t.lead ++ t.tags.flatMap fun (read, after) => '<' :: (read.chars ++ '>' :: after)

def runs (t : Transcript) : List Char :=
  t.lead ++ t.tags.flatMap Prod.snd

theorem tag_inj {read read' : TagText} {t t' : Transcript} :
    t.tag read = t'.tag read' ↔ read = read' ∧ t = t' := by
  obtain ⟨lead, tags⟩ := t
  obtain ⟨lead', tags'⟩ := t'
  simp [tag, and_assoc]

private theorem runs_run (chars : List Char) (t : Transcript) :
    (t.run chars).runs = chars ++ t.runs := by
  simp [runs, run]

private theorem runs_tag (read : TagText) (t : Transcript) : (t.tag read).runs = t.runs := by
  simp [runs, tag]

private theorem write_run (chars : List Char) (t : Transcript) :
    (t.run chars).write = chars ++ t.write := by
  simp [write, run]

private theorem write_tag (read : TagText) (t : Transcript) :
    (t.tag read).write = '<' :: (read.chars ++ '>' :: t.write) := by
  simp [write, tag]

end Transcript

def Cut.transcript? (k : Cut) : Option Transcript :=
  (k.tags.mapM fun tag => (readTag tag.1).map (·, tag.2)).map (⟨k.lead, ·⟩)

/-- The transcript of a text, or nothing if it is not made of runs and readable tags. -/
def transcript? (text : String) : Option Transcript :=
  (cut text.toList).bind Cut.transcript?

private theorem Cut.transcript?_run (chars : List Char) (k : Cut) :
    (k.run chars).transcript? = k.transcript?.map (.run chars) := by
  simp only [transcript?, run, Option.map_map]
  rfl

private theorem Cut.transcript?_tag (m : Markup) (k : Cut) :
    (k.tag m.chars).transcript? = k.transcript?.map (.tag m.text) := by
  simp only [transcript?, tag, List.mapM_cons, Markup.readTag_chars]
  cases k.tags.mapM fun tag => (readTag tag.1).map (·, tag.2) <;> rfl

variable {α : Type}

/-- The transcript of the text of a document with a text behind it. -/
def transcriptBefore : Html α → Transcript → Transcript
  | empty, t => t
  | text content, t => t.run (escapeText content.toList)
  | element tag attrs classes _ body, t =>
    .tag (Markup.start tag attrs classes).text
      (body.transcriptBefore (if tag.isVoid then t else t.tag (Markup.stop tag).text))
  | append first second, t => first.transcriptBefore (second.transcriptBefore t)

def transcript (h : Html α) : Transcript := h.transcriptBefore .nil

private theorem transcript?_cutBefore (h : Html α) (k : Cut) :
    (h.cutBefore k).transcript? = k.transcript?.map h.transcriptBefore := by
  induction h generalizing k with
  | empty => exact Option.map_id_fun.symm ▸ rfl
  | text content => exact Cut.transcript?_run _ k
  | element tag attrs classes onClick body ih =>
    have hstop : (if tag.isVoid then k else k.tag (Markup.stop tag).chars).transcript? =
        k.transcript?.map fun t => if tag.isVoid then t else t.tag (Markup.stop tag).text := by
      cases tag.isVoid with
      | true => simp
      | false => exact Cut.transcript?_tag _ k
    rw [cutBefore, Cut.transcript?_tag, ih, hstop, Option.map_map, Option.map_map]
    rfl
  | append first second ihFirst ihSecond =>
    rw [cutBefore, ihFirst, ihSecond, Option.map_map]
    rfl

theorem transcript?_render (h : Html α) : transcript? h.render = some h.transcript := by
  rw [transcript?, cut_render, Option.bind_some, transcript?_cutBefore]
  rfl

private theorem runs_transcriptBefore (h : Html α) (t : Transcript) :
    (h.transcriptBefore t).runs = escapeText h.visibleText.toList ++ t.runs := by
  induction h generalizing t with
  | empty => rfl
  | text content => exact Transcript.runs_run _ t
  | element tag attrs classes onClick body ih =>
    rw [transcriptBefore, Transcript.runs_tag, ih]
    cases tag.isVoid <;> simp [Transcript.runs_tag, visibleText]
  | append first second ihFirst ihSecond =>
    rw [transcriptBefore, ihFirst, ihSecond, visibleText, String.toList_append, escapeText_append,
      List.append_assoc]

/-- Without its tags the text of a document is the escaped visible text. -/
theorem runs_transcript (h : Html α) : h.transcript.runs = escapeText h.visibleText.toList := by
  rw [transcript, runs_transcriptBefore]
  exact List.append_nil _

theorem TagText.chars_text (m : Markup) : m.text.chars = m.chars := by
  cases m with
  | start tag attrs classes =>
    have hattrs : (attrs.map fun attr =>
        (attr.name.name.toList, escapeValue attr.value.toList)).flatMap
          (fun (name, value) => ' ' :: (name ++ '=' :: '"' :: (value ++ ['"']))) =
        attrs.flatMap Attr.write := by
      rw [List.flatMap_map]
      rfl
    simp only [Markup.text, Markup.attrTexts, chars, Markup.chars, List.flatMap_append, hattrs]
    cases classes <;> simp [writeClasses, writeAttr]
  | stop tag => simp [Markup.text, chars, Markup.chars]

private theorem write_transcriptBefore (h : Html α) (t : Transcript) :
    (h.transcriptBefore t).write = h.write ++ t.write := by
  induction h generalizing t with
  | empty => rfl
  | text content => exact Transcript.write_run _ t
  | element tag attrs classes onClick body ih =>
    have hstop : (if tag.isVoid then t else t.tag (Markup.stop tag).text).write =
        tag.writeEnd ++ t.write := by
      unfold Tag.writeEnd
      cases tag.isVoid with
      | true => rfl
      | false => simp [Transcript.write_tag, TagText.chars_text, Markup.chars]
    rw [transcriptBefore, Transcript.write_tag, ih, TagText.chars_text, hstop]
    simp [write, Tag.writeStart, Markup.chars]
  | append first second ihFirst ihSecond =>
    rw [transcriptBefore, ihFirst, ihSecond, write, List.append_assoc]

theorem write_transcript (h : Html α) : h.transcript.write = h.render.toList := by
  rw [transcript, write_transcriptBefore, toList_render]
  exact List.append_nil _

end LandingPage.Html
