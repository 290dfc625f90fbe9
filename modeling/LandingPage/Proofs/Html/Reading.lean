import LandingPage.Html.Writer

/-!
# Reading a text as tags and runs

A text is cut at its angle brackets into tags and the runs of characters between them, and a tag is
read as its name and its attributes. The reading knows nothing of documents; that it finds in the
text of a document the tags and texts of the document is shown here once for all documents.
-/
namespace LandingPage.Html

/-- A text cut at its angle brackets: the run before the first tag, then every tag with the run after
it. Tags are without their brackets, and everything is still as written. -/
structure Cut where
  lead : List Char
  tags : List (List Char × List Char)

namespace Cut

def nil : Cut := ⟨[], []⟩

def run (chars : List Char) (k : Cut) : Cut := ⟨chars ++ k.lead, k.tags⟩

def tag (chars : List Char) (k : Cut) : Cut := ⟨[], (chars, k.lead) :: k.tags⟩

end Cut

mutual

/-- Cuts a text that begins outside of tags. A `>` there is an error. -/
def cut : List Char → Option Cut
  | [] => some .nil
  | '<' :: rest => (cutTag rest).map fun (chars, k) => k.tag chars
  | '>' :: _ => none
  | c :: rest => (cut rest).map (.run [c])

/-- Cuts a text that begins inside a tag, into the rest of the tag and what follows. A `<` there and
a tag without an end are errors. -/
def cutTag : List Char → Option (List Char × Cut)
  | [] => none
  | '>' :: rest => (cut rest).map fun k => ([], k)
  | '<' :: _ => none
  | c :: rest => (cutTag rest).map fun (chars, k) => (c :: chars, k)

end

/-- A tag as it stands in a text: its name, with the slash if it is an end tag, and the names and
values of its attributes as written. -/
structure TagText where
  name : List Char
  attrs : List (List Char × List Char)
  deriving DecidableEq

mutual

def readAttrs : List Char → Option (List (List Char × List Char))
  | [] => some []
  | ' ' :: rest => (readName rest).map fun (name, value, attrs) => (name, value) :: attrs
  | _ => none

def readName : List Char → Option (List Char × List Char × List (List Char × List Char))
  | '=' :: '"' :: rest => (readValue rest).map fun (value, attrs) => ([], value, attrs)
  | '=' :: _ => none
  | c :: rest => (readName rest).map fun (name, value, attrs) => (c :: name, value, attrs)
  | [] => none

def readValue : List Char → Option (List Char × List (List Char × List Char))
  | '"' :: rest => (readAttrs rest).map fun attrs => ([], attrs)
  | c :: rest => (readValue rest).map fun (value, attrs) => (c :: value, attrs)
  | [] => none

end

def readTag : List Char → Option TagText
  | [] => some ⟨[], []⟩
  | ' ' :: rest => (readAttrs (' ' :: rest)).map fun attrs => ⟨[], attrs⟩
  | c :: rest => (readTag rest).map fun t => ⟨c :: t.name, t.attrs⟩

theorem cut_run {chars : List Char} (h : ∀ c ∈ chars, c ≠ '<' ∧ c ≠ '>')
    (rest : List Char) : cut (chars ++ rest) = (cut rest).map (.run chars) := by
  induction chars with
  | nil =>
    have hrun : Cut.run [] = id := rfl
    rw [List.nil_append, hrun, Option.map_id_fun, id]
  | cons c chars ih =>
    have hc := h c List.mem_cons_self
    have hchars := ih fun d hd => h d (List.mem_cons_of_mem _ hd)
    rw [List.cons_append, cut, hchars, Option.map_map]
    · rfl
    · exact hc.1
    · exact hc.2

private theorem cutTag_tag {chars : List Char} (h : ∀ c ∈ chars, c ≠ '<' ∧ c ≠ '>')
    (rest : List Char) : cutTag (chars ++ '>' :: rest) = (cut rest).map fun k => (chars, k) := by
  induction chars with
  | nil => rfl
  | cons c chars ih =>
    have hc := h c List.mem_cons_self
    have hchars := ih fun d hd => h d (List.mem_cons_of_mem _ hd)
    rw [List.cons_append, cutTag, hchars, Option.map_map]
    · rfl
    · exact hc.2
    · exact hc.1

theorem cut_tag {chars : List Char} (h : ∀ c ∈ chars, c ≠ '<' ∧ c ≠ '>') (rest : List Char) :
    cut ('<' :: (chars ++ '>' :: rest)) = (cut rest).map (.tag chars) := by
  rw [cut, cutTag_tag h, Option.map_map]
  rfl

private theorem readName_append {name : List Char} (h : ∀ c ∈ name, c ≠ '=') (rest : List Char) :
    readName (name ++ '=' :: '"' :: rest) =
      (readValue rest).map fun (value, attrs) => (name, value, attrs) := by
  induction name with
  | nil => rw [List.nil_append, readName]
  | cons c name ih =>
    have hname := ih fun d hd => h d (List.mem_cons_of_mem _ hd)
    have hc : c ≠ '=' := h c List.mem_cons_self
    rw [List.cons_append, readName, hname, Option.map_map]
    · rfl
    · intro _ he
      exact absurd he hc
    · exact hc

private theorem readValue_append {value : List Char} (h : ∀ c ∈ value, c ≠ '"')
    (rest : List Char) :
    readValue (value ++ '"' :: rest) = (readAttrs rest).map fun attrs => (value, attrs) := by
  induction value with
  | nil => rw [List.nil_append, readValue]
  | cons c value ih =>
    have hvalue := ih fun d hd => h d (List.mem_cons_of_mem _ hd)
    rw [List.cons_append, readValue, hvalue, Option.map_map]
    · rfl
    · exact h c List.mem_cons_self

theorem readAttrs_writeAttr {name : String} (h : ∀ c ∈ name.toList, c ≠ '=') (value : String)
    (rest : List Char) :
    readAttrs (writeAttr name value ++ rest) =
      (readAttrs rest).map fun attrs => (name.toList, escapeValue value.toList) :: attrs := by
  have hvalue : ∀ c ∈ escapeValue value.toList, c ≠ '"' := fun c hc =>
    (not_special_of_mem_escapeValue hc).2.2
  simp only [writeAttr, List.cons_append, List.append_assoc, List.nil_append]
  rw [readAttrs, readName_append h, readValue_append hvalue, Option.map_map, Option.map_map]
  rfl

theorem readTag_append {name : List Char} (h : ∀ c ∈ name, c ≠ ' ') {attrs : List Char}
    (hattrs : attrs = [] ∨ ∃ rest, attrs = ' ' :: rest) :
    readTag (name ++ attrs) = (readAttrs attrs).map fun read => ⟨name, read⟩ := by
  induction name with
  | nil =>
    rcases hattrs with rfl | ⟨rest, rfl⟩
    · rfl
    · rw [List.nil_append, readTag]
  | cons c name ih =>
    have hname := ih fun d hd => h d (List.mem_cons_of_mem _ hd)
    rw [List.cons_append, readTag, hname, Option.map_map]
    · rfl
    · exact h c List.mem_cons_self

end LandingPage.Html
