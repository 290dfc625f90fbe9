import LandingPage.Proofs.Html.Transcript

namespace LandingPage.Html

/-- Replaces the three entities of character data in one pass; an ampersand that begins none of them
stays. -/
def decodeText : List Char → List Char
  | '&' :: 'a' :: 'm' :: 'p' :: ';' :: rest => '&' :: decodeText rest
  | '&' :: 'l' :: 't' :: ';' :: rest => '<' :: decodeText rest
  | '&' :: 'g' :: 't' :: ';' :: rest => '>' :: decodeText rest
  | c :: rest => c :: decodeText rest
  | [] => []

/-- Deletes the tags and then replaces the entities. -/
def readText (text : String) : Option String :=
  (transcript? text).map fun t => String.ofList (decodeText t.runs)

private theorem decodeText_cons_of_ne {c : Char} (h : c ≠ '&') (rest : List Char) :
    decodeText (c :: rest) = c :: decodeText rest := by
  rw [decodeText.eq_4] <;> simp [h]

private theorem decodeText_escapeTextChar (c : Char) (rest : List Char) :
    decodeText (escapeTextChar c ++ rest) = c :: decodeText rest := by
  unfold escapeTextChar
  split
  · simp [decodeText]
  · simp [decodeText]
  · simp [decodeText]
  · rename_i hamp _ _
    exact decodeText_cons_of_ne hamp rest

theorem decodeText_escapeText (text : List Char) : decodeText (escapeText text) = text := by
  induction text with
  | nil => rfl
  | cons c text ih =>
    rw [escapeText, List.flatMap_cons, decodeText_escapeTextChar]
    exact congrArg (c :: ·) ih

variable {α : Type}

theorem readText_render (h : Html α) : readText h.render = some h.visibleText := by
  rw [readText, transcript?_render, Option.map_some, runs_transcript, decodeText_escapeText,
    String.ofList_toList]

/-- What the pass has replaced is not read again, also where a tag stood in between. -/
example : readText "<p>&amp;l<strong></strong>t; &amp;quot;</p>" = some "&lt; &quot;" := by decide

@[simp] theorem visibleText_join (hs : List (Html α)) :
    (join hs).visibleText = String.join (hs.map visibleText) := by
  induction hs with
  | nil => rfl
  | cons h hs ih => rw [join, visibleText, ih, List.map_cons, String.join_cons]

@[simp] theorem visibleText_node (tag : Tag) (attrs : List Attr) (classes : Option String)
    (hs : List (Html α)) :
    (node tag attrs classes hs).visibleText = String.join (hs.map visibleText) :=
  visibleText_join hs

@[simp] theorem visibleText_styled (tag : Tag) (classes : String) (hs : List (Html α)) :
    (styled tag classes hs).visibleText = String.join (hs.map visibleText) :=
  visibleText_join hs

@[simp] theorem visibleText_plain (tag : Tag) (hs : List (Html α)) :
    (plain tag hs).visibleText = String.join (hs.map visibleText) :=
  visibleText_join hs

end LandingPage.Html
