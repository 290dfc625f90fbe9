import LandingPage.Proofs.Html.Transcript
import LandingPage.Proofs.Html.Values
import LandingPage.View.Card

/-!
# What a line of code tells

A token with a colour stands in a span of its own, and punctuation stands bare between the spans. So
the text of a line does not show where one piece of punctuation ends and the next begins, nor a piece
without characters, but it shows everything else: the tokens that are read back from it are the normal
form of those that it was drawn from.
-/
namespace LandingPage

open Html

namespace Token

def isEmptyPunct (t : Token) : Bool :=
  t.kind = .punct && t.text = ""

def joinTo (t : Token) : List Token → List Token
  | [] => [t]
  | u :: more =>
    if t.kind = .punct ∧ u.kind = .punct then ⟨.punct, t.text ++ u.text⟩ :: more
    else t :: u :: more

private theorem joinTo_of_ne {t : Token} (ht : t.kind ≠ .punct) (tokens : List Token) :
    t.joinTo tokens = t :: tokens := by
  cases tokens with
  | nil => rfl
  | cons u more => rw [joinTo, if_neg fun h => ht h.1]

private theorem joinTo_of_head?_ne (t : Token) {tokens : List Token}
    (h : ∀ u ∈ tokens.head?, u.kind ≠ .punct) : t.joinTo tokens = t :: tokens := by
  cases tokens with
  | nil => rfl
  | cons u more => rw [joinTo, if_neg fun hboth => h u rfl hboth.2]

end Token

/-- Drops punctuation without characters and joins each run of punctuation to one token. -/
def normalTokens (tokens : List Token) : List Token :=
  (tokens.filter fun t => !t.isEmptyPunct).foldr Token.joinTo []

private theorem normalTokens_cons (t : Token) (tokens : List Token) :
    normalTokens (t :: tokens) =
      if t.isEmptyPunct then normalTokens tokens else t.joinTo (normalTokens tokens) := by
  cases h : t.isEmptyPunct <;> simp [normalTokens, h]

private def TokenKind.ofColour? (colour : String) : Option TokenKind :=
  [comment, keyword, identifier, str, literal, punct].find? fun kind => kind.colour? = some colour

private theorem TokenKind.ne_punct_of_ofColour? {colour : String} {kind : TokenKind}
    (h : ofColour? colour = some kind) : kind ≠ punct := by
  have hcolour := List.find?_some h
  rintro rfl
  simp [colour?] at hcolour

namespace Html

private def bareTokens (run : List Char) : List Token :=
  if run = [] then [] else [⟨.punct, String.ofList (decode run)⟩]

/-- The spans among tags with the runs after them, and the punctuation between them. -/
private def spanTokens : List (TagText × List Char) → List Token
  | (start, inside) :: (_, after) :: tags =>
    match (start.value? "class").bind TokenKind.ofColour? with
    | some kind => ⟨kind, String.ofList (decode inside)⟩ :: (bareTokens after ++ spanTokens tags)
    | none => []
  | _ => []

def Transcript.tokens (t : Transcript) : List Token :=
  bareTokens t.lead ++ spanTokens t.tags

private theorem kind_ne_punct_of_head?_spanTokens {tags : List (TagText × List Char)} {u : Token}
    (hu : u ∈ (spanTokens tags).head?) : u.kind ≠ .punct := by
  unfold spanTokens at hu
  split at hu
  · split at hu
    · rename_i kind hkind
      obtain ⟨colour, -, hcolour⟩ := Option.bind_eq_some_iff.1 hkind
      obtain rfl := Option.some.inj hu
      exact TokenKind.ne_punct_of_ofColour? hcolour
    · simp at hu
  · simp at hu

/-- Punctuation before a text is read together with the punctuation that the text begins with. -/
private theorem tokens_run {s : String} (hs : s ≠ "") (t : Transcript) :
    (t.run (escapeText s.toList)).tokens = Token.joinTo ⟨.punct, s⟩ t.tokens := by
  have hrun : escapeText s.toList ++ t.lead ≠ [] := by
    intro hnil
    have hdecode := decode_escapeText s.toList
    rw [(List.append_eq_nil_iff.1 hnil).1] at hdecode
    exact hs (String.toList_eq_nil_iff.1 hdecode.symm)
  have hread : bareTokens (escapeText s.toList ++ t.lead) =
      [⟨.punct, s ++ String.ofList (decode t.lead)⟩] := by
    rw [bareTokens, if_neg hrun, decode_escapeText_append, String.ofList_append,
      String.ofList_toList]
  rw [Transcript.tokens, Transcript.run, hread, Transcript.tokens, bareTokens]
  split
  · rename_i hlead
    rw [hlead, List.nil_append, Token.joinTo_of_head?_ne _ fun u => kind_ne_punct_of_head?_spanTokens]
    simp [decode]
  · rfl

private theorem ofColour?_span {kind : TokenKind} {colour : String}
    (hcolour : kind.colour? = some colour) :
    ((Markup.start .span [] (ClassList.ofTexts [colour]).text?).text.value? "class").bind
      TokenKind.ofColour? = some kind := by
  cases kind <;> cases hcolour <;> decide

private theorem tokens_codeToken {u : Token} (hu : u.isEmptyPunct = false) (t : Transcript) :
    ((codeToken u).transcriptBefore t).tokens = u.joinTo t.tokens := by
  obtain ⟨kind, s⟩ := u
  cases hcolour : kind.colour? with
  | some colour =>
    have hkind : kind ≠ .punct := by
      rintro rfl
      simp [TokenKind.colour?] at hcolour
    have hspan : (codeToken ⟨kind, s⟩).transcriptBefore t =
        Transcript.tag (Markup.start .span [] (ClassList.ofTexts [colour]).text?).text
          ((t.tag (Markup.stop .span).text).run (escapeText s.toList)) := by
      simp only [codeToken, hcolour]
      rfl
    rw [hspan, Token.joinTo_of_ne hkind]
    simp only [Transcript.tokens, Transcript.tag, Transcript.run, bareTokens, if_true,
      List.nil_append, spanTokens, ofColour?_span hcolour, List.append_nil, decode_escapeText,
      String.ofList_toList]
  | none =>
    have hkind : kind = .punct := by
      cases kind <;> simp [TokenKind.colour?] at hcolour ⊢
    subst hkind
    have hs : s ≠ "" := by simpa [Token.isEmptyPunct] using hu
    exact tokens_run hs t

private theorem eq_text_of_isEmptyPunct {u : Token} (hu : u.isEmptyPunct = true) :
    codeToken u = .text "" := by
  obtain ⟨kind, s⟩ := u
  obtain ⟨rfl, rfl⟩ : kind = .punct ∧ s = "" := by simpa [Token.isEmptyPunct] using hu
  rfl

/-- The tokens that are read back are the normal form of those drawn. -/
theorem tokens_codeTokens (us : List Token) :
    ((join (us.map codeToken)).transcriptBefore (Transcript.nil.tag (Markup.stop .div).text)).tokens =
      normalTokens us := by
  induction us with
  | nil => rfl
  | cons u us ih =>
    rw [normalTokens_cons, List.map_cons, join, transcriptBefore]
    cases hu : u.isEmptyPunct with
    | true =>
      rw [eq_text_of_isEmptyPunct hu]
      exact ih
    | false =>
      rw [tokens_codeToken hu, ih]
      rfl

private theorem write_joinTo (u : Token) (us : List Token) :
    (join ((u.joinTo us).map codeToken)).write =
      (codeToken u).write ++ (join (us.map codeToken)).write := by
  cases us with
  | nil => rfl
  | cons v us =>
    rw [Token.joinTo]
    split
    · rename_i hboth
      obtain ⟨kind, s⟩ := u
      obtain ⟨kind', s'⟩ := v
      obtain ⟨rfl, rfl⟩ := hboth
      simp [codeToken, TokenKind.colour?, join, write, escapeText_append]
    · rfl

theorem write_normalTokens (us : List Token) :
    (join ((normalTokens us).map codeToken)).write = (join (us.map codeToken)).write := by
  induction us with
  | nil => rfl
  | cons u us ih =>
    rw [normalTokens_cons, List.map_cons, join, write, ← ih]
    cases hu : u.isEmptyPunct with
    | true =>
      rw [eq_text_of_isEmptyPunct hu]
      rfl
    | false => exact write_joinTo u _

end Html

def CodeLine.classes? (gap indent : Bool) : Option String :=
  (ClassList.ofTexts
    ((if gap then ["mt-4"] else []) ++ (if indent then ["ml-4"] else []))).text?

private theorem flags_eq_of_value?_eq {gap indent gap' indent' : Bool}
    (h : (Markup.start .div [] (CodeLine.classes? gap indent)).text.value? "class" =
      (Markup.start .div [] (CodeLine.classes? gap' indent')).text.value? "class") :
    gap = gap' ∧ indent = indent' := by
  revert h
  revert gap indent gap' indent'
  decide

private theorem transcript_codeLine (line : CodeLine) :
    (codeLine line).transcript =
      Transcript.tag (Markup.start .div [] (CodeLine.classes? line.gap line.indent)).text
        ((join (line.tokens.map codeToken)).transcriptBefore
          (Transcript.nil.tag (Markup.stop .div).text)) := rfl

/-- The text of a line tells its flags and the normal form of its tokens, and nothing else. -/
theorem render_codeLine_eq_iff (line line' : CodeLine) :
    (codeLine line).render = (codeLine line').render ↔
      line.gap = line'.gap ∧ line.indent = line'.indent ∧
        normalTokens line.tokens = normalTokens line'.tokens := by
  constructor
  · intro h
    have htranscript : (codeLine line).transcript = (codeLine line').transcript := by
      have hread := transcript?_render (codeLine line)
      rw [h, transcript?_render, Option.some_inj] at hread
      exact hread.symm
    rw [transcript_codeLine, transcript_codeLine] at htranscript
    obtain ⟨hstart, hrest⟩ := Transcript.tag_inj.1 htranscript
    obtain ⟨hgap, hindent⟩ := flags_eq_of_value?_eq (congrArg (TagText.value? · "class") hstart)
    refine ⟨hgap, hindent, ?_⟩
    rw [← tokens_codeTokens, hrest, tokens_codeTokens]
  · rintro ⟨hgap, hindent, htokens⟩
    have hbody : (join (line.tokens.map codeToken)).write =
        (join (line'.tokens.map codeToken)).write := by
      rw [← write_normalTokens, htokens, write_normalTokens]
    rw [render_eq_iff, codeLine, codeLine, hgap, hindent, node, node, write, write, hbody]

example : normalTokens
    [⟨.punct, "<span>"⟩, ⟨.punct, ""⟩, ⟨.punct, "x"⟩, ⟨.comment, ""⟩, ⟨.punct, "</span>"⟩] =
      [⟨.punct, "<span>x"⟩, ⟨.comment, ""⟩, ⟨.punct, "</span>"⟩] := by
  decide

end LandingPage
