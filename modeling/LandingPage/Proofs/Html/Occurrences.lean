import LandingPage.Proofs.Html.Transcript
import LandingPage.Proofs.Html.Values
import LandingPage.Proofs.Text.Occurrences

/-!
# Markup in the text of a document

Some texts can stand in the text of a document only where its start tags are: those that begin with a
raw `<` and a name, and those with a quote that run up to a raw `>`. No text or value of the document
can spell one, alone or together with its neighbours, since the brackets in it are escaped. Such a text
is as often in the text of the document as it is in the start tags, each taken by itself.
-/
namespace LandingPage.Html

open Text

/-- The text does not go on inside a tag: no `>` is in it before the first `<`. -/
def OutsideTags (text : List Char) : Prop :=
  '>' ∉ text.takeWhile (· ≠ '<')

private theorem outsideTags_nil : OutsideTags [] := by
  simp [OutsideTags]

private theorem outsideTags_tag (rest : List Char) : OutsideTags ('<' :: rest) := by
  simp [OutsideTags]

theorem OutsideTags.cons {rest : List Char} (h : OutsideTags rest) {c : Char} (hc : c ≠ '>') :
    OutsideTags (c :: rest) := by
  unfold OutsideTags at h ⊢
  by_cases hlt : c = '<'
  · simp [hlt]
  · simpa [hlt, hc.symm] using h

theorem OutsideTags.append {rest : List Char} (h : OutsideTags rest) {run : List Char}
    (hrun : ∀ c ∈ run, c ≠ '>') : OutsideTags (run ++ rest) := by
  induction run with
  | nil => exact h
  | cons c run ih =>
    exact (ih fun d hd => hrun d (List.mem_cons_of_mem c hd)).cons (hrun c List.mem_cons_self)

def TagText.write (t : TagText) : List Char :=
  '<' :: (t.chars ++ ['>'])

/-- The needle does not begin in a run, does not reach over the end of a tag and is in no end tag. -/
structure FoundInStarts (needle : List Char) : Prop where
  run : ∀ {c rest}, c ≠ '<' → c ≠ '>' → OutsideTags rest → ¬needle <+: c :: rest
  tag : ∀ {chars} rest, (∀ c ∈ chars, c ≠ '<' ∧ c ≠ '>') →
    count needle ('<' :: (chars ++ '>' :: rest)) =
      count needle ('<' :: (chars ++ ['>'])) + count needle rest
  stop : ∀ tag : Tag, count needle (Markup.stop tag).text.write = 0

private theorem count_append_of_not_mem {d : Char} {needle s : List Char} (h : d ∉ s)
    (rest : List Char) : count (d :: needle) (s ++ rest) = count (d :: needle) rest := by
  induction s with
  | nil => rfl
  | cons c s ih =>
    obtain ⟨hc, hs⟩ := not_or.1 fun hor => h (List.mem_cons.2 hor)
    have hbegins : (d :: needle).isPrefixOf (c :: (s ++ rest)) = false := by
      simp [List.isPrefixOf, hc]
    rw [List.cons_append, count_cons, hbegins, ih hs]
    exact Nat.zero_add _

private theorem prefix_append_cons_iff {x : Char} {p s : List Char} (h : x ∉ p)
    (rest : List Char) : p <+: s ++ x :: rest ↔ p <+: s := by
  induction s generalizing p with
  | nil =>
    cases p with
    | nil => simp
    | cons y p =>
      have hyx : y ≠ x := fun he => h (he ▸ List.mem_cons_self)
      simp [hyx]
  | cons c s ih =>
    cases p with
    | nil => simp
    | cons y p =>
      have hp : x ∉ p := fun hx => h (List.mem_cons_of_mem y hx)
      rw [List.cons_append, List.cons_prefix_cons, List.cons_prefix_cons, ih hp]

private theorem count_append_open {name chars : List Char} (hclosed : '>' ∉ name)
    (hchars : ∀ c ∈ chars, c ≠ '<' ∧ c ≠ '>') (rest : List Char) :
    count ('<' :: name) ('<' :: (chars ++ '>' :: rest)) =
      (if name <+: chars then 1 else 0) + count ('<' :: name) rest := by
  have hbare : '<' ∉ chars ++ ['>'] := by
    simpa using fun h => (hchars _ h).1 rfl
  have hstart : ('<' :: name).isPrefixOf ('<' :: (chars ++ '>' :: rest)) =
      decide (name <+: chars) := by
    rw [Bool.eq_iff_iff, List.isPrefixOf_iff_prefix, decide_eq_true_iff, List.cons_prefix_cons,
      prefix_append_cons_iff hclosed]
    exact and_iff_right rfl
  rw [count_cons, hstart, List.append_cons, count_append_of_not_mem hbare]
  simp only [decide_eq_true_eq]

theorem foundInStarts_open {c : Char} {name : List Char} (hslash : c ≠ '/')
    (hclosed : '>' ∉ c :: name) : FoundInStarts ('<' :: c :: name) where
  run hlt _ _ hbegins := hlt (List.cons_prefix_cons.1 hbegins).1.symm
  tag := by
    intro chars rest hchars
    have hcount := count_append_open hclosed hchars
    rw [hcount, hcount, count_nil (List.cons_ne_nil '<' _), Nat.add_zero]
  stop := by
    intro tag
    have hcount := count_append_open hclosed
      (fun d hd => Markup.not_angle_of_mem_chars (m := .stop tag) hd) []
    rw [TagText.write, TagText.chars_text, hcount, count_nil (List.cons_ne_nil '<' _)]
    simp [Markup.chars, hslash]

private theorem append_mark_prefix_iff {x : Char} {p s : List Char} (hp : x ∉ p) (hs : x ∉ s)
    (rest : List Char) : p ++ [x] <+: s ++ x :: rest ↔ p = s := by
  induction p generalizing s with
  | nil =>
    cases s with
    | nil => simp
    | cons c s =>
      have hxc : x ≠ c := fun he => hs (he ▸ List.mem_cons_self)
      simp [hxc]
  | cons y p ih =>
    cases s with
    | nil =>
      have hyx : y ≠ x := fun he => hp (he ▸ List.mem_cons_self)
      simp [hyx]
    | cons c s =>
      have hp' : x ∉ p := fun hx => hp (List.mem_cons_of_mem y hx)
      have hs' : x ∉ s := fun hx => hs (List.mem_cons_of_mem c hx)
      rw [List.cons_append, List.cons_append, List.cons_prefix_cons, ih hp' hs', List.cons.injEq]

private theorem count_append_close {p s : List Char} (hp : p ≠ []) (hclosed : '>' ∉ p)
    (hs : '>' ∉ s) (rest : List Char) :
    count (p ++ ['>']) (s ++ '>' :: rest) =
      (if p <:+ s then 1 else 0) + count (p ++ ['>']) rest := by
  have hreach {s : List Char} (hs : '>' ∉ s) :
      (p ++ ['>']).isPrefixOf (s ++ '>' :: rest) = decide (p = s) := by
    rw [Bool.eq_iff_iff, List.isPrefixOf_iff_prefix, decide_eq_true_iff,
      append_mark_prefix_iff hclosed hs]
  induction s with
  | nil =>
    have hfirst := hreach hs
    rw [List.nil_append] at hfirst
    rw [List.nil_append, count_cons, hfirst]
    simp [hp]
  | cons c s ih =>
    have hfirst := hreach hs
    rw [List.cons_append] at hfirst
    rw [List.cons_append, count_cons, hfirst, ih fun h => hs (List.mem_cons_of_mem c h)]
    by_cases hwhole : p = c :: s
    · have hshort : ¬p <:+ s := fun h => by
        have hle := h.length_le
        rw [hwhole, List.length_cons] at hle
        omega
      simp [hwhole, hwhole ▸ hshort]
    · simp [hwhole, List.suffix_cons_iff]

/-- The quote is there because no end tag has one. -/
theorem foundInStarts_close {needle : List Char} (hlast : needle.getLast? = some '>')
    (hopen : '<' ∉ needle.tail) (hclosed : '>' ∉ needle.dropLast) (hquote : '"' ∈ needle) :
    FoundInStarts needle := by
  obtain ⟨p, rfl⟩ := List.getLast?_eq_some_iff.1 hlast
  have hp : p ≠ [] := by
    rintro rfl
    exact absurd hquote (by decide)
  rw [List.dropLast_concat] at hclosed
  refine ⟨?_, ?_, ?_⟩
  · rintro c rest hlt hgt hrest ⟨more, htext⟩
    cases p with
    | nil => exact hp rfl
    | cons d p =>
      rw [List.cons_append, List.cons_append, List.append_assoc] at htext
      obtain ⟨rfl, hrun⟩ := List.cons.inj htext
      -- the needle brings a bracket that closes a tag outside of tags
      have hbare : ∀ e ∈ p, decide (e ≠ '<') = true := fun e he =>
        decide_eq_true fun heq => hopen (List.mem_append_left _ (heq ▸ he))
      rw [← hrun, OutsideTags, List.takeWhile_append_of_pos hbare] at hrest
      exact hrest (by simp)
  · intro chars rest hchars
    have hinside : '>' ∉ '<' :: chars := by
      simpa using fun h => (hchars _ h).2 rfl
    have hcount := count_append_close hp hclosed hinside
    rw [← List.cons_append, ← List.cons_append, hcount, hcount, count_nil (by simp), Nat.add_zero]
  · intro tag
    have hinside : '>' ∉ '<' :: (Markup.stop tag).chars := by
      simpa using fun h => (Markup.not_angle_of_mem_chars h).2 rfl
    have hcount := count_append_close hp hclosed hinside []
    have hnone : ¬p <:+ '<' :: (Markup.stop tag).chars := fun h => by
      have hmem : '"' ∈ '<' :: (Markup.stop tag).chars := h.subset (by simpa using hquote)
      cases tag <;> simp [Markup.chars, Tag.name] at hmem
    rw [TagText.write, TagText.chars_text, ← List.cons_append, hcount, if_neg hnone,
      count_nil (by simp)]

variable {α : Type}

def starts (h : Html α) : List TagText :=
  h.elements.map Element.tagText

private theorem OutsideTags.write_append (h : Html α) {rest : List Char}
    (hrest : OutsideTags rest) : OutsideTags (h.write ++ rest) := by
  induction h generalizing rest with
  | empty => exact hrest
  | text content => exact hrest.append fun c hc => (not_angle_of_mem_escapeText hc).2
  | element tag attrs classes onClick body ih => exact outsideTags_tag _
  | append first second ihFirst ihSecond =>
    rw [write, List.append_assoc]
    exact ihFirst (ihSecond hrest)

private theorem OutsideTags.writeEnd_append (tag : Tag) {rest : List Char}
    (hrest : OutsideTags rest) : OutsideTags (tag.writeEnd ++ rest) := by
  unfold Tag.writeEnd
  split
  · exact hrest
  · exact outsideTags_tag _

namespace FoundInStarts

variable {needle : List Char}

theorem ne_nil (hfound : FoundInStarts needle) : needle ≠ [] := by
  rintro rfl
  exact hfound.run (by decide : 'a' ≠ '<') (by decide) outsideTags_nil List.nil_prefix

private theorem count_run (hfound : FoundInStarts needle) {run : List Char}
    (hrun : ∀ c ∈ run, c ≠ '<' ∧ c ≠ '>') {rest : List Char} (hrest : OutsideTags rest) :
    count needle (run ++ rest) = count needle rest := by
  induction run with
  | nil => rfl
  | cons c run ih =>
    have hc := hrun c List.mem_cons_self
    have hafter (d : Char) (hd : d ∈ run) := hrun d (List.mem_cons_of_mem c hd)
    have hnone : needle.isPrefixOf (c :: (run ++ rest)) = false := by
      rw [Bool.eq_false_iff]
      exact fun h => hfound.run hc.1 hc.2 (hrest.append fun d hd => (hafter d hd).2)
        (List.isPrefixOf_iff_prefix.1 h)
    rw [List.cons_append, count_cons, hnone, ih hafter]
    exact Nat.zero_add _

private theorem count_tag (hfound : FoundInStarts needle) (m : Markup) (rest : List Char) :
    count needle ('<' :: (m.chars ++ '>' :: rest)) =
      count needle m.text.write + count needle rest := by
  rw [hfound.tag rest fun c hc => Markup.not_angle_of_mem_chars hc, TagText.write,
    TagText.chars_text]

private theorem count_writeEnd (hfound : FoundInStarts needle) (tag : Tag) (rest : List Char) :
    count needle (tag.writeEnd ++ rest) = count needle rest := by
  unfold Tag.writeEnd
  split
  · rfl
  · have htag := hfound.count_tag (.stop tag) rest
    rw [hfound.stop, Nat.zero_add] at htag
    simpa [Markup.chars] using htag

/-- The needle is in the text of a document as often as in its start tags. -/
private theorem count_write_append (hfound : FoundInStarts needle) (h : Html α) {rest : List Char}
    (hrest : OutsideTags rest) :
    count needle (h.write ++ rest) =
      (h.starts.map fun t => count needle t.write).sum + count needle rest := by
  induction h generalizing rest with
  | empty => exact (Nat.zero_add _).symm
  | text content =>
    rw [write, hfound.count_run (fun c hc => not_angle_of_mem_escapeText hc) hrest]
    exact (Nat.zero_add _).symm
  | element tag attrs classes onClick body ih =>
    have hwrite : (element tag attrs classes onClick body).write ++ rest =
        '<' :: ((Markup.start tag attrs classes).chars ++
          '>' :: (body.write ++ (tag.writeEnd ++ rest))) := by
      simp [write, Tag.writeStart, Markup.chars]
    rw [hwrite, hfound.count_tag, ih (hrest.writeEnd_append tag), hfound.count_writeEnd]
    exact (Nat.add_assoc _ _ _).symm
  | append first second ihFirst ihSecond =>
    rw [write, List.append_assoc, ihFirst (hrest.write_append second), ihSecond hrest]
    simp [starts, elements, Nat.add_assoc]

theorem count_write (hfound : FoundInStarts needle) (h : Html α) :
    count needle h.write = (h.starts.map fun t => count needle t.write).sum := by
  have hcount := hfound.count_write_append h outsideTags_nil
  rwa [List.append_nil, count_nil hfound.ne_nil] at hcount

end FoundInStarts

@[simp] theorem starts_node (tag : Tag) (attrs : List Attr) (classes : Option String)
    (hs : List (Html α)) :
    (node tag attrs classes hs).starts =
      (Markup.start tag attrs classes).text :: hs.flatMap starts := by
  have hbody : (join hs).starts = hs.flatMap starts := by
    rw [starts, elements_join, List.map_flatMap]
    rfl
  rw [← hbody]
  rfl

@[simp] theorem starts_styled (tag : Tag) (classes : String) (hs : List (Html α)) :
    (styled tag classes hs).starts = (Markup.start tag [] (some classes)).text :: hs.flatMap starts :=
  starts_node tag [] (some classes) hs

@[simp] theorem starts_text (content : String) : (text content : Html α).starts = [] := rfl

theorem write_infix_node {h : Html α} {hs : List (Html α)} (hmem : h ∈ hs) (tag : Tag)
    (attrs : List Attr) (classes : Option String) :
    h.write <:+: (node tag attrs classes hs).write := by
  obtain ⟨before, after, rfl⟩ := List.append_of_mem hmem
  refine ⟨tag.writeStart attrs classes ++ before.flatMap write,
    after.flatMap write ++ tag.writeEnd, ?_⟩
  simp [node, write, write_join]

def Frames (frame : List (Html α) → Html α) : Prop :=
  ∃ lead tail, ∀ hs, (frame hs).write = lead ++ (hs.flatMap write ++ tail)

theorem frames_node (tag : Tag) (attrs : List Attr) (classes : Option String) :
    Frames (node tag attrs classes : List (Html α) → Html α) :=
  ⟨tag.writeStart attrs classes, tag.writeEnd, fun hs => by rw [node, write, write_join]⟩

theorem Frames.among {frame : List (Html α) → Html α} (hframe : Frames frame) (tag : Tag)
    (attrs : List Attr) (classes : Option String) (before after : List (Html α)) :
    Frames fun hs => node tag attrs classes (before ++ frame hs :: after) := by
  obtain ⟨lead, tail, hwrite⟩ := hframe
  refine ⟨tag.writeStart attrs classes ++ (before.flatMap write ++ lead),
    tail ++ (after.flatMap write ++ tag.writeEnd), fun hs => ?_⟩
  simp [node, write, write_join, hwrite]

end LandingPage.Html
