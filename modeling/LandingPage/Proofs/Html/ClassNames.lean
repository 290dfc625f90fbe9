import LandingPage.Html.ClassList
import Mathlib.Data.List.Forall2

/-!
# Class names and how they are spelled

A text spells its words if it holds them in order with white space between any two of them, however
much and of whatever kind, and anywhere around. Cutting a text finds the words that it spells, so a set
of class names depends on the words alone: not on how they are spread over the texts, nor on a word
given again. The class text of a set spells the names of the set, and so it determines the set.
-/
namespace LandingPage

namespace Text

/-- The text holds the words in this order, apart from each other by white space. -/
inductive Spells : List Char → List (List Char) → Prop
  | nil : Spells [] []
  | blank {c : Char} {text : List Char} {names : List (List Char)} :
      isBlank c = true → Spells text names → Spells (c :: text) names
  | last {word : List Char} : IsWord word → Spells word [word]
  | word {word : List Char} {c : Char} {text : List Char} {names : List (List Char)} :
      IsWord word → isBlank c = true → Spells text names →
      Spells (word ++ c :: text) (word :: names)

private theorem Spells.words_eq {text : List Char} {names : List (List Char)}
    (h : Spells text names) : words text = names := by
  induction h with
  | nil => rfl
  | blank hc _ ih => exact (words_append_blank hc [] _).trans ih
  | last hword => exact words_of_isWord hword
  | word hword hc _ ih => rw [words_append_blank hc, words_of_isWord hword, ih, List.singleton_append]

private theorem isWord_singleton {c : Char} (hc : isBlank c = false) : IsWord [c] :=
  ⟨List.cons_ne_nil _ _, by simpa using hc⟩

private theorem IsWord.cons {c : Char} {word : List Char} (hc : isBlank c = false)
    (hword : IsWord word) : IsWord (c :: word) :=
  ⟨List.cons_ne_nil _ _, List.forall_mem_cons.2 ⟨hc, hword.2⟩⟩

private theorem exists_spells (text : List Char) : ∃ names, Spells text names := by
  induction text with
  | nil => exact ⟨[], .nil⟩
  | cons c rest ih =>
    obtain ⟨names, hrest⟩ := ih
    cases hc : isBlank c with
    | true => exact ⟨names, .blank hc hrest⟩
    | false =>
      cases hrest with
      | nil => exact ⟨_, .last (isWord_singleton hc)⟩
      | blank hd htext => exact ⟨_, .word (isWord_singleton hc) hd htext⟩
      | last hword => exact ⟨_, .last (hword.cons hc)⟩
      | word hword hd htext => exact ⟨_, .word (hword.cons hc) hd htext⟩

/-- Cutting a text finds the words that it spells. -/
theorem spells_iff {text : List Char} {names : List (List Char)} :
    Spells text names ↔ words text = names := by
  refine ⟨Spells.words_eq, fun h => ?_⟩
  obtain ⟨found, hfound⟩ := exists_spells text
  rwa [hfound.words_eq.symm.trans h] at hfound

end Text

private theorem eraseDups_of_nodup {α : Type} [DecidableEq α] {xs : List α} (h : xs.Nodup) :
    xs.eraseDups = xs := by
  induction xs with
  | nil => rfl
  | cons x xs ih =>
    obtain ⟨hx, hxs⟩ := List.nodup_cons.1 h
    have hkeep : (xs.filter fun y => !y == x) = xs := by
      refine List.filter_eq_self.2 fun y hy => ?_
      have hyx : y ≠ x := fun e => hx (e ▸ hy)
      simpa using hyx
    rw [List.eraseDups_cons, hkeep, ih hxs]

private theorem eraseDups_append_cons_of_mem {α : Type} [DecidableEq α] {x : α} {xs : List α}
    (h : x ∈ xs) (ys : List α) : (xs ++ x :: ys).eraseDups = (xs ++ ys).eraseDups := by
  have hlater : (x :: ys).removeAll xs = ys.removeAll xs := by simp [List.removeAll, h]
  rw [List.eraseDups_append, List.eraseDups_append, hlater]

namespace ClassList

/-- The text holds the names in this order, with white space between them and around. -/
def Holds (text : String) (names : List String) : Prop :=
  Text.Spells text.toList (names.map String.toList)

theorem holds_iff {text : String} {names : List String} :
    Holds text names ↔ wordsOf text = names := by
  rw [Holds, Text.spells_iff, wordsOf]
  constructor
  · intro h
    rw [h, List.map_map]
    simp [Function.comp_def]
  · rintro rfl
    rw [List.map_map]
    simp [Function.comp_def]

theorem names_ofTexts (texts : List String) :
    (ofTexts texts).names = (texts.flatMap wordsOf).eraseDups := rfl

theorem names_ofTexts_of_holds {texts : List String} {groups : List (List String)}
    (h : List.Forall₂ Holds texts groups) :
    (ofTexts texts).names = groups.flatten.eraseDups := by
  have hwords : texts.flatMap wordsOf = groups.flatten := by
    induction h with
    | nil => rfl
    | cons hfirst _ ih => rw [List.flatMap_cons, List.flatten_cons, holds_iff.1 hfirst, ih]
  rw [names_ofTexts, hwords]

private theorem wordsOf_of_isWord {name : String} (h : Text.IsWord name.toList) :
    wordsOf name = [name] := by
  rw [wordsOf, Text.words_of_isWord h, List.map_singleton, String.ofList_toList]

private theorem wordsOf_intercalate {names : List String}
    (h : ∀ name ∈ names, Text.IsWord name.toList) : wordsOf (" ".intercalate names) = names := by
  induction names with
  | nil => simp [wordsOf, Text.words]
  | cons name rest ih =>
    obtain ⟨hname, hrest⟩ := List.forall_mem_cons.1 h
    cases rest with
    | nil => rw [String.intercalate_singleton, wordsOf_of_isWord hname]
    | cons next rest =>
      have htext : (" ".intercalate (name :: next :: rest)).toList =
          name.toList ++ ' ' :: (" ".intercalate (next :: rest)).toList := by
        rw [String.intercalate_cons_cons, String.toList_append, String.toList_append,
          List.append_assoc]
        rfl
      have hnext := ih hrest
      rw [wordsOf] at hnext
      rw [wordsOf, htext, Text.words_append_blank (by decide), Text.words_of_isWord hname,
        List.map_append, hnext, List.map_singleton, String.ofList_toList, List.singleton_append]

/-- Given back as a text, the class text of a set gives the set again. -/
theorem ofTexts_text? (classes : ClassList) : ofTexts classes.text?.toList = classes := by
  apply ClassList.ext
  unfold text?
  split
  · rename_i hnone
    exact (List.isEmpty_iff.1 hnone).symm
  · rw [Option.toList_some, names_ofTexts, List.flatMap_singleton,
      wordsOf_intercalate classes.isWord, eraseDups_of_nodup classes.nodup]

theorem text?_inj {classes classes' : ClassList} :
    classes.text? = classes'.text? ↔ classes = classes' := by
  refine ⟨fun h => ?_, fun h => h ▸ rfl⟩
  rw [← ofTexts_text? classes, h, ofTexts_text?]

theorem text?_eq_none_iff {classes : ClassList} : classes.text? = none ↔ classes.names = [] := by
  simp [text?]

theorem ofTexts_append_cons_of_mem {name : String} {before : List String}
    (h : name ∈ before.flatMap wordsOf) (after : List String) :
    ofTexts (before ++ name :: after) = ofTexts (before ++ after) := by
  have hname : wordsOf name = [name] := by
    obtain ⟨text, -, htext⟩ := List.mem_flatMap.1 h
    obtain ⟨word, hword, rfl⟩ := List.mem_map.1 htext
    exact wordsOf_of_isWord (by simpa using Text.isWord_of_mem_words hword)
  apply ClassList.ext
  rw [names_ofTexts, names_ofTexts, List.flatMap_append, List.flatMap_cons, hname,
    List.singleton_append, eraseDups_append_cons_of_mem h, List.flatMap_append]

end ClassList

end LandingPage
