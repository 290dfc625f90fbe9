import LandingPage.Text.Blank

/-!
Class names as an ordered set. The names are the words of the given texts in order, each kept only
where it first occurs; they are written with one space between them, and the empty set has no
class text at all.
-/
namespace LandingPage

private theorem nodup_eraseDups {α : Type} [DecidableEq α] (xs : List α) : xs.eraseDups.Nodup := by
  cases xs with
  | nil => exact List.nodup_nil
  | cons x xs =>
    rw [List.eraseDups_cons, List.nodup_cons]
    refine ⟨by simp, nodup_eraseDups _⟩
termination_by xs.length
decreasing_by exact Nat.lt_succ_of_le (List.length_filter_le _ xs)

/-- Distinct class names in the order in which they were first given. -/
@[ext] structure ClassList where
  names : List String
  nodup : names.Nodup
  isWord : ∀ name ∈ names, Text.IsWord name.toList

namespace ClassList

def wordsOf (text : String) : List String :=
  (Text.words text.toList).map String.ofList

def ofTexts (texts : List String) : ClassList where
  names := (texts.flatMap wordsOf).eraseDups
  nodup := nodup_eraseDups _
  isWord := by
    intro name h
    obtain ⟨text, -, h⟩ := List.mem_flatMap.1 (List.mem_eraseDups.1 h)
    obtain ⟨word, hw, rfl⟩ := List.mem_map.1 h
    simpa using Text.isWord_of_mem_words hw

/-- The names with one space between them, if there are any. -/
def text? (classes : ClassList) : Option String :=
  if classes.names.isEmpty then none else some (" ".intercalate classes.names)

end ClassList

end LandingPage
