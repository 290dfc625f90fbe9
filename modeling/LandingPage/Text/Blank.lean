/-!
White space and the words between it. A text is cut at every white space character and the empty
pieces are dropped, so a word is never empty and holds no white space, and a word read again is
itself.
-/
namespace LandingPage.Text

/-- Membership in the `White_Space` property of Unicode. -/
def isBlank (c : Char) : Bool :=
  let n := c.toNat
  (0x9 ≤ n && n ≤ 0xD) || n == 0x20 || n == 0x85 || n == 0xA0 || n == 0x1680 ||
    (0x2000 ≤ n && n ≤ 0x200A) || n == 0x2028 || n == 0x2029 || n == 0x202F || n == 0x205F ||
    n == 0x3000

/-- The maximal runs of characters that are not white space, in order. -/
def words (text : List Char) : List (List Char) :=
  (text.splitOnP isBlank).filter (!·.isEmpty)

/-- A name that survives cutting: at least one character and no white space. -/
def IsWord (text : List Char) : Prop :=
  text ≠ [] ∧ ∀ c ∈ text, isBlank c = false

instance (text : List Char) : Decidable (IsWord text) :=
  inferInstanceAs (Decidable (_ ∧ _))

private theorem not_blank_of_mem_splitOnP {text piece : List Char}
    (hp : piece ∈ text.splitOnP isBlank) :
    ∀ c ∈ piece, isBlank c = false := by
  induction text generalizing piece with
  | nil =>
    rw [List.splitOnP_nil, List.mem_singleton] at hp
    simp [hp]
  | cons d rest ih =>
    rw [List.splitOnP_cons_eq_if_modifyHead] at hp
    cases hd : isBlank d with
    | true =>
      rw [hd, if_pos rfl] at hp
      rcases List.mem_cons.1 hp with rfl | hp
      · simp
      · exact ih hp
    | false =>
      obtain ⟨first, others, hr⟩ :=
        List.exists_cons_of_ne_nil (List.splitOnP_ne_nil isBlank rest)
      rw [hd, if_neg Bool.false_ne_true, hr, List.modifyHead_cons] at hp
      rcases List.mem_cons.1 hp with rfl | hp
      · intro c hc
        rcases List.mem_cons.1 hc with rfl | hc
        · exact hd
        · exact ih (hr ▸ List.mem_cons_self) c hc
      · exact ih (hr ▸ List.mem_cons_of_mem _ hp)

theorem isWord_of_mem_words {text word : List Char} (h : word ∈ words text) : IsWord word := by
  obtain ⟨hp, hne⟩ := List.mem_filter.1 h
  exact ⟨by simpa using hne, not_blank_of_mem_splitOnP hp⟩

/-- Cutting splits at a white space character: what stands before and after is cut on its own. -/
theorem words_append_blank {c : Char} (h : isBlank c = true) (before after : List Char) :
    words (before ++ c :: after) = words before ++ words after := by
  rw [words, List.splitOnP_append_cons before after h, List.filter_append]
  rfl

theorem words_of_isWord {word : List Char} (h : IsWord word) : words word = [word] := by
  rw [words, List.splitOnP_eq_singleton h.2]
  simp [h.1]

end LandingPage.Text
