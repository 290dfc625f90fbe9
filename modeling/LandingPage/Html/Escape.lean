namespace LandingPage.Html

def escapeTextChar : Char → List Char
  | '&' => ['&', 'a', 'm', 'p', ';']
  | '<' => ['&', 'l', 't', ';']
  | '>' => ['&', 'g', 't', ';']
  | c => [c]

def escapeValueChar : Char → List Char
  | '"' => ['&', 'q', 'u', 'o', 't', ';']
  | c => escapeTextChar c

def escapeText (text : List Char) : List Char :=
  text.flatMap escapeTextChar

def escapeValue (text : List Char) : List Char :=
  text.flatMap escapeValueChar

/-- Replaces each entity by its character; an ampersand that begins none stays. -/
def decode : List Char → List Char
  | '&' :: 'a' :: 'm' :: 'p' :: ';' :: rest => '&' :: decode rest
  | '&' :: 'l' :: 't' :: ';' :: rest => '<' :: decode rest
  | '&' :: 'g' :: 't' :: ';' :: rest => '>' :: decode rest
  | '&' :: 'q' :: 'u' :: 'o' :: 't' :: ';' :: rest => '"' :: decode rest
  | c :: rest => c :: decode rest
  | [] => []

theorem escapeText_append (text rest : List Char) :
    escapeText (text ++ rest) = escapeText text ++ escapeText rest :=
  List.flatMap_append

private theorem decode_cons_of_ne {c : Char} (h : c ≠ '&') (rest : List Char) :
    decode (c :: rest) = c :: decode rest := by
  rw [decode.eq_5] <;> simp [h]

private theorem decode_escapeTextChar (c : Char) (rest : List Char) :
    decode (escapeTextChar c ++ rest) = c :: decode rest := by
  unfold escapeTextChar
  split
  · simp [decode]
  · simp [decode]
  · simp [decode]
  · rename_i h _ _
    exact decode_cons_of_ne h rest

private theorem decode_escapeValueChar (c : Char) (rest : List Char) :
    decode (escapeValueChar c ++ rest) = c :: decode rest := by
  unfold escapeValueChar
  split
  · simp [decode]
  · exact decode_escapeTextChar c rest

/-- Decoding undoes the escaping of text, whatever stands behind it. -/
theorem decode_escapeText_append (text rest : List Char) :
    decode (escapeText text ++ rest) = text ++ decode rest := by
  induction text with
  | nil => rfl
  | cons c text ih =>
    rw [escapeText, List.flatMap_cons, List.append_assoc, decode_escapeTextChar]
    exact congrArg (c :: ·) ih

theorem decode_escapeValue_append (text rest : List Char) :
    decode (escapeValue text ++ rest) = text ++ decode rest := by
  induction text with
  | nil => rfl
  | cons c text ih =>
    rw [escapeValue, List.flatMap_cons, List.append_assoc, decode_escapeValueChar]
    exact congrArg (c :: ·) ih

theorem decode_escapeText (text : List Char) : decode (escapeText text) = text := by
  have h := decode_escapeText_append text []
  simpa [decode] using h

theorem decode_escapeValue (text : List Char) : decode (escapeValue text) = text := by
  have h := decode_escapeValue_append text []
  simpa [decode] using h

theorem not_angle_of_mem_escapeText {text : List Char} {c : Char} (h : c ∈ escapeText text) :
    c ≠ '<' ∧ c ≠ '>' := by
  obtain ⟨d, -, hd⟩ := List.mem_flatMap.1 h
  unfold escapeTextChar at hd
  split at hd <;> simp_all
  all_goals rcases hd with rfl | rfl | rfl | rfl | rfl <;> decide

theorem not_special_of_mem_escapeValue {text : List Char} {c : Char} (h : c ∈ escapeValue text) :
    c ≠ '<' ∧ c ≠ '>' ∧ c ≠ '"' := by
  obtain ⟨d, -, hd⟩ := List.mem_flatMap.1 h
  by_cases hquote : d = '"'
  · subst hquote
    simp only [escapeValueChar, List.mem_cons, List.not_mem_nil, or_false] at hd
    rcases hd with rfl | rfl | rfl | rfl | rfl | rfl <;> decide
  · have hvalue : escapeValueChar d = escapeTextChar d := by
      unfold escapeValueChar
      split
      · exact absurd rfl hquote
      · rfl
    rw [hvalue] at hd
    have hangle := not_angle_of_mem_escapeText (List.mem_flatMap.2 ⟨d, List.mem_singleton.2 rfl, hd⟩)
    refine ⟨hangle.1, hangle.2, ?_⟩
    rintro rfl
    unfold escapeTextChar at hd
    split at hd <;> simp at hd
    exact hquote hd.symm

end LandingPage.Html
