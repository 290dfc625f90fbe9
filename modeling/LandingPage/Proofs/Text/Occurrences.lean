import LandingPage.Text.Search
import Mathlib.Algebra.Ring.Nat

/-!
# Where a text occurs in another

The occurrences of a text in another, overlapping ones included, as the numbers of characters before
them. What is found in the parts of a text is found in the text, at the offset of the part; where there
are no more occurrences than the parts have together, none lies outside of the parts or across the
border between two.
-/
namespace LandingPage.Text

/-- The offset of every occurrence of `needle`, in order. -/
def offsets (needle : List Char) : List Char → List Nat
  | [] => if needle.isPrefixOf [] then [0] else []
  | c :: rest =>
    (if needle.isPrefixOf (c :: rest) then [0] else []) ++ (offsets needle rest).map (· + 1)

/-- Occurrences that overlap are all counted. -/
def count (needle text : List Char) : Nat :=
  (offsets needle text).length

/-- The offsets of what is found in parts that stand one after another from `start` on. -/
def offsetsIn (needle : List Char) (start : Nat) : List (List Char) → List Nat
  | [] => []
  | part :: parts =>
    (offsets needle part).map (start + ·) ++ offsetsIn needle (start + part.length) parts

private theorem mem_offsets {needle text : List Char} {n : Nat} :
    n ∈ offsets needle text ↔ ∃ before after, text = before ++ (needle ++ after) ∧
      n = before.length := by
  induction text generalizing n with
  | nil =>
    cases needle with
    | nil => simp [offsets]
    | cons d needle => simp [offsets]
  | cons c rest ih =>
    simp only [offsets, List.mem_append, List.mem_map, ih]
    constructor
    · rintro (hn | ⟨m, ⟨before, after, rfl, rfl⟩, rfl⟩)
      · split at hn
        · rename_i hbegins
          obtain ⟨after, hafter⟩ := List.isPrefixOf_iff_prefix.1 hbegins
          exact ⟨[], after, hafter.symm, by simpa using hn⟩
        · simp at hn
      · exact ⟨c :: before, after, rfl, rfl⟩
    · rintro ⟨before, after, htext, rfl⟩
      cases before with
      | nil =>
        have hbegins : needle <+: c :: rest := ⟨after, htext.symm⟩
        simp [hbegins]
      | cons d before =>
        obtain ⟨rfl, hrest⟩ := List.cons.inj htext
        exact .inr ⟨before.length, ⟨before, after, hrest, rfl⟩, rfl⟩

theorem count_cons (needle : List Char) (c : Char) (rest : List Char) :
    count needle (c :: rest) =
      (if needle.isPrefixOf (c :: rest) then 1 else 0) + count needle rest := by
  rw [count, offsets, List.length_append, List.length_map]
  split <;> rfl

theorem count_nil {needle : List Char} (h : needle ≠ []) : count needle [] = 0 := by
  cases needle with
  | nil => exact absurd rfl h
  | cons d needle => rfl

theorem one_le_count_of_infix {needle text : List Char} (h : needle <:+: text) :
    1 ≤ count needle text := by
  obtain ⟨before, after, htext⟩ := h
  exact List.length_pos_of_mem (mem_offsets.2 ⟨before, after, by simp [← htext], rfl⟩)

theorem count_le_of_isPrefix {mark needle : List Char} (h : mark <+: needle) (text : List Char) :
    count needle text ≤ count mark text := by
  have hbegins (s : List Char) (hs : needle.isPrefixOf s) : mark.isPrefixOf s :=
    List.isPrefixOf_iff_prefix.2 (h.trans (List.isPrefixOf_iff_prefix.1 hs))
  have hle (s : List Char) : (if needle.isPrefixOf s then 1 else 0) ≤
      if mark.isPrefixOf s then 1 else 0 := by
    split
    · rename_i hs
      exact Nat.le_of_eq (if_pos (hbegins s hs)).symm
    · exact Nat.zero_le _
  induction text with
  | nil =>
    simp only [count, offsets, apply_ite List.length]
    exact hle []
  | cons c rest ih =>
    rw [count_cons, count_cons]
    exact Nat.add_le_add (hle _) ih

private theorem sublist_offsets_append {needle : List Char} (h : needle ≠ []) (s t : List Char) :
    ((offsets needle s) ++ (offsets needle t).map (s.length + ·)).Sublist
      (offsets needle (s ++ t)) := by
  induction s with
  | nil =>
    have hnil : offsets needle [] = [] := List.eq_nil_of_length_eq_zero (count_nil h)
    simp [hnil]
  | cons c s ih =>
    have hshift : (· + 1) ∘ (s.length + ·) = ((c :: s).length + ·) :=
      funext fun n => Nat.add_right_comm s.length n 1
    have hlater : ((offsets needle s).map (· + 1) ++
        (offsets needle t).map ((c :: s).length + ·)).Sublist
          ((offsets needle (s ++ t)).map (· + 1)) := by
      have hmap := ih.map (· + 1)
      rwa [List.map_append, List.map_map, hshift] at hmap
    rw [List.cons_append, offsets, offsets, List.append_assoc]
    refine .append ?_ hlater
    split
    · rename_i hbegins
      have hwhole : needle.isPrefixOf (c :: (s ++ t)) := List.isPrefixOf_iff_prefix.2
        ((List.isPrefixOf_iff_prefix.1 hbegins).trans (List.prefix_append (c :: s) t))
      exact if_pos hwhole ▸ List.Sublist.refl [0]
    · exact List.nil_sublist _

private theorem sublist_offsetsIn {needle : List Char} (h : needle ≠ []) (parts : List (List Char))
    (start : Nat) :
    (offsetsIn needle start parts).Sublist ((offsets needle parts.flatten).map (start + ·)) := by
  induction parts generalizing start with
  | nil => exact List.nil_sublist _
  | cons part parts ih =>
    have hparts : (offsetsIn needle (start + part.length) parts).Sublist
        (((offsets needle parts.flatten).map (part.length + ·)).map (start + ·)) := by
      rw [List.map_map]
      simpa only [Function.comp_def, Nat.add_assoc] using ih (start + part.length)
    rw [offsetsIn, List.flatten_cons]
    refine .trans ?_ ((sublist_offsets_append h part parts.flatten).map (start + ·))
    rw [List.map_append]
    exact (List.Sublist.refl _).append hparts

private theorem length_offsetsIn (needle : List Char) (start : Nat) (parts : List (List Char)) :
    (offsetsIn needle start parts).length = (parts.map (count needle)).sum := by
  induction parts generalizing start with
  | nil => rfl
  | cons part parts ih => simp [offsetsIn, ih, count]

/-- The needle is in the parts as many times as `times` says, and nowhere else in the text. -/
structure OccursIn (needle lead : List Char) (parts : List (List Char)) (tail : List Char)
    (times : List Nat) : Prop where
  offsets : offsets needle (lead ++ (parts.flatten ++ tail)) = offsetsIn needle lead.length parts
  times : parts.map (count needle) = times

/-- There are no more occurrences than those in the parts, so they are the same. -/
theorem occursIn_of_count_le {needle : List Char} (h : needle ≠ []) {lead : List Char}
    {parts : List (List Char)} {tail : List Char} {times : List Nat}
    (htimes : parts.map (count needle) = times)
    (hcount : count needle (lead ++ (parts.flatten ++ tail)) ≤ times.sum) :
    OccursIn needle lead parts tail times := by
  have hparts : (offsetsIn needle lead.length parts).Sublist
      ((offsets needle (parts.flatten ++ tail)).map (lead.length + ·)) :=
    (sublist_offsetsIn h parts lead.length).trans
      (((List.sublist_append_left _ _).trans (sublist_offsets_append h _ tail)).map _)
  have hwhole : (offsetsIn needle lead.length parts).Sublist
      (offsets needle (lead ++ (parts.flatten ++ tail))) :=
    hparts.trans ((List.sublist_append_right _ _).trans (sublist_offsets_append h lead _))
  refine ⟨(hwhole.eq_of_length_le ?_).symm, htimes⟩
  rwa [length_offsetsIn, htimes]

theorem OccursIn.count_eq {needle lead : List Char} {parts : List (List Char)} {tail : List Char}
    {times : List Nat} (h : OccursIn needle lead parts tail times) :
    count needle (lead ++ (parts.flatten ++ tail)) = times.sum := by
  rw [count, h.offsets, length_offsetsIn, h.times]

end LandingPage.Text
