/-!
A browsing history seen from its current entry: the entries before it, nearest first, and those
ahead of it, nearest first. There is always a current entry, and moving past an end stays there.
-/
namespace LandingPage

structure History where
  past : List String
  current : String
  ahead : List String
  deriving DecidableEq

namespace History

def single (path : String) : History := ⟨[], path, []⟩

def entries (h : History) : List String :=
  h.past.reverse ++ h.current :: h.ahead

def position (h : History) : Nat :=
  h.past.length

/-- Adds an entry behind the current one and drops those ahead. -/
def push (h : History) (path : String) : History :=
  ⟨h.current :: h.past, path, []⟩

def back : Nat → History → History
  | n + 1, ⟨path :: past, current, ahead⟩ => back n ⟨past, path, current :: ahead⟩
  | _, h => h

def forward : Nat → History → History
  | n + 1, ⟨past, current, path :: ahead⟩ => forward n ⟨current :: past, path, ahead⟩
  | _, h => h

def go (h : History) : Int → History
  | .ofNat n => forward n h
  | .negSucc n => back (n + 1) h

theorem entries_push (h : History) (path : String) :
    (h.push path).entries = h.past.reverse ++ [h.current, path] := by
  simp [push, entries]

private theorem entries_back (n : Nat) (h : History) : (back n h).entries = h.entries := by
  fun_induction back n h with
  | case1 n path past current ahead ih => rw [ih]; simp [entries]
  | case2 => rfl

private theorem entries_forward (n : Nat) (h : History) : (forward n h).entries = h.entries := by
  fun_induction forward n h with
  | case1 n past current path ahead ih => rw [ih]; simp [entries]
  | case2 => rfl

theorem entries_go (h : History) (n : Int) : (h.go n).entries = h.entries := by
  cases n with
  | ofNat n => exact entries_forward n h
  | negSucc n => exact entries_back (n + 1) h

theorem head?_entries_push (h : History) (path : String) :
    (h.push path).entries.head? = h.entries.head? := by
  rw [entries_push, entries]
  cases h.past.reverse <;> rfl

theorem mem_entries_push {h : History} {path entry : String}
    (hentry : entry ∈ (h.push path).entries) : entry ∈ h.entries ∨ entry = path := by
  rw [entries_push] at hentry
  simp only [entries, List.mem_append, List.mem_cons, List.not_mem_nil, or_false] at hentry ⊢
  rcases hentry with hpast | hcurrent | hpath
  · exact .inl (.inl hpast)
  · exact .inl (.inr (.inl hcurrent))
  · exact .inr hpath

theorem getElem?_entries_position (h : History) : h.entries[h.position]? = some h.current := by
  simp [entries, position]

theorem take_entries_position (h : History) :
    h.entries.take (h.position + 1) = h.past.reverse ++ [h.current] := by
  have hentries : h.entries = (h.past.reverse ++ [h.current]) ++ h.ahead := List.append_cons _ _ _
  have hlength : h.position + 1 = (h.past.reverse ++ [h.current]).length := by simp [position]
  rw [hentries, hlength, List.take_left]

theorem current_mem_entries (h : History) : h.current ∈ h.entries :=
  List.mem_of_getElem? h.getElem?_entries_position

theorem position_lt_length_entries (h : History) : h.position < h.entries.length := by
  simp [entries, position]

theorem head?_entries_of_position_eq_zero {h : History} (hzero : h.position = 0) :
    h.entries.head? = some h.current := by
  have hpast : h.past = [] := List.length_eq_zero_iff.1 hzero
  simp [entries, hpast]

/-- One move back from an added entry; what was ahead before is lost. -/
theorem go_neg_one_push (h : History) (path : String) :
    (h.push path).go (-1) = ⟨h.past, h.current, [path]⟩ := rfl

theorem go_neg (h : History) (n : Nat) : h.go (-n) = back n h := by
  cases n with
  | zero => simp [go, forward, back]
  | succ n => rfl

theorem position_back (n : Nat) (h : History) : (back n h).position = h.position - n := by
  fun_induction back n h with
  | case1 n path past current ahead ih => rw [ih]; simp [position]
  | case2 n h hn =>
    match n, h with
    | 0, _ => rfl
    | n + 1, ⟨[], _, _⟩ => simp [position]
    | n + 1, ⟨path :: past, current, ahead⟩ => exact absurd rfl (hn n path past current ahead rfl)

end History

end LandingPage
