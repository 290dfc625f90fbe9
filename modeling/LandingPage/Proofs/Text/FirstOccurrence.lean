import LandingPage.Text.Search
import Mathlib.Data.List.Infix
import Mathlib.Order.Bounds.Basic

/-!
# The first occurrence of a text in another

A search answers with the least number of bytes that may stand before the needle, and with nothing only
if the needle is nowhere. What is found is counted in bytes though the text is read character by
character. Reading it byte by byte finds the same, since a byte that begins a character is never one
that goes on with another.
-/
namespace LandingPage.Text

/-- The numbers of bytes that stand before `needle` where it occurs in `html`. -/
def places (html needle : String) : Set Nat :=
  {n | ∃ before after, html = before ++ needle ++ after ∧ before.utf8ByteSize = n}

/-- The answer of a search is the least of the places, or nothing if there are none. -/
def IsFirst (found : Set Nat) : Option Nat → Prop
  | some n => IsLeast found n
  | none => found = ∅

private theorem IsFirst.unique {found : Set Nat} {answer answer' : Option Nat}
    (h : IsFirst found answer) (h' : IsFirst found answer') : answer = answer' := by
  cases answer with
  | none =>
    cases answer' with
    | none => rfl
    | some m => exact absurd h (IsLeast.nonempty h').ne_empty
  | some n =>
    cases answer' with
    | none => exact absurd h' (IsLeast.nonempty h).ne_empty
    | some m => rw [IsLeast.unique h h']

private def placesFrom (needle : List Char) (offset : Nat) (text : List Char) : Set Nat :=
  {n | ∃ before after, text = before ++ (needle ++ after) ∧
    offset + (String.ofList before).utf8ByteSize = n}

private theorem isLeast_placesFrom {needle text : List Char} (h : needle <+: text) (offset : Nat) :
    IsLeast (placesFrom needle offset text) offset := by
  obtain ⟨after, hafter⟩ := h
  refine ⟨⟨[], after, hafter.symm, rfl⟩, ?_⟩
  rintro n ⟨before, after', -, rfl⟩
  exact Nat.le_add_right _ _

private theorem placesFrom_cons {needle rest : List Char} {c : Char} (h : ¬ needle <+: c :: rest)
    (offset : Nat) :
    placesFrom needle offset (c :: rest) = placesFrom needle (offset + c.utf8Size) rest := by
  have hsize (before : List Char) :
      offset + (String.ofList (c :: before)).utf8ByteSize =
        offset + c.utf8Size + (String.ofList before).utf8ByteSize := by
    rw [String.ofList_cons, String.utf8ByteSize_append, String.utf8ByteSize_singleton, Nat.add_assoc]
  ext n
  constructor
  · rintro ⟨before, after, htext, rfl⟩
    cases before with
    | nil => exact absurd ⟨after, htext.symm⟩ h
    | cons d before =>
      obtain ⟨rfl, hrest⟩ := List.cons.inj htext
      exact ⟨before, after, hrest, (hsize before).symm⟩
  · rintro ⟨before, after, rfl, rfl⟩
    exact ⟨c :: before, after, rfl, hsize before⟩

private theorem isFirst_findFrom (needle : List Char) (offset : Nat) (text : List Char) :
    IsFirst (placesFrom needle offset text) (findFrom needle offset text) := by
  induction text generalizing offset with
  | nil =>
    cases needle with
    | nil => exact isLeast_placesFrom List.nil_prefix offset
    | cons d needle =>
      refine Set.eq_empty_of_forall_notMem ?_
      rintro n ⟨before, after, htext, -⟩
      simp at htext
  | cons c rest ih =>
    by_cases hbegins : needle <+: c :: rest
    · rw [findFrom, if_pos (List.isPrefixOf_iff_prefix.2 hbegins)]
      exact isLeast_placesFrom hbegins offset
    · rw [findFrom, if_neg (mt List.isPrefixOf_iff_prefix.1 hbegins), placesFrom_cons hbegins]
      exact ih (offset + c.utf8Size)

private theorem placesFrom_toList (html needle : String) :
    placesFrom needle.toList 0 html.toList = places html needle := by
  ext n
  constructor
  · rintro ⟨before, after, htext, rfl⟩
    refine ⟨String.ofList before, String.ofList after, ?_, (Nat.zero_add _).symm⟩
    rw [← String.toList_inj]
    simpa using htext
  · rintro ⟨before, after, rfl, rfl⟩
    exact ⟨before.toList, after.toList, by simp, by simp⟩

theorem position_cases (html needle : String) :
    (∃ n, position html needle = .ok n ∧ IsLeast (places html needle) n) ∨
      position html needle = .error ⟨needle⟩ ∧ places html needle = ∅ := by
  have hfirst := isFirst_findFrom needle.toList 0 html.toList
  rw [placesFrom_toList] at hfirst
  rw [position]
  cases hanswer : findFrom needle.toList 0 html.toList with
  | some n =>
    rw [hanswer] at hfirst
    exact .inl ⟨n, rfl, hfirst⟩
  | none =>
    rw [hanswer] at hfirst
    exact .inr ⟨rfl, hfirst⟩

theorem isFirst_position (html needle : String) :
    IsFirst (places html needle) (position html needle).toOption := by
  obtain ⟨n, hposition, hfirst⟩ | ⟨hposition, hnone⟩ := position_cases html needle
  · rw [hposition]
    exact hfirst
  · rw [hposition]
    exact hnone

theorem position_eq_ok_iff {html needle : String} {n : Nat} :
    position html needle = .ok n ↔ IsLeast (places html needle) n := by
  obtain ⟨m, hposition, hfirst⟩ | ⟨hposition, hnone⟩ := position_cases html needle
  · rw [hposition, Except.ok.injEq]
    exact ⟨fun h => h ▸ hfirst, hfirst.unique⟩
  · simp [hposition, hnone, IsLeast]

theorem position_eq_error_iff {html needle : String} :
    position html needle = .error ⟨needle⟩ ↔ places html needle = ∅ := by
  obtain ⟨m, hposition, hfirst⟩ | ⟨hposition, hnone⟩ := position_cases html needle
  · simp [hposition, hfirst.nonempty.ne_empty]
  · simp [hposition, hnone]

private theorem isLeast_places_empty (html : String) : IsLeast (places html "") 0 :=
  ⟨⟨"", html, by simp, rfl⟩, fun _ _ => Nat.zero_le _⟩

private theorem isValid_of_mem_places {html needle : String} {n : Nat} (h : n ∈ places html needle) :
    (⟨n⟩ : String.Pos.Raw).IsValid html ∧ n + needle.utf8ByteSize ≤ html.utf8ByteSize := by
  obtain ⟨before, after, rfl, rfl⟩ := h
  constructor
  · refine String.Pos.Raw.isValid_iff_exists_append.2 ⟨before, needle ++ after, ?_, rfl⟩
    rw [String.append_assoc]
  · simp only [String.utf8ByteSize_append]
    exact Nat.le_add_right _ _

private theorem places_append_subset (html needle more : String) :
    places html (needle ++ more) ⊆ places html needle := by
  rintro n ⟨before, after, rfl, rfl⟩
  exact ⟨before, more ++ after, by simp only [String.append_assoc], rfl⟩

def bytes (text : String) : List UInt8 :=
  text.toByteArray.data.toList

/-- The number of bytes before the first tail of `text` that begins with `needle`. -/
def findBytes (needle text : List UInt8) : Option Nat :=
  text.tails.findIdx? needle.isPrefixOf

private def bytePlaces (needle text : List UInt8) : Set Nat :=
  {n | ∃ before after, text = before ++ (needle ++ after) ∧ before.length = n}

private theorem mem_bytePlaces_iff {needle text : List UInt8} {n : Nat} :
    n ∈ bytePlaces needle text ↔ n ≤ text.length ∧ needle <+: text.drop n := by
  constructor
  · rintro ⟨before, after, rfl, rfl⟩
    simp
  · rintro ⟨hn, after, hafter⟩
    refine ⟨text.take n, after, ?_, List.length_take_of_le hn⟩
    rw [hafter, List.take_append_drop]

private theorem isFirst_findBytes (needle text : List UInt8) :
    IsFirst (bytePlaces needle text) (findBytes needle text) := by
  cases hanswer : findBytes needle text with
  | some n =>
    obtain ⟨hn, hbegins, hbefore⟩ := List.findIdx?_eq_some_iff_getElem.1 hanswer
    simp only [List.getElem_tails, List.isPrefixOf_iff_prefix] at hbegins hbefore
    rw [List.length_tails, Nat.lt_succ_iff] at hn
    refine ⟨mem_bytePlaces_iff.2 ⟨hn, hbegins⟩, fun m hm => ?_⟩
    by_contra hlt
    exact hbefore m (Nat.lt_of_not_le hlt) (mem_bytePlaces_iff.1 hm).2
  | none =>
    have hnone := List.findIdx?_eq_none_iff.1 hanswer
    refine Set.eq_empty_of_forall_notMem fun n hn => ?_
    have htail := hnone (text.drop n) ((List.mem_tails _ _).2 (List.drop_suffix n text))
    rw [List.isPrefixOf_iff_prefix.2 (mem_bytePlaces_iff.1 hn).2] at htail
    exact absurd htail (by decide)

private theorem toByteArray_eq_of_bytes {html needle : String} {before after : List UInt8}
    (h : bytes html = before ++ (bytes needle ++ after)) :
    html.toByteArray = before.toByteArray ++ (needle.toByteArray ++ after.toByteArray) := by
  apply ByteArray.ext
  rw [← Array.toList_inj]
  simpa [bytes] using h

/-- The first byte of the needle begins a character, so what stands before it is made of whole
characters. -/
private theorem isValid_of_bytes {html needle : String} {before after : ByteArray}
    (hneedle : needle ≠ "") (h : html.toByteArray = before ++ (needle.toByteArray ++ after)) :
    (⟨before.size⟩ : String.Pos.Raw).IsValid html := by
  have hpos : 0 < needle.toByteArray.size :=
    Nat.pos_of_ne_zero fun hzero => hneedle (String.utf8ByteSize_eq_zero_iff.1 hzero)
  have hsize : html.utf8ByteSize = before.size + (needle.toByteArray.size + after.size) := by
    rw [← String.size_toByteArray, h, ByteArray.size_append, ByteArray.size_append]
  have hlt : (⟨before.size⟩ : String.Pos.Raw) < html.rawEndPos := by
    rw [String.Pos.Raw.lt_iff, String.byteIdx_rawEndPos, hsize]
    exact Nat.lt_add_of_pos_right (Nat.add_pos_left hpos _)
  have hbyte : html.getUTF8Byte ⟨before.size⟩ hlt = needle.toByteArray[0] := by
    simp only [String.getUTF8Byte, h]
    rw [ByteArray.getElem_append_right (Nat.le_refl _)]
    simp only [Nat.sub_self]
    rw [ByteArray.getElem_append_left hpos]
  refine String.Pos.Raw.isValid_iff_isUTF8FirstByte.2 (.inr ⟨hlt, ?_⟩)
  rw [hbyte]
  exact needle.isValidUTF8.isUTF8FirstByte_getElem_zero hpos

private theorem exists_append_of_bytes {rest needle : String} {after : ByteArray}
    (h : rest.toByteArray = needle.toByteArray ++ after) : ∃ more, rest = needle ++ more := by
  have hbegins : needle.toList <+: rest.toList := by
    apply List.isPrefix_of_utf8Encode_append_eq_utf8Encode after
    rw [String.utf8Encode_toList, String.utf8Encode_toList, h]
  obtain ⟨more, hmore⟩ := hbegins
  refine ⟨String.ofList more, ?_⟩
  rw [← String.toList_inj, String.toList_append, String.toList_ofList, hmore]

private theorem bytePlaces_bytes {html needle : String} (h : needle ≠ "") :
    bytePlaces (bytes needle) (bytes html) = places html needle := by
  ext n
  constructor
  · rintro ⟨before, after, hhtml, rfl⟩
    have hbytes := toByteArray_eq_of_bytes hhtml
    obtain ⟨first, rest, hsplit, hfirst⟩ :=
      String.Pos.Raw.isValid_iff_exists_append.1 (isValid_of_bytes h hbytes)
    have hsize : first.utf8ByteSize = before.length := by
      simpa using congrArg String.Pos.Raw.byteIdx hfirst.symm
    rw [hsplit, String.toByteArray_append] at hbytes
    have hrest : rest.toByteArray = needle.toByteArray ++ after.toByteArray := by
      have hbefore : first.toByteArray = before.toByteArray :=
        ByteArray.append_inj_left hbytes (by simpa using hsize)
      rwa [hbefore, ByteArray.append_right_inj] at hbytes
    obtain ⟨more, rfl⟩ := exists_append_of_bytes hrest
    exact ⟨first, more, by rw [hsplit, String.append_assoc], hsize⟩
  · rintro ⟨before, after, rfl, rfl⟩
    exact ⟨bytes before, bytes after, by simp [bytes], by simp [bytes]⟩

private theorem isFirst_findBytes_bytes (html needle : String) :
    IsFirst (places html needle) (findBytes (bytes needle) (bytes html)) := by
  by_cases hneedle : needle = ""
  · have hfind : findBytes (bytes "") (bytes html) = some 0 := by
      cases hhtml : bytes html <;> rfl
    rw [hneedle, hfind]
    exact isLeast_places_empty html
  · rw [← bytePlaces_bytes hneedle]
    exact isFirst_findBytes (bytes needle) (bytes html)

/-- The answer is the number of bytes of the shortest text that can stand before the needle, and the
search fails only where no text can. A text without characters is found at once; what is found lies
between two characters and ends in the text; the bytes alone tell the same place; and where a needle is
found, one that it begins with is found no later. -/
theorem position_first (html needle : String) :
    (∀ n, position html needle = .ok n ↔
      (∃ before after, html = before ++ needle ++ after ∧ before.utf8ByteSize = n) ∧
        ∀ before after, html = before ++ needle ++ after → n ≤ before.utf8ByteSize) ∧
    (position html needle = .error ⟨needle⟩ ↔
      ¬ ∃ before after, html = before ++ needle ++ after) ∧
    position html "" = .ok 0 ∧
    (∀ n, position html needle = .ok n →
      (⟨n⟩ : String.Pos.Raw).IsValid html ∧ n + needle.utf8ByteSize ≤ html.utf8ByteSize) ∧
    (position html needle).toOption = findBytes (bytes needle) (bytes html) ∧
    ∀ more n, position html (needle ++ more) = .ok n →
      ∃ m, position html needle = .ok m ∧ m ≤ n := by
  refine ⟨fun n => ?_, ?_, ?_, fun n hn => ?_, ?_, fun more n hn => ?_⟩
  · rw [position_eq_ok_iff]
    constructor
    · rintro ⟨hmem, hleast⟩
      exact ⟨hmem, fun before after hsplit => hleast ⟨before, after, hsplit, rfl⟩⟩
    · rintro ⟨hmem, hleast⟩
      refine ⟨hmem, ?_⟩
      rintro m ⟨before, after, hsplit, rfl⟩
      exact hleast before after hsplit
  · rw [position_eq_error_iff, Set.eq_empty_iff_forall_notMem]
    constructor
    · rintro hnone ⟨before, after, hsplit⟩
      exact hnone before.utf8ByteSize ⟨before, after, hsplit, rfl⟩
    · rintro hnone n ⟨before, after, hsplit, -⟩
      exact hnone ⟨before, after, hsplit⟩
  · exact position_eq_ok_iff.2 (isLeast_places_empty html)
  · exact isValid_of_mem_places (position_eq_ok_iff.1 hn).1
  · exact (isFirst_position html needle).unique (isFirst_findBytes_bytes html needle)
  · have hmem := places_append_subset html needle more (position_eq_ok_iff.1 hn).1
    obtain ⟨m, hposition, hfirst⟩ | ⟨-, hnone⟩ := position_cases html needle
    · exact ⟨m, hposition, hfirst.2 hmem⟩
    · rw [hnone] at hmem
      exact hmem.elim

/-- The needle is tried at the start too, where all of it but its last character stands. -/
theorem position_first_past_overlap :
    position "aéaéaéb" ("aé" ++ "aéb") = .ok 3 ∧
    ((⟨3⟩ : String.Pos.Raw).IsValid "aéaéaéb" ∧
      3 + ("aé" ++ "aéb").utf8ByteSize ≤ "aéaéaéb".utf8ByteSize) ∧
    ∃ m, position "aéaéaéb" "aé" = .ok m ∧ m ≤ 3 := by
  have hposition : position "aéaéaéb" ("aé" ++ "aéb") = .ok 3 := rfl
  obtain ⟨-, -, -, hvalid, -, -⟩ := position_first "aéaéaéb" ("aé" ++ "aéb")
  obtain ⟨-, -, -, -, -, hbegins⟩ := position_first "aéaéaéb" "aé"
  exact ⟨hposition, hvalid 3 hposition, hbegins "aéb" 3 hposition⟩

end LandingPage.Text
