import AxiomPinpointing.Proofs.Numeral
import AxiomPinpointing.Text.Words
import Mathlib.Tactic.Lemma
import Mathlib.Tactic.SplitIfs

/-!
# Words side by side

The writers put words side by side, a blank between any two, and the readers take them apart again.
That nothing is lost rests on one equation, `words_append_blank`: at a blank, the words of a text
are those before it and those after it.  A **word** is a text that is not empty and has no blank in
it, and printed numbers are words.

* `words_intercalate` — words that were joined by blanks come back.
* `isBlankLine_iff` — blank lines are the lines without words.
-/

namespace AxiomPinpointing.Text

/-! ## Cutting at blanks -/

/-- A piece between separators has none of them in it. -/
lemma separator_notMem_of_mem_splitOnP {α : Type} {p : α → Bool} {as piece : List α}
    (h : piece ∈ as.splitOnP p) : ∀ a ∈ piece, p a = false := by
  induction as generalizing piece with
  | nil => simp_all
  | cons a as ih =>
    rw [List.splitOnP_cons_eq_if_modifyHead] at h
    split_ifs at h with separator
    · rcases List.mem_cons.mp h with rfl | h
      · simp
      · exact ih h
    · obtain ⟨front, pieces, cut⟩ := List.exists_cons_of_ne_nil (List.splitOnP_ne_nil p as)
      rw [cut, List.modifyHead_cons] at h
      rcases List.mem_cons.mp h with rfl | h
      · rw [List.forall_mem_cons]
        exact ⟨by simpa using separator, ih (cut ▸ List.mem_cons_self)⟩
      · exact ih (cut ▸ List.mem_cons_of_mem _ h)

/-- A text that stands as one word on a line. -/
def IsWord (word : String) : Prop :=
  word ≠ "" ∧ ∀ c ∈ word.toList, isBlank c = false

lemma isWord_iff {word : String} :
    IsWord word ↔ (!word.toList.isEmpty && word.toList.all (!isBlank ·)) = true := by
  simp [IsWord]

@[simp] lemma words_empty : words "" = [] := rfl

lemma words_append_blank {c : Char} (blank : isBlank c = true) {gap : String}
    (single : gap.toList = [c]) (x y : String) : words (x ++ gap ++ y) = words x ++ words y := by
  have cut : (x ++ gap ++ y).toList = x.toList ++ c :: y.toList := by simp [single]
  rw [words, cut, List.splitOnP_append_cons _ _ blank, List.filter_append, List.map_append]
  rfl

lemma words_append_space (x y : String) : words (x ++ " " ++ y) = words x ++ words y :=
  words_append_blank (c := ' ') rfl rfl x y

lemma words_append_newline (x : String) : words (x ++ "\n") = words x := by
  have ended : words (x ++ "\n" ++ "") = words x ++ words "" :=
    words_append_blank (c := '\n') rfl rfl x ""
  rwa [String.append_empty, words_empty, List.append_nil] at ended

lemma newline_notMem_of_isWord {word : String} (h : IsWord word) : '\n' ∉ word.toList := by
  intro mem
  have filled := h.2 '\n' mem
  contradiction

lemma words_of_isWord {word : String} (h : IsWord word) : words word = [word] := by
  rw [words, List.splitOnP_eq_singleton h.2]
  simp [h.1]

/-- What a text is cut into are words. -/
lemma isWord_of_mem_words {text word : String} (h : word ∈ words text) : IsWord word := by
  obtain ⟨piece, mem, rfl⟩ := List.mem_map.mp h
  obtain ⟨cut, filled⟩ := List.mem_filter.mp mem
  refine ⟨by simpa using filled, fun c hc => ?_⟩
  rw [String.toList_ofList] at hc
  exact separator_notMem_of_mem_splitOnP cut c hc

/-- **Words that were joined by blanks come back.** -/
lemma words_intercalate {ws : List String} (h : ∀ word ∈ ws, IsWord word) :
    words (" ".intercalate ws) = ws := by
  induction ws with
  | nil => rfl
  | cons word ws ih =>
    have first := words_of_isWord (h word List.mem_cons_self)
    have others := ih fun other mem => h other (List.mem_cons_of_mem word mem)
    by_cases last : ws = []
    · rw [last, String.intercalate_singleton, first]
    · rw [String.intercalate_cons_of_ne_nil last, words_append_space, first, others,
        List.singleton_append]

/-! ## Rows

The written forms consist of rows of words. -/

/-- A line of words. -/
def row (ws : List String) : String :=
  " ".intercalate ws ++ "\n"

/-- **A row is taken apart into the words it was made of.** -/
lemma words_row {ws : List String} (h : ∀ word ∈ ws, IsWord word) : words (row ws) = ws := by
  rw [row, words_append_newline, words_intercalate h]

lemma row_cons {ws : List String} (more : ws ≠ []) (word : String) :
    row (word :: ws) = word ++ " " ++ row ws := by
  rw [row, row, String.intercalate_cons_of_ne_nil more, String.append_assoc]

/-- A row begins with its first word. -/
lemma exists_toList_row (word : String) (ws : List String) :
    ∃ rest, (row (word :: ws)).toList = word.toList ++ rest := by
  by_cases last : ws = []
  · rw [last, row, String.intercalate_singleton, String.toList_append]
    exact ⟨_, rfl⟩
  · rw [row_cons last, String.append_assoc, String.toList_append]
    exact ⟨_, rfl⟩

lemma newline_notMem_intercalate {ws : List String} (h : ∀ word ∈ ws, IsWord word) :
    '\n' ∉ (" ".intercalate ws).toList := by
  induction ws with
  | nil => simp
  | cons word ws ih =>
    have first := newline_notMem_of_isWord (h word List.mem_cons_self)
    have others := ih fun other mem => h other (List.mem_cons_of_mem word mem)
    by_cases last : ws = []
    · rwa [last, String.intercalate_singleton]
    · rw [String.intercalate_cons_of_ne_nil last, String.toList_append, String.toList_append,
        List.mem_append, List.mem_append]
      rintro ((mem | mem) | mem)
      · exact first mem
      · simp at mem
      · exact others mem

/-! ## Blank lines -/

/-- A text is cut into empty pieces exactly if all of it separates. -/
lemma splitOnP_all_isEmpty {α : Type} (p : α → Bool) (cs : List α) :
    (cs.splitOnP p).all List.isEmpty = cs.all p := by
  induction cs with
  | nil => rfl
  | cons c cs ih =>
    rw [List.splitOnP_cons_eq_if_modifyHead, List.all_cons]
    split_ifs with separator
    · simp [separator, ih]
    · obtain ⟨front, pieces, cut⟩ := List.exists_cons_of_ne_nil (List.splitOnP_ne_nil p cs)
      simp [separator, cut]

/-- Blank lines are the lines without words. -/
lemma isBlankLine_iff {line : String} : isBlankLine line = true ↔ words line = [] := by
  rw [isBlankLine, ← splitOnP_all_isEmpty, words, List.map_eq_nil_iff, List.filter_eq_nil_iff]
  simp

/-! ## Printed numbers -/

lemma isBlank_of_isDigit {c : Char} (h : c.isDigit) : isBlank c = false := by
  obtain ⟨lower, upper⟩ := Char.isDigit_iff_toNat.mp h
  have nine : '9'.toNat = 57 := rfl
  have zero : '0'.toNat = 48 := rfl
  simp only [isBlank, inRanges, whiteSpace, List.any_cons, List.any_nil, Bool.or_false,
    Bool.or_eq_false_iff, Bool.and_eq_false_iff, decide_eq_false_iff_not]
  omega

lemma isWord_toString_nat (n : Nat) : IsWord (toString n) := by
  refine ⟨fun empty => ?_, fun c hc => ?_⟩
  · have spelled := toList_toString_nat n
    rw [empty] at spelled
    exact Nat.toDigits_ne_nil spelled.symm
  · rw [toList_toString_nat] at hc
    exact isBlank_of_isDigit (isDigit_of_mem_toDigits hc)

lemma isWord_toString_int (n : Int) : IsWord (toString n) := by
  by_cases sign : 0 ≤ n
  · rw [toString_of_nonneg sign]
    exact isWord_toString_nat n.toNat
  · have spelled := toList_toString_of_neg (Int.not_le.mp sign)
    refine ⟨fun empty => ?_, fun c hc => ?_⟩
    · rw [empty] at spelled
      contradiction
    · rw [spelled] at hc
      rcases List.mem_cons.mp hc with rfl | hc
      · rfl
      · exact isBlank_of_isDigit (isDigit_of_mem_toDigits hc)

end AxiomPinpointing.Text
