import AxiomPinpointing.Proofs.Words
import Mathlib.Data.List.Basic
import Mathlib.Data.List.TakeWhile

/-!
# Texts between blanks

Two readers keep the rest of a line as it stands, once the words in front have been taken off and
the blanks at the two ends have been dropped.  A text comes out of that unchanged exactly if it
neither begins nor ends with a blank, and whatever comes out is such a text.

* `trim_append_append` — blanks that were put around a text are dropped again.
* `exists_trimmed` — every line is a text with blanks around it.
* `takeWord_append` — a word that was put in front of a text is taken off again.
-/

namespace AxiomPinpointing.Text

/-- Holds of the texts that do not begin with a blank. -/
def StartsFilled (cs : List Char) : Prop :=
  ∀ c ∈ cs.head?, isBlank c = false

/-- Holds of the texts that do not end with a blank. -/
def EndsFilled (cs : List Char) : Prop :=
  ∀ c ∈ cs.getLast?, isBlank c = false

instance (cs : List Char) : Decidable (StartsFilled cs) :=
  decidable_of_iff (cs.head?.all (!isBlank ·) = true) (by simp [StartsFilled, Option.all_eq_true])

instance (cs : List Char) : Decidable (EndsFilled cs) :=
  decidable_of_iff (cs.getLast?.all (!isBlank ·) = true) (by simp [EndsFilled, Option.all_eq_true])

/-- Holds of texts of blanks. -/
def IsRun (run : String) : Prop :=
  ∀ c ∈ run.toList, isBlank c = true

instance (run : String) : Decidable (IsRun run) :=
  decidable_of_iff (run.toList.all isBlank = true) List.all_eq_true

lemma isRun_space : IsRun " " := by decide

lemma isRun_newline : IsRun "\n" := by decide

lemma startsFilled_reverse {cs : List Char} : StartsFilled cs.reverse ↔ EndsFilled cs := by
  simp [StartsFilled, EndsFilled]

lemma startsFilled_cons {c : Char} {cs : List Char} :
    StartsFilled (c :: cs) ↔ isBlank c = false := by
  simp [StartsFilled]

lemma endsFilled_append {cs rest : List Char} (filled : rest ≠ []) (ends : EndsFilled rest) :
    EndsFilled (cs ++ rest) := by
  intro c last
  rw [List.getLast?_append, List.getLast?_eq_some_getLast filled, Option.some_or] at last
  exact ends c (by rwa [List.getLast?_eq_some_getLast filled])

lemma endsFilled_of_append {cs rest : List Char} (ends : EndsFilled (cs ++ rest)) :
    EndsFilled rest := by
  intro c last
  refine ends c ?_
  rw [List.getLast?_append, Option.mem_def.mp last, Option.some_or]
  exact rfl

lemma endsFilled_cons {c : Char} {rest : List Char} (filled : rest ≠ []) (ends : EndsFilled rest) :
    EndsFilled (c :: rest) := by
  rw [← List.singleton_append]
  exact endsFilled_append filled ends

/-! ## Blanks at the ends -/

lemma trimLeft_of_startsFilled {cs : List Char} (h : StartsFilled cs) : trimLeft cs = cs := by
  cases cs with
  | nil => rfl
  | cons c cs => simp [trimLeft, startsFilled_cons.mp h]

lemma startsFilled_trimLeft (cs : List Char) : StartsFilled (trimLeft cs) := by
  intro c first
  have filled := List.head?_dropWhile_not isBlank cs
  rw [trimLeft, Option.mem_def] at first
  rwa [first] at filled

lemma endsFilled_trim (cs : List Char) : EndsFilled (trim cs) := by
  rw [← startsFilled_reverse, trim, List.reverse_reverse]
  exact startsFilled_trimLeft _

lemma startsFilled_trim (cs : List Char) : StartsFilled (trim cs) := by
  have front : trim cs <+: trimLeft cs := by
    rw [trim, ← List.reverse_suffix, List.reverse_reverse]
    exact List.dropWhile_suffix _
  obtain ⟨rest, split⟩ := front
  intro c first
  refine startsFilled_trimLeft cs c ?_
  rw [← split, Option.mem_def, List.head?_append, first, Option.some_or]

lemma trimLeft_append {run : List Char} (blank : ∀ c ∈ run, isBlank c = true) (cs : List Char) :
    trimLeft (run ++ cs) = trimLeft cs :=
  List.dropWhile_append_of_pos blank

/-- **Blanks that were put around a text** are dropped again. -/
lemma trim_append_append {before text after : String} (isBefore : IsRun before)
    (isAfter : IsRun after) (starts : StartsFilled text.toList) (ends : EndsFilled text.toList) :
    trim (before ++ text ++ after).toList = text.toList := by
  have reversed : ∀ c ∈ after.toList.reverse, isBlank c = true := fun c mem =>
    isAfter c (List.mem_reverse.mp mem)
  rw [trim, String.toList_append, String.toList_append, List.append_assoc, trimLeft_append isBefore]
  generalize text.toList = cs at starts ends
  cases cs with
  | nil =>
    have none : trimLeft after.toList = [] := by
      have all := trimLeft_append isAfter []
      rwa [List.append_nil] at all
    rw [List.nil_append, none]
    rfl
  | cons c cs =>
    have left : trimLeft (c :: cs ++ after.toList) = c :: cs ++ after.toList :=
      trimLeft_of_startsFilled (startsFilled_cons.mpr (startsFilled_cons.mp starts))
    rw [left, List.reverse_append, trimLeft_append reversed,
      trimLeft_of_startsFilled (startsFilled_reverse.mpr ends), List.reverse_reverse]

/-- **Every line is a text** with blanks around it. -/
lemma exists_trimmed (content : String) : ∃ before text after, content = before ++ text ++ after ∧
    IsRun before ∧ IsRun after ∧ StartsFilled text.toList ∧ EndsFilled text.toList := by
  have run : ∀ cs : List Char, ∀ c ∈ cs.takeWhile isBlank, isBlank c = true :=
    fun cs c mem => List.mem_takeWhile_imp mem
  have right : trim content.toList ++
      ((trimLeft content.toList).reverse.takeWhile isBlank).reverse = trimLeft content.toList := by
    rw [trim, ← List.reverse_append]
    exact (congrArg List.reverse List.takeWhile_append_dropWhile).trans (List.reverse_reverse _)
  refine ⟨.ofList (content.toList.takeWhile isBlank), .ofList (trim content.toList),
    .ofList ((trimLeft content.toList).reverse.takeWhile isBlank).reverse, ?_, ?_, ?_, ?_, ?_⟩
  · rw [← String.ofList_append, ← String.ofList_append, List.append_assoc, right, trimLeft,
      List.takeWhile_append_dropWhile, String.ofList_toList]
  · rw [IsRun, String.toList_ofList]
    exact run _
  · rw [IsRun, String.toList_ofList]
    exact fun c mem => run _ c (List.mem_reverse.mp mem)
  · rw [String.toList_ofList]
    exact startsFilled_trim content.toList
  · rw [String.toList_ofList]
    exact endsFilled_trim content.toList

/-- **A blank inside a text** does not end the line, as the text ends with another character. -/
lemma mem_dropLast_of_blank {front text after : List Char} {c : Char} (ends : EndsFilled text)
    (mem : c ∈ text) (blank : isBlank c = true) : c ∈ (front ++ text ++ after).dropLast := by
  obtain ⟨inner, last, rfl⟩ := (List.eq_nil_or_concat' text).resolve_left (List.ne_nil_of_mem mem)
  have filled : isBlank last = false := ends last (by simp)
  have early : c ∈ inner :=
    (List.mem_append.mp mem).resolve_right fun same => by simp_all
  rw [List.append_assoc, List.append_assoc, List.dropLast_append_of_ne_nil (by simp),
    List.dropLast_append_of_ne_nil (by simp)]
  simp [early]

/-! ## Words in front -/

/-- **A word that was put in front of a text** is taken off again, with the blanks between them. -/
lemma takeWord_append {word gap rest : String} (h : IsWord word) (isGap : IsRun gap)
    (apart : gap = "" → rest = "") (starts : StartsFilled rest.toList) :
    takeWord (word ++ (gap ++ rest)).toList = (word.toList, rest.toList) := by
  have filled : ∀ c ∈ word.toList, (!isBlank c) = true := by
    intro c mem
    rw [h.2 c mem]
    rfl
  have ends : (gap ++ rest).toList.takeWhile (!isBlank ·) = [] ∧
      (gap ++ rest).toList.dropWhile (!isBlank ·) = (gap ++ rest).toList := by
    by_cases none : gap = ""
    · rw [none, apart none]
      exact ⟨rfl, rfl⟩
    · obtain ⟨c, cs, spelled⟩ := List.exists_cons_of_ne_nil (mt String.toList_eq_nil_iff.mp none)
      have stop : isBlank c = true := isGap c (by simp [spelled])
      rw [String.toList_append, spelled]
      exact ⟨List.takeWhile_cons_of_neg (by simp [stop]),
        List.dropWhile_cons_of_neg (by simp [stop])⟩
  rw [takeWord, String.toList_append, List.takeWhile_append_of_pos filled,
    List.dropWhile_append_of_pos filled, ends.1, ends.2, List.append_nil, String.toList_append,
    trimLeft_append isGap, trimLeft_of_startsFilled starts]

lemma startsFilled_of_isWord {word : String} (h : IsWord word) (rest : List Char) :
    StartsFilled (word.toList ++ rest) := by
  obtain ⟨c, cs, spelled⟩ := List.exists_cons_of_ne_nil (mt String.toList_eq_nil_iff.mp h.1)
  rw [spelled, List.cons_append, startsFilled_cons]
  exact h.2 c (by simp [spelled])

end AxiomPinpointing.Text
