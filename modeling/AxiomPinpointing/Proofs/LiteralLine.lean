import AxiomPinpointing.Proofs.ClauseText

/-!
# Lines of literals

Which words make a clause, and what is wrong with words that make none, said word by word and
without a reader: a clause is **spelled** by the words of its literals and a last word of value 0
(`Clause.SpelledBy`), and otherwise the first word that is no literal is to blame, or the lack of
one (`Clause.Blames`).  The two never hold together, one of them always does, and the reader of
clauses decides between them (`Clause.ofWords_eq_ok_iff`, `Clause.ofWords_eq_error_iff`).

Numerals count by their value: `00` ends a line as well as `0`, and `+7` is the literal 7.
-/

namespace AxiomPinpointing

open Text

/-! ## Words of literals -/

namespace Literal

/-- Holds if a word is a numeral with the value of a literal.  A 0 is no literal. -/
structure SpelledBy (word : String) (l : Literal) : Prop where
  value : signed64? word = some l.value
  proper : l ≠ terminator

/-- Holds if a word is a numeral of value 0. -/
def IsZero (word : String) : Prop :=
  signed64? word = some 0

/-- Holds if a word is a literal. -/
def IsLiteral (word : String) : Prop :=
  ∃ l, SpelledBy word l

/-- Three kinds of words: those that are no numeral, the zeros, and the literals. -/
lemma word_cases (word : String) :
    signed64? word = none ∨ IsZero word ∨ IsLiteral word := by
  cases read : signed64? word with
  | none => exact .inl rfl
  | some value =>
    by_cases zero : value = 0
    · exact .inr (.inl (read.trans (congrArg some zero)))
    · refine .inr (.inr ⟨⟨value⟩, read, fun same => zero ?_⟩)
      exact congrArg Literal.value same

lemma ofWord_of_none {word : String} (h : signed64? word = none) (line : Nat) :
    ofWord line word = .error (.badWord word line) := by
  rw [ofWord, h]

lemma ofWord_of_isZero {word : String} (h : IsZero word) (line : Nat) :
    ofWord line word = .ok terminator := by
  rw [ofWord, h]
  rfl

lemma SpelledBy.ofWord {word : String} {l : Literal} (h : SpelledBy word l) (line : Nat) :
    Literal.ofWord line word = .ok l := by
  rw [Literal.ofWord, h.value]

end Literal

open Literal

/-! ## Words of clauses -/

namespace Clause

/-- Holds if some words are the literals of a clause and then a 0. -/
def SpelledBy (words : List String) (clause : Clause) : Prop :=
  ∃ front last, words = front ++ [last] ∧
    List.Forall₂ Literal.SpelledBy front clause.literals ∧ IsZero last

/-- What is wrong with words that do not spell a clause: a word in front of any 0 is no numeral, or
something comes after a 0, or there is no 0. -/
inductive Blames (line : Nat) (words : List String) : Fault → Prop
  | badWord {front rest : List String} {word : String} (split : words = front ++ word :: rest)
      (literals : ∀ before ∈ front, IsLiteral before) (unread : signed64? word = none) :
      Blames line words (.badWord word line)
  | misplaced {front rest : List String} {zero next : String}
      (split : words = front ++ zero :: next :: rest)
      (literals : ∀ before ∈ front, IsLiteral before) (isZero : IsZero zero) :
      Blames line words (.misplacedTerminator line)
  | missing (literals : ∀ word ∈ words, IsLiteral word) :
      Blames line words (.missingTerminator line)

lemma exists_forall₂_of_isLiteral {front : List String} (h : ∀ word ∈ front, IsLiteral word) :
    ∃ ls, List.Forall₂ Literal.SpelledBy front ls := by
  induction front with
  | nil => exact ⟨[], .nil⟩
  | cons word front ih =>
    obtain ⟨⟨l, spelled⟩, others⟩ := List.forall_mem_cons.mp h
    obtain ⟨ls, all⟩ := ih others
    exact ⟨l :: ls, .cons spelled all⟩

/-- Literals in front of other words are read one by one. -/
lemma literalsOfWords_append (line : Nat) {front : List String} {ls : List Literal}
    (h : List.Forall₂ Literal.SpelledBy front ls) (rest : List String) :
    literalsOfWords line (front ++ rest) = (literalsOfWords line rest).map (ls ++ ·) := by
  induction h with
  | nil =>
    rw [List.nil_append]
    cases literalsOfWords line rest <;> rfl
  | cons spelled _ ih =>
    rw [List.cons_append, literalsOfWords, spelled.ofWord]
    simp only [bind, Except.bind, if_neg spelled.proper, ih]
    cases literalsOfWords line rest <;> rfl

lemma literalsOfWords_of_isZero {word : String} (h : IsZero word) (line : Nat)
    (rest : List String) : literalsOfWords line (word :: rest) =
      if rest.isEmpty then .ok [] else .error (.misplacedTerminator line) := by
  rw [literalsOfWords, ofWord_of_isZero h]
  rfl

/-- A clause that is spelled is read. -/
lemma SpelledBy.ofWords {words : List String} {clause : Clause} (h : SpelledBy words clause)
    (line : Nat) : Clause.ofWords line words = .ok clause := by
  obtain ⟨front, last, rfl, literals, zero⟩ := h
  rw [Clause.ofWords, literalsOfWords_append line literals, literalsOfWords_of_isZero zero]
  simp [Except.map]

/-- What is wrong is what the reader says. -/
lemma Blames.ofWords {line : Nat} {words : List String} {fault : Fault}
    (h : Blames line words fault) : Clause.ofWords line words = .error fault := by
  cases h with
  | badWord split literals unread =>
    obtain ⟨ls, front⟩ := exists_forall₂_of_isLiteral literals
    rw [split, Clause.ofWords, literalsOfWords_append line front, literalsOfWords,
      ofWord_of_none unread]
    rfl
  | misplaced split literals isZero =>
    obtain ⟨ls, front⟩ := exists_forall₂_of_isLiteral literals
    rw [split, Clause.ofWords, literalsOfWords_append line front,
      literalsOfWords_of_isZero isZero]
    rfl
  | missing literals =>
    obtain ⟨ls, all⟩ := exists_forall₂_of_isLiteral literals
    rw [← List.append_nil words, Clause.ofWords, literalsOfWords_append line all]
    rfl

lemma SpelledBy.cons {word : String} {words : List String} {l : Literal} {clause : Clause}
    (first : Literal.SpelledBy word l) (h : SpelledBy words clause) :
    SpelledBy (word :: words) ⟨l :: clause.literals⟩ := by
  obtain ⟨front, last, rfl, literals, zero⟩ := h
  exact ⟨word :: front, last, rfl, .cons first literals, zero⟩

lemma Blames.cons {line : Nat} {word : String} {words : List String} {fault : Fault}
    (first : IsLiteral word) (h : Blames line words fault) : Blames line (word :: words) fault := by
  cases h with
  | badWord split literals unread =>
    exact .badWord (congrArg (word :: ·) split) (List.forall_mem_cons.mpr ⟨first, literals⟩) unread
  | misplaced split literals isZero =>
    exact .misplaced (congrArg (word :: ·) split) (List.forall_mem_cons.mpr ⟨first, literals⟩)
      isZero
  | missing literals => exact .missing (List.forall_mem_cons.mpr ⟨first, literals⟩)

/-- **Words spell a clause, or something is wrong with them.** -/
lemma spelledBy_or_blames (line : Nat) (words : List String) :
    (∃ clause, SpelledBy words clause) ∨ ∃ fault, Blames line words fault := by
  induction words with
  | nil => exact .inr ⟨_, .missing (by simp)⟩
  | cons word words ih =>
    rcases word_cases word with unread | zero | literal
    · exact .inr ⟨_, .badWord (List.nil_append _).symm (by simp) unread⟩
    · cases words with
      | nil => exact .inl ⟨⟨[]⟩, [], word, rfl, .nil, zero⟩
      | cons next rest => exact .inr ⟨_, .misplaced (List.nil_append _).symm (by simp) zero⟩
    · rcases ih with ⟨clause, spelled⟩ | ⟨fault, blamed⟩
      · obtain ⟨l, first⟩ := literal
        exact .inl ⟨_, .cons first spelled⟩
      · exact .inr ⟨fault, .cons literal blamed⟩

lemma ofWords_iff (line : Nat) (words : List String) :
    (∀ clause, ofWords line words = .ok clause ↔ SpelledBy words clause) ∧
      ∀ fault, ofWords line words = .error fault ↔ Blames line words fault :=
  outcome_iff (fun spelled => spelled.ofWords line) Blames.ofWords (spelledBy_or_blames line words)

/-- **The reader accepts the words that spell a clause.** -/
lemma ofWords_eq_ok_iff {line : Nat} {words : List String} {clause : Clause} :
    ofWords line words = .ok clause ↔ SpelledBy words clause :=
  (ofWords_iff line words).1 clause

/-- **The reader says what is wrong with other words.** -/
lemma ofWords_eq_error_iff {line : Nat} {words : List String} {fault : Fault} :
    ofWords line words = .error fault ↔ Blames line words fault :=
  (ofWords_iff line words).2 fault

end Clause

end AxiomPinpointing
