import AxiomPinpointing.Clause
import AxiomPinpointing.Proofs.Outcome
import AxiomPinpointing.Proofs.Words
import Mathlib.Tactic.Lemma
import Mathlib.Tactic.SplitIfs

/-!
# Written clauses

The literals of a clause and its terminator make one row of words.  The row reads back as the
clause exactly if the clause is **proper**, that is, has no 0 among its literals: a 0 would be taken
for the terminator, and is then in front of the place where that belongs.  What the reader accepts
is proper, as it never takes a 0 for a literal.
-/

namespace AxiomPinpointing

open Text

lemma Literal.ofWord_toString (line : Nat) (l : Literal) : ofWord line (toString l) = .ok l := by
  have spelled : signed64? (toString l) = some l.value := signed64?_toString l.value
  rw [ofWord, spelled]

lemma Literal.isWord_toString (l : Literal) : IsWord (toString l) :=
  isWord_toString_int l.value.toInt

namespace Clause

/-- Holds of the clauses without a 0 among their literals. -/
def Proper (clause : Clause) : Prop :=
  Literal.terminator ∉ clause.literals

instance (clause : Clause) : Decidable clause.Proper :=
  inferInstanceAs (Decidable (_ ∉ _))

/-! ## Writing -/

/-- The words of a written clause. -/
def writtenWords (clause : Clause) : List String :=
  (clause.literals ++ [Literal.terminator]).map toString

lemma terminated_eq (clause : Clause) : clause.terminated = " ".intercalate clause.writtenWords :=
  rfl

lemma writtenWords_ne_nil (clause : Clause) : clause.writtenWords ≠ [] := by
  simp [writtenWords]

lemma isWord_of_mem_writtenWords {clause : Clause} : ∀ word ∈ clause.writtenWords, IsWord word := by
  intro word mem
  obtain ⟨l, -, rfl⟩ := List.mem_map.mp mem
  exact l.isWord_toString

/-! ## Reading back -/

lemma literalsOfWords_written (line : Nat) {ls : List Literal} (proper : Literal.terminator ∉ ls) :
    literalsOfWords line ((ls ++ [Literal.terminator]).map toString) = .ok ls := by
  induction ls with
  | nil => rfl
  | cons l ls ih =>
    obtain ⟨first, others⟩ := not_or.mp (mt List.mem_cons.mpr proper)
    rw [List.cons_append, List.map_cons, literalsOfWords, Literal.ofWord_toString]
    simp only [bind, Except.bind, if_neg (Ne.symm first), ih others]

/-- The first 0 ends the clause, whatever comes after it. -/
lemma literalsOfWords_misplaced (line : Nat) {ls : List Literal} (h : Literal.terminator ∈ ls) :
    literalsOfWords line ((ls ++ [Literal.terminator]).map toString) =
      .error (.misplacedTerminator line) := by
  induction ls with
  | nil => contradiction
  | cons l ls ih =>
    rw [List.cons_append, List.map_cons, literalsOfWords, Literal.ofWord_toString]
    simp only [bind, Except.bind]
    split_ifs with first last
    · simp at last
    · rfl
    · have others := (List.mem_cons.mp h).resolve_left (Ne.symm first)
      rw [ih others]

lemma terminator_notMem_of_literalsOfWords {line : Nat} {ws : List String} {ls : List Literal}
    (h : literalsOfWords line ws = .ok ls) : Literal.terminator ∉ ls := by
  induction ws generalizing ls with
  | nil => contradiction
  | cons word ws ih =>
    rw [literalsOfWords] at h
    obtain ⟨l, -, h⟩ := bind_eq_ok.mp h
    split_ifs at h with first
    · rw [← Except.ok.inj h]
      exact List.not_mem_nil
    · obtain ⟨rest, read, h⟩ := bind_eq_ok.mp h
      rw [← Except.ok.inj h, List.mem_cons]
      rintro (same | mem)
      · exact first same.symm
      · exact ih read mem

/-- **Exactly the proper clauses read back.** -/
lemma ofWords_writtenWords (line : Nat) (clause : Clause) :
    ofWords line clause.writtenWords =
      if clause.Proper then .ok clause else .error (.misplacedTerminator line) := by
  split_ifs with proper
  · rw [ofWords, writtenWords, literalsOfWords_written line proper]
    rfl
  · rw [ofWords, writtenWords, literalsOfWords_misplaced line (Classical.not_not.mp proper)]
    rfl

lemma proper_of_ofWords {line : Nat} {ws : List String} {clause : Clause}
    (h : ofWords line ws = .ok clause) : clause.Proper := by
  obtain ⟨ls, read, rfl⟩ := map_eq_ok.mp h
  exact terminator_notMem_of_literalsOfWords read

end Clause

end AxiomPinpointing
