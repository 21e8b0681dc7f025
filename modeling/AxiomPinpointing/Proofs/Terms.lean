import AxiomPinpointing.Axiom.FromDefinitions
import AxiomPinpointing.Proofs.Words

/-!
# Terms side by side

A **term** is a text whose parentheses match, with blanks only inside of them (`IsTerm`).  Matching
is said by counting, as it is usually said: no beginning of the text closes more parentheses than it
opens, and the whole of it closes all of them (`Closes`).  The reader of terms goes by the depth
instead, so both notions are stated for a text that is read at some depth.

A term is read from its beginning to its end without being cut (`termsFrom_append`), and so terms
that were put side by side come back (`termsFrom_intercalate`).
-/

namespace AxiomPinpointing

open Text

/-! ## Parentheses that match -/

/-- Holds if a text closes the parentheses that are open at some depth, and its own. -/
structure Closes (depth : Nat) (cs : List Char) : Prop where
  never : ∀ k ≤ cs.length, (cs.take k).count ')' ≤ depth + (cs.take k).count '('
  total : cs.count ')' = depth + cs.count '('

/-- Holds if all blanks of a text, read at some depth, are inside of parentheses. -/
def BlanksInside (depth : Nat) (cs : List Char) : Prop :=
  ∀ (k : Nat) (h : k < cs.length), isBlank cs[k] = true →
    (cs.take k).count ')' < depth + (cs.take k).count '('

/-- A term: a text that closes its own parentheses, with blanks inside of them only. -/
structure IsTerm (cs : List Char) : Prop where
  nonempty : cs ≠ []
  closes : Closes 0 cs
  inside : BlanksInside 0 cs

instance (depth : Nat) (cs : List Char) : Decidable (Closes depth cs) :=
  decidable_of_iff (_ ∧ _) ⟨fun h => ⟨h.1, h.2⟩, fun h => ⟨h.never, h.total⟩⟩

instance (depth : Nat) (cs : List Char) : Decidable (BlanksInside depth cs) :=
  Nat.decidableBallLT _ _

instance (cs : List Char) : Decidable (IsTerm cs) :=
  decidable_of_iff (_ ∧ _ ∧ _) ⟨fun h => ⟨h.1, h.2.1, h.2.2⟩, fun h => ⟨h.1, h.2, h.3⟩⟩

section Steps

variable {depth depth' : Nat} {c : Char} {cs : List Char}

lemma Closes.depth_eq_zero (h : Closes depth []) : depth = 0 := by
  have total := h.total
  simpa using total.symm

/-- A text without its first character is read at the depth behind that character. -/
lemma Closes.tail (h : Closes depth (c :: cs))
    (moved : depth' + [c].count ')' = depth + [c].count '(') : Closes depth' cs := by
  rw [List.count_singleton, List.count_singleton] at moved
  constructor
  · intro k within
    have bound := h.never (k + 1) (Nat.succ_le_succ within)
    rw [List.take_succ_cons, List.count_cons, List.count_cons] at bound
    omega
  · have total := h.total
    rw [List.count_cons, List.count_cons] at total
    omega

lemma BlanksInside.tail (h : BlanksInside depth (c :: cs))
    (moved : depth' + [c].count ')' = depth + [c].count '(') : BlanksInside depth' cs := by
  rw [List.count_singleton, List.count_singleton] at moved
  intro k within blank
  have bound := h (k + 1) (Nat.succ_lt_succ within) blank
  rw [List.take_succ_cons, List.count_cons, List.count_cons] at bound
  omega

/-- What is closed has been opened. -/
lemma Closes.depth_pos (h : Closes depth (')' :: cs)) : 0 < depth := by
  have one := h.never 1 (by simp)
  simpa [Nat.succ_le_iff] using one

/-- A blank that comes first is inside of the parentheses around. -/
lemma BlanksInside.depth_pos (h : BlanksInside depth (c :: cs)) (blank : isBlank c = true) :
    0 < depth := by
  simpa using h 0 (Nat.succ_pos _) blank

end Steps

/-! ## Reading terms -/

/-- **A text that closes all parentheses is not cut**, wherever it is read. -/
lemma termsFrom_append {depth : Nat} {cs : List Char} (closes : Closes depth cs)
    (inside : BlanksInside depth cs) (begun rest : List Char) :
    termsFrom depth begun (cs ++ rest) = termsFrom 0 (cs.reverse ++ begun) rest := by
  -- At every depth: behind its first character, a text closes what is then open.
  induction cs generalizing depth begun with
  | nil =>
    rw [closes.depth_eq_zero]
    rfl
  | cons c cs ih =>
    have step : ∀ depth', depth' + [c].count ')' = depth + [c].count '(' →
        termsFrom depth' (c :: begun) (cs ++ rest) =
          termsFrom 0 ((c :: cs).reverse ++ begun) rest := fun depth' moved => by
      rw [ih (closes.tail moved) (inside.tail moved), List.reverse_cons, List.append_assoc,
        List.singleton_append]
    rw [List.cons_append, termsFrom.eq_def]
    dsimp only
    split_ifs with opens closing cutting
    · subst opens
      exact step (depth + 1) (by simp)
    · subst closing
      obtain ⟨outer, rfl⟩ := Nat.exists_eq_add_one.mpr closes.depth_pos
      exact step outer (by simp)
    · exact absurd (inside.depth_pos cutting.2) (by omega)
    · exact step depth (by simp [opens, closing])

section Joined

variable {t : List Char} {ts : List (List Char)}

lemma termsFrom_term (h : IsTerm t) (rest : List Char) :
    termsFrom 0 [] (t ++ rest) = termsFrom 0 t.reverse rest := by
  rw [termsFrom_append h.closes h.inside, List.append_nil]

lemma finishTerm_reverse (nonempty : t ≠ []) (others : List (List Char)) :
    finishTerm t.reverse others = t :: others := by
  rw [finishTerm, List.isEmpty_reverse, List.reverse_reverse]
  exact if_neg (by simpa using nonempty)

/-- A term is finished by the blank behind it. -/
lemma termsFrom_term_space (h : IsTerm t) (rest : List Char) :
    termsFrom 0 [] (t ++ ' ' :: rest) = (termsFrom 0 [] rest).map (t :: ·) := by
  have cut : termsFrom 0 t.reverse (' ' :: rest) =
      (termsFrom 0 [] rest).map (finishTerm t.reverse) := rfl
  rw [termsFrom_term h, cut, funext (finishTerm_reverse h.nonempty)]

/-- A term is finished by the end of the text. -/
lemma termsFrom_term_end (h : IsTerm t) : termsFrom 0 [] t = some [t] := by
  have whole := termsFrom_term h []
  rw [List.append_nil] at whole
  rw [whole, termsFrom, if_pos rfl, finishTerm_reverse h.nonempty]

/-- **Terms that were put side by side come back**, also with a blank behind the last. -/
lemma termsFrom_intercalate (filled : ts ≠ []) (terms : ∀ t ∈ ts, IsTerm t) {rest : List Char}
    (ended : rest = [] ∨ rest = [' ']) :
    termsFrom 0 [] ([' '].intercalate ts ++ rest) = some ts := by
  induction ts with
  | nil => contradiction
  | cons t ts ih =>
    obtain ⟨first, others⟩ := List.forall_mem_cons.mp terms
    by_cases last : ts = []
    · rw [last, List.intercalate_singleton]
      rcases ended with rfl | rfl
      · rw [List.append_nil, termsFrom_term_end first]
      · rw [termsFrom_term_space first]
        rfl
    · rw [List.intercalate_cons_of_ne_nil last, List.append_assoc, List.append_assoc,
        List.singleton_append, termsFrom_term_space first, ih last others]
      rfl

end Joined

/-! ## The parenthesis of the relation -/

lemma dropClosing?_concat (text : List Char) : dropClosing? (text ++ [')']) = some text := by
  rw [dropClosing?, List.getLast?_concat, if_pos rfl, List.dropLast_concat]

end AxiomPinpointing
