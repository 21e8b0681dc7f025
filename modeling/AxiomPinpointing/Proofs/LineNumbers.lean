import AxiomPinpointing.Proofs.LiteralLine
import AxiomPinpointing.Proofs.Stopping

/-!
# What a reader needs of a line

Most readers need the number of a line for nothing but to blame the line (`OnlyBlames`), and of its
text nothing but the words (`OnlyWords`).  If the lines get other numbers, and other blanks between
their words, such a reader does what it did, and blames the same line under its new number.  So
lines that it passes over can be put anywhere: they move down the lines behind them, and that is all
(`visitLines_insert`).
-/

namespace AxiomPinpointing

/-! ## Other numbers -/

/-- The same fault, at the place where its line has gone. -/
def Fault.relocated (place : Nat → Nat) : Fault → Fault
  | .unreadableLine line => .unreadableLine (place line)
  | .badWord word line => .badWord word (place line)
  | .missingTerminator line => .missingTerminator (place line)
  | .misplacedTerminator line => .misplacedTerminator (place line)
  | .incompleteDefinition origin line => .incompleteDefinition origin (place line)
  | .outOfSequence line found => .outOfSequence (place line) found
  | .incompleteEntry line => .incompleteEntry (place line)
  | fault => fault

/-- Where a line goes if others are put behind the first lines. -/
def movedDown (first others : Nat) (line : Nat) : Nat :=
  if line ≤ first then line else line + others

variable {σ : Type}

def Step.relocated (place : Nat → Nat) : Step σ → Step σ
  | .fail fault state => .fail (fault.relocated place) state
  | step => step

def Reading.relocated (place : Nat → Nat) (reading : Reading σ) : Reading σ :=
  { reading with fault := reading.fault.map (Fault.relocated place) }

lemma Reading.outcome_relocated (place : Nat → Nat) (reading : Reading σ) :
    (reading.relocated place).outcome = reading.outcome.mapError (Fault.relocated place) := by
  obtain ⟨state, _ | fault⟩ := reading <;> rfl

/-! ## Readers -/

/-- Holds of the readers that use the number of a line only to blame the line. -/
def OnlyBlames (visit : Nat → String → σ → Step σ) : Prop :=
  ∀ place number content state,
    visit (place number) content state = (visit number content state).relocated place

/-- Holds of the readers that look at the words of a line only. -/
def OnlyWords (visit : Nat → String → σ → Step σ) : Prop :=
  ∀ number content content' state, Text.words content = Text.words content' →
    visit number content state = visit number content' state

/-- The words of a line, if it can be read. -/
def Line.words? : Line → Option (List String)
  | .text content => some (Text.words content)
  | .unreadable => none

section Readers

variable {visit : Nat → String → σ → Step σ} {place : Nat → Nat}

/-- **Lines of the same words** are read alike. -/
lemma visitLines_congr (h : OnlyWords visit) {lines lines' : List Line}
    (same : lines.map Line.words? = lines'.map Line.words?) (number : Nat) (state : σ) :
    visitLines visit number state lines = visitLines visit number state lines' := by
  induction lines generalizing lines' number state with
  | nil =>
    rw [List.map_nil, eq_comm, List.map_eq_nil_iff] at same
    rw [same]
  | cons line lines ih =>
    obtain ⟨line', rest', rfl, first, others⟩ := List.map_eq_cons_iff.mp same.symm
    cases line with
    | unreadable =>
      cases line' with
      | unreadable => rfl
      | text => contradiction
    | text content =>
      cases line' with
      | unreadable => contradiction
      | text content' =>
        rw [visitLines, visitLines, h number content content' state (Option.some.inj first).symm]
        cases visit number content' state with
        | next state' => exact ih others.symm _ _
        | stop => rfl
        | fail => rfl

/-- **Lines under other numbers** are read alike, but that they are blamed under these. -/
lemma visitLines_relocated (h : OnlyBlames visit) {number number' : Nat} {lines : List Line}
    (moved : ∀ i < lines.length, place (number + i) = number' + i) (state : σ) :
    visitLines visit number' state lines =
      (visitLines visit number state lines).relocated place := by
  induction lines generalizing number number' state with
  | nil => rfl
  | cons line lines ih =>
    have first : place number = number' :=
      moved 0 (List.length_pos_of_ne_nil (List.cons_ne_nil _ _))
    cases line with
    | unreadable =>
      rw [← first]
      rfl
    | text content =>
      have others : ∀ i < lines.length, place (number + 1 + i) = number' + 1 + i :=
        fun i within => by
          have next := moved (i + 1) (by simpa using within)
          rwa [← Nat.add_assoc, Nat.add_right_comm, ← Nat.add_assoc, Nat.add_right_comm number']
            at next
      rw [visitLines, visitLines, ← first, h]
      cases visit number content state with
      | next state' => exact first ▸ ih others state'
      | stop => rfl
      | fail => rfl

/-- Lines that do not change the state are passed. -/
lemma passes_of_forall_same {lines : List Line}
    (h : ∀ line ∈ lines, ∃ content, line = .text content ∧
      ∀ number state, visit number content state = .next state)
    (number : Nat) (state : σ) : Passes visit number state lines state := by
  induction lines generalizing number with
  | nil => exact .nil number state
  | cons line lines ih =>
    obtain ⟨⟨content, rfl, same⟩, others⟩ := List.forall_mem_cons.mp h
    exact .cons (same number state) (ih others (number + 1))

/-- Lines that are passed over can be put behind any others. -/
lemma visitLines_insert_lines (h : OnlyBlames visit) {front others back : List Line}
    (passedOver : ∀ line ∈ others, ∃ content, line = .text content ∧
      ∀ number state, visit number content state = .next state) (state : σ) :
    visitLines visit 1 state (front ++ others ++ back) =
      (visitLines visit 1 state (front ++ back)).relocated
        (movedDown front.length others.length) := by
  -- Either the reader comes to the lines that are put in, or it ends in front of them.
  by_cases passed : ∃ state', Passes visit 1 state front state'
  · obtain ⟨state', passes⟩ := passed
    rw [List.append_assoc, passes.visitLines_append, passes.visitLines_append,
      (passes_of_forall_same passedOver _ _).visitLines_append]
    refine visitLines_relocated h (fun i _ => ?_) state'
    rw [movedDown, if_neg (by omega), Nat.add_right_comm]
  · have ended : ∀ state', ¬ Passes visit 1 state front state' := not_exists.mp passed
    rw [List.append_assoc, visitLines_append_of_not_passes ended,
      visitLines_append_of_not_passes ended]
    refine visitLines_relocated h (fun i within => ?_) state
    rw [movedDown, if_pos (by omega)]

/-- **Words that are passed over can be put on lines anywhere.** -/
lemma visitLines_insert (byNumber : OnlyBlames visit) (byWords : OnlyWords visit)
    {front others back : List (Option (List String))} {lines lines' : List Line}
    (split : lines.map Line.words? = front ++ back)
    (split' : lines'.map Line.words? = front ++ others ++ back)
    (passedOver : ∀ words? ∈ others, ∃ words, words? = some words ∧
      ∀ number content state, Text.words content = words → visit number content state = .next state)
    (state : σ) :
    visitLines visit 1 state lines' = (visitLines visit 1 state lines).relocated
      (movedDown front.length others.length) := by
  obtain ⟨before, after, rfl, isFront, isBack⟩ := List.map_eq_append_iff.mp split
  obtain ⟨rest, after', rfl, isRest, isBack'⟩ := List.map_eq_append_iff.mp split'
  obtain ⟨before', inserted, rfl, isFront', isOthers⟩ := List.map_eq_append_iff.mp isRest
  have same : (before' ++ inserted ++ after').map Line.words? =
      (before ++ inserted ++ after).map Line.words? := by
    simp only [List.map_append, isFront, isFront', isBack, isBack']
  have texts : ∀ line ∈ inserted, ∃ content, line = .text content ∧
      ∀ number state, visit number content state = .next state := by
    intro line mem
    obtain ⟨words, found, next⟩ := passedOver line.words? (isOthers ▸ List.mem_map_of_mem mem)
    cases line with
    | unreadable => contradiction
    | text content => exact ⟨content, rfl, fun number state =>
        next number content state (Option.some.inj found)⟩
  rw [visitLines_congr byWords same, visitLines_insert_lines byNumber texts, ← isFront, ← isOthers,
    List.length_map, List.length_map]

end Readers

/-! ## Clauses -/

namespace Clause

variable {line : Nat} {words : List String}

lemma Blames.relocated {fault : Fault} (h : Blames line words fault) (place : Nat → Nat) :
    Blames (place line) words (fault.relocated place) := by
  cases h with
  | badWord split literals unread => exact .badWord split literals unread
  | misplaced split literals isZero => exact .misplaced split literals isZero
  | missing literals => exact .missing literals

end Clause

end AxiomPinpointing
