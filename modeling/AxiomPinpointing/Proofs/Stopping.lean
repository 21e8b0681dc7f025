import AxiomPinpointing.Proofs.Lines
import AxiomPinpointing.Proofs.Outcome

/-!
# Where a reading ends

A reader goes from line to line until one makes it stop or fail, one cannot be read, or there are no
more.  So a reading has two parts: the lines that are **passed**, each of which leaves a state for
the next (`Passes`), and the line at which it **ends**, if it is a line that ends it (`EndsAt`).
Every reading has these two parts (`exists_passes`), and they say what it comes to
(`Passes.visitLines_eq`).

What stands behind the line at which a reading ends is never seen: it may be any bytes, and the
source may break off there (`Source.read_after`).
-/

namespace AxiomPinpointing

/-! ## The two parts of a reading -/

section Readers

variable {σ : Type} {visit : Nat → String → σ → Step σ}

/-- `Passes visit number state lines state'` holds if a reader goes on behind each of the lines, and
they take it from the one state to the other.  The first line has the given number. -/
inductive Passes (visit : Nat → String → σ → Step σ) : Nat → σ → List Line → σ → Prop
  | nil (number : Nat) (state : σ) : Passes visit number state [] state
  | cons {number : Nat} {content : String} {state state' state'' : σ} {lines : List Line}
      (goesOn : visit number content state = .next state')
      (rest : Passes visit (number + 1) state' lines state'') :
      Passes visit number state (.text content :: lines) state''

section Passing

variable {number : Nat} {state state' : σ} {content : String} {lines : List Line}

lemma passes_nil_iff : Passes visit number state [] state' ↔ state' = state := by
  constructor
  · rintro ⟨⟩
    rfl
  · rintro rfl
    exact .nil number state'

lemma passes_text_iff : Passes visit number state (.text content :: lines) state' ↔
    ∃ after, visit number content state = .next after ∧
      Passes visit (number + 1) after lines state' := by
  constructor
  · rintro ⟨⟩
    exact ⟨_, ‹_›, ‹_›⟩
  · rintro ⟨after, goesOn, rest⟩
    exact .cons goesOn rest

lemma not_passes_unreadable : ¬ Passes visit number state (.unreadable :: lines) state' := by
  rintro ⟨⟩

end Passing

/-- How a reading ends in some state: at a line with the given number, or for want of one. -/
inductive EndsAt (visit : Nat → String → σ → Step σ) (number : Nat) (state : σ) :
    Option Line → Reading σ → Prop
  | complete : EndsAt visit number state none ⟨state, none⟩
  | unreadable :
      EndsAt visit number state (some .unreadable) ⟨state, some (.unreadableLine number)⟩
  | stops {content : String} {state' : σ} (h : visit number content state = .stop state') :
      EndsAt visit number state (some (.text content)) ⟨state', none⟩
  | fails {content : String} {fault : Fault} {state' : σ}
      (h : visit number content state = .fail fault state') :
      EndsAt visit number state (some (.text content)) ⟨state', some fault⟩

lemma EndsAt.eq_visitLines {number : Nat} {state : σ} {lines : List Line} {reading : Reading σ}
    (h : EndsAt visit number state lines.head? reading) :
    visitLines visit number state lines = reading := by
  cases lines with
  | nil =>
    cases h
    rfl
  | cons line rest =>
    rw [List.head?_cons] at h
    cases h with
    | unreadable => rfl
    | stops h => rw [visitLines, h]
    | fails h => rw [visitLines, h]

/-- A reading that ends with a fault ends at a line at fault, whatever it is that a reader takes for
one. -/
lemma exists_endsAt_fault_iff {AtFault : Line → Fault → Prop} {number : Nat} {state : σ}
    (unreadable : ∀ fault, AtFault .unreadable fault ↔ fault = .unreadableLine number)
    (text : ∀ content fault state', visit number content state = .fail fault state' ↔
      AtFault (.text content) fault ∧ state' = state) {line? : Option Line} {fault : Fault} :
    (∃ last, EndsAt visit number state line? ⟨last, some fault⟩) ↔
      ∃ line, line? = some line ∧ AtFault line fault := by
  constructor
  · rintro ⟨last, ends⟩
    cases ends with
    | unreadable => exact ⟨_, rfl, (unreadable _).mpr rfl⟩
    | fails fail => exact ⟨_, rfl, ((text _ _ _).mp fail).1⟩
  · rintro ⟨line, rfl, faulty⟩
    cases line with
    | unreadable =>
      rw [(unreadable fault).mp faulty]
      exact ⟨state, .unreadable⟩
    | text content => exact ⟨state, .fails ((text _ _ _).mpr ⟨faulty, rfl⟩)⟩

/-- Lines that are passed only move the reader on. -/
lemma Passes.visitLines_append {number : Nat} {state state' : σ} {lines : List Line}
    (h : Passes visit number state lines state') (rest : List Line) :
    visitLines visit number state (lines ++ rest) =
      visitLines visit (number + lines.length) state' rest := by
  induction h with
  | nil => rfl
  | cons goesOn _ ih =>
    rw [List.cons_append, visitLines_next goesOn, ih, List.length_cons, Nat.add_right_comm,
      Nat.add_assoc]

variable (visit) in
/-- Every reading passes some lines, and ends behind them. -/
lemma exists_passes (number : Nat) (state : σ) (lines : List Line) :
    ∃ k state', Passes visit number state (lines.take k) state' ∧
      EndsAt visit (number + k) state' lines[k]? (visitLines visit number state lines) := by
  induction lines generalizing number state with
  | nil => exact ⟨0, state, .nil number state, .complete⟩
  | cons line rest ih =>
    cases line with
    | unreadable => exact ⟨0, state, .nil number state, .unreadable⟩
    | text content =>
      cases visited : visit number content state with
      | next state' =>
        obtain ⟨k, last, passes, ends⟩ := ih (number + 1) state'
        refine ⟨k + 1, last, .cons visited passes, ?_⟩
        rwa [visitLines_next visited, List.getElem?_cons_succ, ← Nat.add_assoc,
          Nat.add_right_comm]
      | stop state' =>
        rw [visitLines, visited]
        exact ⟨0, state, .nil number state, .stops visited⟩
      | fail fault state' =>
        rw [visitLines, visited]
        exact ⟨0, state, .nil number state, .fails visited⟩

lemma Passes.visitLines_eq {number k : Nat} {state state' : σ} {lines : List Line}
    {reading : Reading σ} (passes : Passes visit number state (lines.take k) state')
    (ends : EndsAt visit (number + k) state' lines[k]? reading) :
    visitLines visit number state lines = reading := by
  have whole := passes.visitLines_append (lines.drop k)
  rw [List.take_append_drop] at whole
  rw [whole]
  apply EndsAt.eq_visitLines
  rw [List.head?_drop]
  by_cases within : k ≤ lines.length
  · rwa [List.length_take_of_le within]
  · -- behind the end there is no line, and its number does not matter
    rw [List.getElem?_eq_none (by omega)] at ends ⊢
    cases ends
    exact .complete

/-- A reader that passes all lines reads them without a fault. -/
lemma Passes.visitLines_all {number : Nat} {state state' : σ} {lines : List Line}
    (h : Passes visit number state lines state') :
    visitLines visit number state lines = ⟨state', none⟩ := by
  have whole := h.visitLines_append []
  rwa [List.append_nil] at whole

/-- Lines behind which a reader goes on in any case are passed. -/
lemma exists_passes_of_forall_next {lines : List Line}
    (h : ∀ line ∈ lines, ∃ content, line = .text content ∧
      ∀ number state, ∃ state', visit number content state = .next state')
    (number : Nat) (state : σ) : ∃ state', Passes visit number state lines state' := by
  induction lines generalizing number state with
  | nil => exact ⟨state, .nil number state⟩
  | cons line lines ih =>
    obtain ⟨⟨content, rfl, goesOn⟩, others⟩ := List.forall_mem_cons.mp h
    obtain ⟨state', next⟩ := goesOn number state
    obtain ⟨last, passes⟩ := ih others (number + 1) state'
    exact ⟨last, .cons next passes⟩

/-- **A reader that never stops** has a result exactly if it passes all lines. -/
lemma visitLines_outcome_eq_ok_iff
    (noStop : ∀ number content state state', visit number content state ≠ .stop state')
    {number : Nat} {state state' : σ} {lines : List Line} :
    (visitLines visit number state lines).outcome = .ok state' ↔
      Passes visit number state lines state' := by
  constructor
  · intro h
    obtain ⟨complete, rfl⟩ := Reading.outcome_eq_ok.mp h
    obtain ⟨k, last, passes, ends⟩ := exists_passes visit number state lines
    cases here : lines[k]? with
    | none =>
      rw [List.take_of_length_le (List.getElem?_eq_none_iff.mp here)] at passes
      rwa [passes.visitLines_all]
    | some line =>
      generalize visitLines visit number state lines = reading at complete ends
      rw [here] at ends
      cases ends with
      | unreadable => contradiction
      | stops stop => exact absurd stop (noStop _ _ _ _)
      | fails => contradiction
  · intro passes
    rw [passes.visitLines_all]
    rfl

/-- **A reading is at fault** at the line behind those that are passed. -/
lemma visitLines_outcome_eq_error_iff {number : Nat} {state : σ} {lines : List Line}
    {fault : Fault} : (visitLines visit number state lines).outcome = .error fault ↔
      ∃ k state' last, Passes visit number state (lines.take k) state' ∧
        EndsAt visit (number + k) state' lines[k]? ⟨last, some fault⟩ := by
  constructor
  · intro h
    obtain ⟨k, state', passes, ends⟩ := exists_passes visit number state lines
    generalize visitLines visit number state lines = reading at h ends
    obtain ⟨last, _ | found⟩ := reading
    · contradiction
    · obtain rfl : found = fault := Except.error.inj h
      exact ⟨k, state', last, passes, ends⟩
  · rintro ⟨k, state', last, passes, ends⟩
    rw [passes.visitLines_eq ends]
    rfl

/-- **A reader that does not get past some lines** never sees what comes behind them. -/
lemma visitLines_append_of_not_passes {number : Nat} {state : σ} {lines : List Line}
    (h : ∀ state', ¬ Passes visit number state lines state') (rest : List Line) :
    visitLines visit number state (lines ++ rest) = visitLines visit number state lines := by
  induction lines generalizing number state with
  | nil => exact absurd (.nil number state) (h state)
  | cons line lines ih =>
    cases line with
    | unreadable => rfl
    | text content =>
      rw [List.cons_append, visitLines, visitLines]
      cases visited : visit number content state with
      | next state' => exact ih fun last passes => h last (.cons visited passes)
      | stop => rfl
      | fail => rfl

section Updates

variable {α : Type} {state state' : σ} {content : Except Fault α} {change : σ → α → σ}

lemma Step.update_eq_next_iff : update state content change = .next state' ↔
    ∃ a, content = .ok a ∧ state' = change state a := by
  cases content <;> simp [update, eq_comm]

lemma Step.update_eq_fail_iff {fault : Fault} : update state content change = .fail fault state' ↔
    content = .error fault ∧ state' = state := by
  cases content <;> simp [update, eq_comm]

lemma Step.update_ne_stop : update state content change ≠ .stop state' := by
  cases content <;> simp [update]

end Updates

/-- **A step that is known in all cases** is what it is exactly in these. -/
lemma Step.iff_of_known {step : Step σ} {state : σ} {Good : σ → Prop} {Bad : Fault → Prop}
    (good : ∀ {state'}, Good state' → step = .next state')
    (bad : ∀ {fault}, Bad fault → step = .fail fault state)
    (known : (∃ state', Good state') ∨ ∃ fault, Bad fault) :
    (∀ state', step = .next state' ↔ Good state') ∧
      (∀ fault state', step = .fail fault state' ↔ Bad fault ∧ state' = state) ∧
      ∀ state', step ≠ .stop state' := by
  rcases known with ⟨after, isGood⟩ | ⟨found, isBad⟩
  · have goesOn := good isGood
    refine ⟨fun state' => ⟨fun h => ?_, good⟩, fun fault state' => ⟨fun h => ?_, fun h => ?_⟩,
      fun state' h => ?_⟩
    · rwa [← Step.next.inj (goesOn.symm.trans h)]
    · cases goesOn.symm.trans h
    · cases goesOn.symm.trans (bad h.1)
    · cases goesOn.symm.trans h
  · have fails := bad isBad
    refine ⟨fun state' => ⟨fun h => ?_, good⟩, fun fault state' => ⟨fun h => ?_, fun h => ?_⟩,
      fun state' h => ?_⟩
    · cases fails.symm.trans h
    · obtain ⟨rfl, rfl⟩ := Step.fail.inj (fails.symm.trans h)
      exact ⟨isBad, rfl⟩
    · rw [bad h.1, h.2]
    · cases fails.symm.trans h

end Readers

/-! ## What is never seen -/

namespace Source

/-- The source without bytes. -/
def empty : Source := ⟨[], .complete⟩

/-- Some bytes, a newline, and then another source. -/
def after (front : List UInt8) (rest : Source) : Source :=
  ⟨front ++ newline :: rest.bytes, rest.ending⟩

/-- At a newline the lines of a source part. -/
lemma lines_after (front : List UInt8) (rest : Source) :
    (after front rest).lines = (after front empty).lines ++ rest.lines := by
  have cut : ∀ rest, (after front rest).pieces =
      front.splitOnP (· == newline) ++ rest.pieces := fun rest =>
    List.splitOnP_append_cons _ _ BEq.rfl
  have nonempty : rest.pieces ≠ [] := List.splitOnP_ne_nil _ _
  have none : empty.pieces = [[]] := rfl
  have last : (front.splitOnP (· == newline) ++ rest.pieces).getLastD [] =
      rest.pieces.getLastD [] := by
    rw [List.getLastD_eq_getLast?, List.getLastD_eq_getLast?, List.getLast?_append,
      List.getLast?_eq_some_getLast nonempty, Option.some_or]
  rw [lines, lines, lines, cut rest, cut empty, none, List.dropLast_append_of_ne_nil nonempty,
    List.dropLast_concat, last, List.map_append, List.append_assoc]
  simp [after, empty, lastLine]

variable {σ : Type} {visit : Nat → String → σ → Step σ} {start : σ}

/-- **What comes behind the line at which a reading ends does not matter**: if a reader does not get
past the lines in front of a newline, then two sources that agree so far are read alike. -/
lemma read_after {front : List UInt8}
    (h : ∀ state, ¬ Passes visit 1 start (after front empty).lines state) (rest rest' : Source) :
    (after front rest).read visit start = (after front rest').read visit start := by
  have same : ∀ rest, (after front rest).read visit start =
      visitLines visit 1 start (after front empty).lines := fun rest => by
    rw [read, lines_after, visitLines_append_of_not_passes h]
  rw [same rest, same rest']

end Source

end AxiomPinpointing
