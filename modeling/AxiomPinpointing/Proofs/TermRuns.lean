import AxiomPinpointing.Proofs.Terms
import Mathlib.Data.Nat.Find

/-!
# Terms as runs of characters

A text is cut into terms at its **gaps**, the blanks outside of all parentheses: the terms are the
stretches between gaps that are as long as they can be (`IsMaximalRun`), from left to right.  That
is said by positions here, and the reader goes through the text once.  What joins the two is a text
cut at its first gap, again and again (`CutAtGaps`): every text whose parentheses match can be cut
like that, and then the reader, the runs and the text without its gaps all give the same pieces.

A reader that gives terms has found that all parentheses match (`closes_of_termsFrom`), so that
there is nothing to say about other texts.
-/

namespace AxiomPinpointing

open Text

/-! ## Gaps and runs -/

/-- Holds if there is a blank at a position, and as many parentheses have been closed in front of it
as opened. -/
def IsGap (cs : List Char) (k : Nat) : Prop :=
  cs[k]?.any isBlank = true ∧ (cs.take k).count ')' = (cs.take k).count '('

instance (cs : List Char) (k : Nat) : Decidable (IsGap cs k) :=
  inferInstanceAs (Decidable (_ ∧ _))

/-- `IsMaximalRun cs i j` holds if there is a stretch without gaps from position `i` up to position
`j`, and it cannot be made longer on either side. -/
structure IsMaximalRun (cs : List Char) (i j : Nat) : Prop where
  nonempty : i < j
  within : j ≤ cs.length
  solid : ∀ k, i ≤ k → k < j → ¬ IsGap cs k
  left : ∀ k, k + 1 = i → IsGap cs k
  right : j < cs.length → IsGap cs j

/-- Holds if some pieces are the runs of a text, each of them once and from left to right. -/
def AreMaximalRuns (cs : List Char) (pieces : List (List Char)) : Prop :=
  ∃ bounds : List (Nat × Nat), bounds.Pairwise (·.1 < ·.1) ∧
    (∀ i j, (i, j) ∈ bounds ↔ IsMaximalRun cs i j) ∧
    pieces = bounds.map fun bound => (cs.take bound.2).drop bound.1

/-- A text has its runs only. -/
lemma AreMaximalRuns.unique {cs : List Char} {pieces pieces' : List (List Char)}
    (h : AreMaximalRuns cs pieces) (h' : AreMaximalRuns cs pieces') : pieces = pieces' := by
  obtain ⟨bounds, ordered, runs, rfl⟩ := h
  obtain ⟨bounds', ordered', runs', rfl⟩ := h'
  have distinct : ∀ {bounds : List (Nat × Nat)}, bounds.Pairwise (·.1 < ·.1) → bounds.Nodup :=
    fun ordered => ordered.imp fun before same => absurd (same ▸ before) (Nat.lt_irrefl _)
  have same : bounds.Perm bounds' :=
    (List.perm_ext_iff_of_nodup (distinct ordered) (distinct ordered')).mpr fun bound =>
      (runs bound.1 bound.2).trans (runs' bound.1 bound.2).symm
  rw [same.eq_of_pairwise (fun _ _ _ _ before behind => absurd before (Nat.lt_asymm behind))
    ordered ordered']

/-- The characters of a text that are not in its gaps. -/
def withoutGaps (cs : List Char) : List Char :=
  (cs.zipIdx.filter fun placed => ¬ IsGap cs placed.2).map Prod.fst

/-! ## Cutting at the first gap -/

/-- Holds of the texts that close their own parentheses, with blanks inside of them only: of terms,
and of nothing at all. -/
structure IsSolid (cs : List Char) : Prop where
  closes : Closes 0 cs
  inside : BlanksInside 0 cs

lemma IsSolid.not_isGap {cs : List Char} (h : IsSolid cs) (k : Nat) : ¬ IsGap cs k := by
  rintro ⟨blank, even⟩
  obtain ⟨c, here, blank⟩ := (Option.any_eq_true _ _).mp blank
  obtain ⟨within, rfl⟩ := List.getElem?_eq_some_iff.mp here
  have inside := h.inside k within blank
  omega

lemma IsSolid.isTerm {cs : List Char} (h : IsSolid cs) (nonempty : cs ≠ []) : IsTerm cs :=
  ⟨nonempty, h.closes, h.inside⟩

/-- A text and its pieces, cut at one gap after the other. -/
inductive CutAtGaps : List Char → List (List Char) → Prop
  | last {t : List Char} (solid : IsSolid t) : CutAtGaps t (finishTerm t.reverse [])
  | gap {t rest : List Char} {c : Char} {pieces : List (List Char)} (solid : IsSolid t)
      (blank : isBlank c = true) (more : CutAtGaps rest pieces) :
      CutAtGaps (t ++ c :: rest) (finishTerm t.reverse pieces)

section Gap

variable {t rest : List Char} {c : Char} {pieces : List (List Char)}

lemma take_behind (m : Nat) :
    (t ++ c :: rest).take (t.length + 1 + m) = t ++ c :: rest.take m := by
  rw [Nat.add_assoc, List.take_length_add_append, Nat.add_comm, List.take_succ_cons]

/-- A blank is no parenthesis. -/
lemma count_cons_of_blank (blank : isBlank c = true) {paren : Char}
    (isParen : isBlank paren = false) (cs : List Char) :
    (c :: cs).count paren = cs.count paren := by
  refine List.count_cons_of_ne fun same => ?_
  rw [same, isParen] at blank
  contradiction

/-- Behind a gap, parentheses are counted as if the text began there. -/
lemma count_take_behind (solid : IsSolid t) (blank : isBlank c = true) (rest : List Char)
    (m : Nat) :
    ((t ++ c :: rest).take (t.length + 1 + m)).count ')' =
        t.count '(' + (rest.take m).count ')' ∧
      ((t ++ c :: rest).take (t.length + 1 + m)).count '(' =
        t.count '(' + (rest.take m).count '(' := by
  have total := solid.closes.total
  rw [take_behind, List.count_append, List.count_append, count_cons_of_blank blank rfl,
    count_cons_of_blank blank rfl]
  omega

lemma not_isGap_front (solid : IsSolid t) {k : Nat} (front : k < t.length) :
    ¬ IsGap (t ++ c :: rest) k := by
  rw [IsGap, List.take_append_of_le_length (Nat.le_of_lt front), List.getElem?_append_left front]
  exact solid.not_isGap k

lemma isGap_middle (solid : IsSolid t) (blank : isBlank c = true) :
    IsGap (t ++ c :: rest) t.length := by
  have total := solid.closes.total
  refine ⟨by simpa using blank, ?_⟩
  rw [List.take_left]
  omega

lemma isGap_behind (solid : IsSolid t) (blank : isBlank c = true) {m : Nat} :
    IsGap (t ++ c :: rest) (t.length + 1 + m) ↔ IsGap rest m := by
  obtain ⟨closing, opening⟩ := count_take_behind solid blank rest m
  have place : t.length + 1 + m - t.length = m + 1 := by omega
  rw [IsGap, IsGap, closing, opening, Nat.add_left_cancel_iff,
    List.getElem?_append_right (by omega), place, List.getElem?_cons_succ]

/-- **The runs of a text** are what is in front of its first gap, if that is anything, and the runs
behind it. -/
lemma isMaximalRun_append_iff (solid : IsSolid t) (blank : isBlank c = true) {i j : Nat} :
    IsMaximalRun (t ++ c :: rest) i j ↔ (t ≠ [] ∧ i = 0 ∧ j = t.length) ∨
      ∃ i' j', i = t.length + 1 + i' ∧ j = t.length + 1 + j' ∧ IsMaximalRun rest i' j' := by
  have length : (t ++ c :: rest).length = t.length + 1 + rest.length := by
    rw [List.length_append, List.length_cons]
    omega
  have middle : IsGap (t ++ c :: rest) t.length := isGap_middle solid blank
  constructor
  · intro run
    have nonempty := run.nonempty
    have within := run.within
    rcases Nat.lt_or_ge i (t.length + 1) with front | behind
    · -- then the run is all that is in front of the gap
      have ends : j ≤ t.length := Nat.le_of_not_lt fun beyond =>
        run.solid t.length (by omega) beyond middle
      have starts : i = 0 := Nat.eq_zero_of_not_pos fun later =>
        not_isGap_front solid (by omega) (run.left (i - 1) (by omega))
      have whole : j = t.length := Nat.le_antisymm ends <| Nat.le_of_not_lt fun short =>
        not_isGap_front solid short (run.right (by omega))
      exact .inl ⟨List.ne_nil_of_length_pos (by omega), starts, whole⟩
    · obtain ⟨i', rfl⟩ := Nat.exists_eq_add_of_le behind
      obtain ⟨j', rfl⟩ := Nat.exists_eq_add_of_le (show t.length + 1 ≤ j by omega)
      refine .inr ⟨i', j', rfl, rfl, by omega, by omega, fun k from_ upTo gap => ?_,
        fun k next => ?_, fun short => ?_⟩
      · exact run.solid (t.length + 1 + k) (by omega) (by omega)
          ((isGap_behind solid blank).mpr gap)
      · exact (isGap_behind solid blank).mp (run.left (t.length + 1 + k) (by omega))
      · exact (isGap_behind solid blank).mp (run.right (by omega))
  · rintro (⟨filled, rfl, rfl⟩ | ⟨i, j, rfl, rfl, run⟩)
    · exact ⟨List.length_pos_iff.mpr filled, by omega, fun k _ front => not_isGap_front solid front,
        nofun, fun _ => middle⟩
    · have nonempty := run.nonempty
      have within := run.within
      refine ⟨by omega, by omega, fun k from_ upTo => ?_, fun k next => ?_, fun short => ?_⟩
      · obtain ⟨m, rfl⟩ := Nat.exists_eq_add_of_le (Nat.le_trans (Nat.le_add_right _ i) from_)
        exact fun gap => run.solid m (by omega) (by omega) ((isGap_behind solid blank).mp gap)
      · cases i with
        | zero =>
          obtain rfl : k = t.length := by omega
          exact middle
        | succ i =>
          obtain rfl : k = t.length + 1 + i := by omega
          exact (isGap_behind solid blank).mpr (run.left i rfl)
      · exact (isGap_behind solid blank).mpr (run.right (by omega))

/-- A term that is finished is a piece, and nothing is no piece. -/
lemma finishTerm_reverse_eq (t : List Char) (pieces : List (List Char)) :
    finishTerm t.reverse pieces = (if t = [] then [] else [t]) ++ pieces := by
  split_ifs with empty
  · rw [empty]
    rfl
  · exact finishTerm_reverse empty pieces

lemma areMaximalRuns_last (solid : IsSolid t) : AreMaximalRuns t (finishTerm t.reverse []) := by
  have run : ∀ i j, IsMaximalRun t i j ↔ t ≠ [] ∧ i = 0 ∧ j = t.length := by
    intro i j
    constructor
    · intro run
      have nonempty := run.nonempty
      have within := run.within
      have starts : i = 0 := Nat.eq_zero_of_not_pos fun later =>
        solid.not_isGap _ (run.left (i - 1) (by omega))
      have ends : j = t.length := Nat.le_antisymm within <| Nat.le_of_not_lt fun short =>
        solid.not_isGap _ (run.right short)
      exact ⟨List.ne_nil_of_length_pos (by omega), starts, ends⟩
    · rintro ⟨filled, rfl, rfl⟩
      exact ⟨List.length_pos_iff.mpr filled, Nat.le_refl _, fun k _ _ => solid.not_isGap k, nofun,
        fun beyond => absurd beyond (Nat.lt_irrefl _)⟩
  rw [finishTerm_reverse_eq]
  refine ⟨if t = [] then [] else [(0, t.length)], ?_, fun i j => ?_, ?_⟩
  · split_ifs <;> simp
  · rw [run]
    split_ifs with empty <;> simp [empty]
  · split_ifs <;> simp

lemma areMaximalRuns_gap (solid : IsSolid t) (blank : isBlank c = true)
    (h : AreMaximalRuns rest pieces) :
    AreMaximalRuns (t ++ c :: rest) (finishTerm t.reverse pieces) := by
  obtain ⟨bounds, ordered, runs, rfl⟩ := h
  rw [finishTerm_reverse_eq]
  refine ⟨(if t = [] then [] else [(0, t.length)]) ++
    bounds.map fun bound => (t.length + 1 + bound.1, t.length + 1 + bound.2), ?_, fun i j => ?_, ?_⟩
  · rw [List.pairwise_append, List.pairwise_map]
    refine ⟨by split_ifs <;> simp, ordered.imp fun before => by omega, ?_⟩
    intro first mem bound moved
    obtain ⟨bound, -, rfl⟩ := List.mem_map.mp moved
    split_ifs at mem
    · contradiction
    · rw [List.mem_singleton.mp mem]
      exact Nat.lt_of_lt_of_le (Nat.succ_pos _) (Nat.le_add_right _ _)
  · have first : (i, j) ∈ (if t = [] then [] else [(0, t.length)]) ↔
        t ≠ [] ∧ i = 0 ∧ j = t.length := by
      split_ifs with empty <;> simp [empty]
    rw [List.mem_append, first, isMaximalRun_append_iff solid blank, List.mem_map]
    refine or_congr_right ⟨?_, ?_⟩
    · rintro ⟨⟨i', j'⟩, mem, same⟩
      obtain ⟨rfl, rfl⟩ := Prod.mk.inj same
      exact ⟨i', j', rfl, rfl, (runs i' j').mp mem⟩
    · rintro ⟨i', j', rfl, rfl, run⟩
      exact ⟨(i', j'), (runs i' j').mpr run, rfl⟩
  · have piece : ∀ i j, ((t ++ c :: rest).take (t.length + 1 + j)).drop (t.length + 1 + i) =
        (rest.take j).drop i := by
      intro i j
      rw [take_behind, Nat.add_assoc, ← List.drop_drop, List.drop_left, Nat.add_comm,
        List.drop_succ_cons]
    rw [List.map_append, List.map_map]
    congr 1
    · split_ifs <;> simp
    · exact List.map_congr_left fun bound _ => (piece bound.1 bound.2).symm

/-- Only the gap is left out between what is in front of it and what is left behind it. -/
lemma withoutGaps_append (solid : IsSolid t) (blank : isBlank c = true) :
    withoutGaps (t ++ c :: rest) = t ++ withoutGaps rest := by
  have front : (t.zipIdx.filter fun placed => ¬ IsGap (t ++ c :: rest) placed.2) = t.zipIdx :=
    List.filter_eq_self.mpr fun placed mem => by
      simpa using not_isGap_front solid (List.snd_lt_of_mem_zipIdx mem)
  have back : ((rest.zipIdx (t.length + 1)).filter fun placed =>
      ¬ IsGap (t ++ c :: rest) placed.2).map Prod.fst = withoutGaps rest := by
    rw [List.zipIdx_eq_map_add, List.filter_map, List.map_map, withoutGaps]
    simp only [Function.comp_def, isGap_behind solid blank]
  have middle : IsGap (t ++ c :: rest) t.length := isGap_middle solid blank
  rw [withoutGaps, List.zipIdx_append, List.zipIdx_cons, List.filter_append, List.map_append,
    Nat.zero_add, front, List.zipIdx_map_fst, List.filter_cons_of_neg (by simpa using middle), back]

lemma withoutGaps_of_isSolid (solid : IsSolid t) : withoutGaps t = t := by
  rw [withoutGaps, List.filter_eq_self.mpr fun placed _ => by simpa using solid.not_isGap placed.2,
    List.zipIdx_map_fst]

end Gap

/-! ## Every text whose parentheses match -/

section Front

variable {cs : List Char} {k : Nat}

/-- A beginning without gaps that closes its own parentheses is solid. -/
lemma isSolid_take (closes : Closes 0 cs) (within : k ≤ cs.length)
    (even : (cs.take k).count ')' = (cs.take k).count '(') (gapless : ∀ m < k, ¬ IsGap cs m) :
    IsSolid (cs.take k) := by
  have shorter : ∀ m ≤ k, (cs.take k).take m = cs.take m := fun m upTo => by
    rw [List.take_take, Nat.min_eq_left upTo]
  have length := List.length_take_of_le within
  refine ⟨⟨fun m upTo => ?_, by omega⟩, fun m inside blank => ?_⟩
  · rw [shorter m (by omega)]
    exact closes.never m (by omega)
  · have balance := closes.never m (by omega)
    have blankThere : cs[m]?.any isBlank = true := by
      rw [List.getElem_take] at blank
      rw [List.getElem?_eq_getElem (by omega), Option.any_some, blank]
    have gap : ¬ ((cs.take m).count ')' = (cs.take m).count '(') := fun even =>
      gapless m (by omega) ⟨blankThere, even⟩
    rw [shorter m (by omega)]
    omega

lemma closes_behind {t rest : List Char} {c : Char} (solid : IsSolid t) (blank : isBlank c = true)
    (closes : Closes 0 (t ++ c :: rest)) : Closes 0 rest := by
  have length : (t ++ c :: rest).length = t.length + 1 + rest.length := by
    rw [List.length_append, List.length_cons]
    omega
  have counts := count_take_behind solid blank rest
  constructor
  · intro m upTo
    have balance := closes.never (t.length + 1 + m) (by omega)
    have behind := counts m
    omega
  · have total := closes.total
    have behind := counts rest.length
    rw [← length, List.take_length, List.take_length] at behind
    omega

/-- **Every text whose parentheses match** can be cut at its gaps. -/
lemma exists_cutAtGaps (closes : Closes 0 cs) : ∃ pieces, CutAtGaps cs pieces := by
  -- The induction is on the length, as what is behind the first gap is shorter.
  induction size : cs.length using Nat.strongRecOn generalizing cs with
  | ind n ih =>
    by_cases gaps : ∃ k, IsGap cs k
    · have gap := Nat.find_spec gaps
      have first := fun m => Nat.find_min (m := m) gaps
      generalize Nat.find gaps = k at gap first
      obtain ⟨c, here, blank⟩ := (Option.any_eq_true _ _).mp gap.1
      obtain ⟨within, isHere⟩ := List.getElem?_eq_some_iff.mp here
      have solid := isSolid_take closes (Nat.le_of_lt within) gap.2 fun m => first m
      have parts : cs = cs.take k ++ c :: cs.drop (k + 1) := by
        rw [← isHere, ← List.drop_eq_getElem_cons within, List.take_append_drop]
      rw [parts] at closes
      obtain ⟨pieces, more⟩ := ih (cs.drop (k + 1)).length (by rw [List.length_drop]; omega)
        (closes_behind solid blank closes) rfl
      rw [parts]
      exact ⟨_, .gap solid blank more⟩
    · have total := closes.total
      have solid := isSolid_take closes (Nat.le_refl _) (by rw [List.take_length]; omega)
        fun m _ gap => gaps ⟨m, gap⟩
      rw [List.take_length] at solid
      exact ⟨_, .last solid⟩

end Front

namespace CutAtGaps

variable {cs : List Char} {pieces : List (List Char)}

lemma areMaximalRuns (h : CutAtGaps cs pieces) : AreMaximalRuns cs pieces := by
  induction h with
  | last solid => exact areMaximalRuns_last solid
  | gap solid blank _ ih => exact areMaximalRuns_gap solid blank ih

lemma isTerm (h : CutAtGaps cs pieces) : ∀ piece ∈ pieces, IsTerm piece := by
  have first : ∀ {t : List Char}, IsSolid t →
      ∀ piece ∈ if t = [] then [] else [t], IsTerm piece := by
    intro t solid piece mem
    split_ifs at mem with empty
    · contradiction
    · rw [List.mem_singleton.mp mem]
      exact solid.isTerm empty
  induction h with
  | last solid =>
    rw [finishTerm_reverse_eq, List.append_nil]
    exact first solid
  | gap solid blank _ ih =>
    rw [finishTerm_reverse_eq, List.forall_mem_append]
    exact ⟨first solid, ih⟩

lemma flatten (h : CutAtGaps cs pieces) : pieces.flatten = withoutGaps cs := by
  have first : ∀ t : List Char, (if t = [] then [] else [t]).flatten = t := by
    intro t
    split_ifs with empty
    · rw [empty]
      rfl
    · exact List.flatten_singleton
  induction h with
  | last solid =>
    rw [finishTerm_reverse_eq, List.append_nil, first, withoutGaps_of_isSolid solid]
  | gap solid blank _ ih =>
    rw [finishTerm_reverse_eq, List.flatten_append, first, ih, withoutGaps_append solid blank]

/-- The reader cuts a text at its gaps. -/
lemma termsFrom (h : CutAtGaps cs pieces) : termsFrom 0 [] cs = some pieces := by
  induction h with
  | @last t solid =>
    have read := termsFrom_append solid.closes solid.inside [] []
    rw [List.append_nil, List.append_nil] at read
    rw [read]
    rfl
  | @gap t rest c pieces solid blank _ ih =>
    have noOpening : c ≠ '(' := fun same => by
      rw [same] at blank
      contradiction
    have noClosing : c ≠ ')' := fun same => by
      rw [same] at blank
      contradiction
    rw [termsFrom_append solid.closes solid.inside, List.append_nil, AxiomPinpointing.termsFrom,
      if_neg noOpening, if_neg noClosing, if_pos ⟨rfl, blank⟩, ih, Option.map_some]

end CutAtGaps

lemma Closes.cons {depth depth' : Nat} {c : Char} {cs : List Char} (h : Closes depth' cs)
    (moved : depth' + [c].count ')' = depth + [c].count '(') : Closes depth (c :: cs) := by
  rw [List.count_singleton, List.count_singleton] at moved
  constructor
  · intro k within
    cases k with
    | zero => simp
    | succ k =>
      have bound := h.never k (Nat.le_of_succ_le_succ within)
      rw [List.take_succ_cons, List.count_cons, List.count_cons]
      omega
  · have total := h.total
    rw [List.count_cons, List.count_cons]
    omega

/-- A reader that gives terms has seen all parentheses closed. -/
lemma closes_of_termsFrom {depth : Nat} {begun cs : List Char} {pieces : List (List Char)}
    (h : termsFrom depth begun cs = some pieces) : Closes depth cs := by
  induction cs generalizing depth begun pieces with
  | nil =>
    rw [termsFrom] at h
    split_ifs at h with outside
    rw [outside]
    exact ⟨by simp, by simp⟩
  | cons c cs ih =>
    rw [termsFrom.eq_def] at h
    dsimp only at h
    split_ifs at h with opens closing cutting
    · exact (ih h).cons (by simp [opens])
    · cases depth with
      | zero => contradiction
      | succ depth => exact (ih h).cons (by simp [closing])
    · obtain ⟨others, read, -⟩ := Option.map_eq_some_iff.mp h
      rw [cutting.1]
      exact (ih read).cons (by simp [opens, closing])
    · exact (ih h).cons (by simp [opens, closing])

/-- **What a reader makes of a text**: its runs, if all parentheses match. -/
lemma termsFrom_eq_some_iff {cs : List Char} {pieces : List (List Char)} :
    termsFrom 0 [] cs = some pieces ↔ Closes 0 cs ∧ AreMaximalRuns cs pieces := by
  constructor
  · intro read
    have closes := closes_of_termsFrom read
    obtain ⟨found, cut⟩ := exists_cutAtGaps closes
    obtain rfl := Option.some.inj (cut.termsFrom.symm.trans read)
    exact ⟨closes, cut.areMaximalRuns⟩
  · rintro ⟨closes, runs⟩
    obtain ⟨found, cut⟩ := exists_cutAtGaps closes
    rw [runs.unique cut.areMaximalRuns]
    exact cut.termsFrom

/-! ## Operands -/

section Operands

variable {operands : List String} {opened : Bool} {cs : List Char}

lemma terms?_eq_none_of_open (opens : opened = true)
    (closing : (" ".intercalate operands).toList.getLast? ≠ some ')') :
    terms? operands opened = none := by
  rw [terms?, operandText?, if_pos opens, dropClosing?, if_neg closing]
  rfl

/-- The terms of some operands are those of their text, without the parenthesis at its end if that
one belongs to the relation. -/
lemma terms?_eq_termsFrom
    (text : (" ".intercalate operands).toList = cs ++ if opened then [')'] else []) :
    terms? operands opened = termsFrom 0 [] cs := by
  rw [terms?, operandText?, text]
  cases opened with
  | false => simp
  | true =>
    simp only [if_true, dropClosing?_concat]
    rfl

/-- Terms that were put side by side are read as they are. -/
lemma termsFrom_intercalate_terms {ts : List String} (terms : ∀ t ∈ ts, IsTerm t.toList) :
    termsFrom 0 [] (" ".intercalate ts).toList = some (ts.map String.toList) := by
  rw [String.toList_intercalate]
  by_cases filled : ts = []
  · rw [filled]
    rfl
  · have pieces : ts.map String.toList ≠ [] := by simpa using filled
    have read := termsFrom_intercalate pieces (by simpa using terms) (.inl rfl)
    rwa [List.append_nil] at read

/-- What is behind the last operand is behind the text. -/
lemma intercalate_concat_append (front : List String) (last closing : String) :
    " ".intercalate (front ++ [last ++ closing]) =
      " ".intercalate (front ++ [last]) ++ closing := by
  induction front with
  | nil => simp
  | cons t front ih =>
    rw [List.cons_append, List.cons_append, String.intercalate_cons_of_ne_nil (by simp),
      String.intercalate_cons_of_ne_nil (by simp), ih]
    simp only [String.append_assoc]

end Operands

/-- **The terms of some operands are the runs of their text.**  The text is that of the operands, a
space between any two, and without the parenthesis at its end if that one belongs to the relation;
it has to be there then.  There are terms exactly if all other parentheses match, and then they are
the longest stretches without blanks outside of parentheses: each of them is a term, and nothing but
such blanks is left out.  In the other direction, all terms come back that are given as operands,
also with the parenthesis of the relation behind the last. -/
theorem terms_are_runs :
    (∀ operands opened,
      (opened = true → (" ".intercalate operands).toList.getLast? ≠ some ')' →
        terms? operands opened = none) ∧
      ∀ cs, (" ".intercalate operands).toList = cs ++ (if opened then [')'] else []) →
        ((∃ pieces, terms? operands opened = some pieces) ↔ Closes 0 cs) ∧
        ∀ pieces, (terms? operands opened = some pieces ↔ Closes 0 cs ∧ AreMaximalRuns cs pieces) ∧
          (terms? operands opened = some pieces →
            (∀ piece ∈ pieces, IsTerm piece) ∧ pieces.flatten = withoutGaps cs)) ∧
    (∀ ts : List String, (∀ t ∈ ts, IsTerm t.toList) →
      terms? ts false = some (ts.map String.toList)) ∧
    ∀ (front : List String) (last : String), (∀ t ∈ front ++ [last], IsTerm t.toList) →
      terms? (front ++ [last ++ ")"]) true = some ((front ++ [last]).map String.toList) := by
  refine ⟨fun operands opened => ⟨terms?_eq_none_of_open, fun cs text => ?_⟩, fun ts terms => ?_,
    fun front last terms => ?_⟩
  · rw [terms?_eq_termsFrom text]
    refine ⟨⟨?_, fun closes => ?_⟩, fun pieces => ⟨termsFrom_eq_some_iff, fun read => ?_⟩⟩
    · rintro ⟨pieces, read⟩
      exact closes_of_termsFrom read
    · obtain ⟨pieces, cut⟩ := exists_cutAtGaps closes
      exact ⟨pieces, cut.termsFrom⟩
    · obtain ⟨found, cut⟩ := exists_cutAtGaps (closes_of_termsFrom read)
      obtain rfl := Option.some.inj (cut.termsFrom.symm.trans read)
      exact ⟨cut.isTerm, cut.flatten⟩
  · have text : (" ".intercalate ts).toList =
        (" ".intercalate ts).toList ++ if false then [')'] else [] := (List.append_nil _).symm
    rw [terms?_eq_termsFrom text, termsFrom_intercalate_terms terms]
  · have text : (" ".intercalate (front ++ [last ++ ")"])).toList =
        (" ".intercalate (front ++ [last])).toList ++ if true then [')'] else [] := by
      rw [intercalate_concat_append, String.toList_append]
      rfl
    rw [terms?_eq_termsFrom text, termsFrom_intercalate_terms terms]

/-- A compound term is several words, with another blank than the space in it; and the parenthesis
behind it belongs to the relation. -/
theorem terms_are_runs_of_compound :
    terms? ["A", "(some r\u3000B))"] true = some ["A".toList, "(some r\u3000B)".toList] ∧
      AreMaximalRuns "A (some r\u3000B)".toList ["A".toList, "(some r\u3000B)".toList] ∧
      ¬ ∃ pieces, terms? ["A", "B))"] true = some pieces := by
  obtain ⟨read, -, back⟩ := terms_are_runs
  have terms : terms? ["A", "(some r\u3000B))"] true =
      some ["A".toList, "(some r\u3000B)".toList] :=
    back ["A"] "(some r\u3000B)" (by decide +kernel)
  refine ⟨terms, ?_, ?_⟩
  · have specified := (read ["A", "(some r\u3000B))"] true).2 "A (some r\u3000B)".toList rfl
    exact ((specified.2 _).1.mp terms).2
  · have specified := (read ["A", "B))"] true).2 "A B)".toList rfl
    rw [specified.1]
    decide +kernel

end AxiomPinpointing
