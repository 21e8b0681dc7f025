import AxiomPinpointing.Encoding
import AxiomPinpointing.Extraction
import AxiomPinpointing.Proofs.Outcome
import AxiomPinpointing.Renumbering.Reader
import Mathlib.Tactic.SplitIfs

/-!
# Faults of the data

Of the four kinds of fault, three are mistakes in the data, and one is a failure to write.  What
only reads never fails to write, so that its faults tell whose mistake it was: a reader blames data
if each of its steps does (`BlamesData.read`), and what is joined from parts that blame data blames
data.

The readers come first, one lemma for each, and then the three procedures that are made of them.
-/

namespace AxiomPinpointing

variable {α β σ : Type}

/-- Holds if an outcome, should it be a fault, blames the data. -/
def BlamesData (outcome : Except Fault α) : Prop :=
  ∀ fault, outcome = .error fault → fault.category ≠ .writeFailure

/-- Holds if a step, should it give up, blames the data. -/
def Step.BlamesData (step : Step σ) : Prop :=
  ∀ fault state, step = .fail fault state → fault.category ≠ .writeFailure

/-! ## Joining parts -/

namespace BlamesData

lemma ok (a : α) : BlamesData (.ok a) := by
  intro fault h
  contradiction

lemma error {fault : Fault} (data : fault.category ≠ .writeFailure) :
    BlamesData (.error fault : Except Fault α) := by
  intro other h
  cases h
  exact data

lemma bind {outcome : Except Fault α} {next : α → Except Fault β} (first : BlamesData outcome)
    (rest : ∀ a, BlamesData (next a)) : BlamesData (outcome >>= next) := by
  cases outcome with
  | error fault => exact error (first fault rfl)
  | ok a => exact rest a

lemma map {outcome : Except Fault α} (h : BlamesData outcome) (f : α → β) :
    BlamesData (outcome.map f) := by
  cases outcome with
  | error fault => exact error (h fault rfl)
  | ok a => exact ok (f a)

lemma mapM {f : α → Except Fault β} (h : ∀ a, BlamesData (f a)) (as : List α) :
    BlamesData (as.mapM f) := by
  induction as with
  | nil => exact ok []
  | cons a as ih =>
    rw [List.mapM_cons]
    exact (h a).bind fun _ => ih.bind fun _ => ok _

lemma run {run : Run α} {next : α → Run β} (first : BlamesData run.outcome)
    (rest : ∀ a, BlamesData (next a).outcome) : BlamesData (run >>= next).outcome := by
  rw [Run.bind_outcome]
  exact first.bind rest

lemma foldlM {next : β → α → Run β} (h : ∀ b a, BlamesData (next b a).outcome) (as : List α)
    (b : β) : BlamesData (as.foldlM next b).outcome := by
  induction as generalizing b with
  | nil => exact ok b
  | cons a as ih =>
    rw [List.foldlM_cons]
    exact run (h b a) ih

end BlamesData

/-! ## Reading line by line -/

namespace Step.BlamesData

lemma next (state : σ) : (Step.next state).BlamesData := by
  intro fault state' h
  contradiction

lemma stop (state : σ) : (Step.stop state).BlamesData := by
  intro fault state' h
  contradiction

lemma update {content : Except Fault α} (h : AxiomPinpointing.BlamesData content) (state : σ)
    (change : σ → α → σ) : (Step.update state content change).BlamesData := by
  cases content with
  | ok a => exact next (change state a)
  | error fault =>
    intro other state' given
    cases given
    exact h fault rfl

end Step.BlamesData

/-- A reader whose steps blame data blames data, also where a line cannot be read at all. -/
lemma BlamesData.visitLines {visit : Nat → String → σ → Step σ}
    (step : ∀ number content state, (visit number content state).BlamesData) (number : Nat)
    (state : σ) (lines : List Line) :
    BlamesData (AxiomPinpointing.visitLines visit number state lines).outcome := by
  induction lines generalizing number state with
  | nil => exact .ok state
  | cons line rest ih =>
    cases line with
    | unreadable => exact .error nofun
    | text content =>
      rw [AxiomPinpointing.visitLines]
      cases visited : visit number content state with
      | next state' => exact ih (number + 1) state'
      | stop state' => exact .ok state'
      | fail fault state' => exact .error (step number content state fault state' visited)

lemma BlamesData.read {visit : Nat → String → σ → Step σ}
    (step : ∀ number content state, (visit number content state).BlamesData) (source : Source)
    (start : σ) : BlamesData (source.read visit start).outcome :=
  .visitLines step 1 start source.lines

/-! ## Literals and clauses -/

lemma Literal.blamesData_ofWord (line : Nat) (word : String) :
    BlamesData (Literal.ofWord line word) := by
  rw [ofWord]
  split
  next => exact .ok _
  next => exact .error nofun

lemma Literal.blamesData_opposite (l : Literal) : BlamesData l.opposite := by
  rw [opposite]
  split_ifs
  · exact .error nofun
  · exact .error nofun
  · exact .ok _

lemma Clause.blamesData_literalsOfWords (line : Nat) (words : List String) :
    BlamesData (literalsOfWords line words) := by
  induction words with
  | nil => exact .error nofun
  | cons word rest ih =>
    refine .bind (Literal.blamesData_ofWord line word) fun l => ?_
    split_ifs
    · exact .ok []
    · exact .error nofun
    · exact ih.bind fun ls => .ok (l :: ls)

lemma Formula.blamesData_visit (number : Nat) (line : String) (formula : Formula) :
    (visit number line formula).BlamesData := by
  rw [visit]
  split
  · exact .next formula
  · exact .next formula
  · exact .next formula
  · exact .stop formula
  · exact .update ((Clause.blamesData_literalsOfWords number _).map Clause.mk) formula push

lemma Formula.blamesData_read (source : Source) : BlamesData (Formula.read source).outcome := by
  refine .run (.read blamesData_visit source empty) fun formula => ?_
  split_ifs
  · exact .error nofun
  · exact .run (.ok ()) fun _ => .ok formula

/-! ## Assumptions -/

namespace Assumptions

lemma blamesData_ofWord (line : Nat) (word : String) : BlamesData (ofWord line word) := by
  refine .bind (Literal.blamesData_ofWord line word) fun l => ?_
  split_ifs
  · exact .error nofun
  · exact .ok l

lemma blamesData_ofRow (line : Nat) (words : List String) : BlamesData (ofRow line words) := by
  refine .bind (Literal.blamesData_ofWord line _) fun last => ?_
  split_ifs
  · exact .mapM (blamesData_ofWord line) words.dropLast
  · exact .error nofun

lemma blamesData_visit (layout : AssumptionLayout) (number : Nat) (line : String)
    (found : Array Literal) : (visit layout number line found).BlamesData := by
  cases layout with
  | column =>
    rw [visit, visitColumn]
    split
    · exact .next found
    · exact .update (blamesData_ofWord number _) found Array.push
  | row =>
    rw [visit, visitRow]
    split
    · exact .next found
    · split
      next => exact .stop _
      next fault given =>
        intro other state h
        cases h
        exact blamesData_ofRow number _ fault given

lemma blamesData_read (layout : AssumptionLayout) (source : Source) :
    BlamesData (Assumptions.read layout source).outcome :=
  .run (.read (blamesData_visit layout) source #[]) fun found =>
    .run (.ok ()) fun _ => .ok found.toList

end Assumptions

/-! ## Encoding -/

namespace Encoding

lemma blamesData_ofFormula (settings : Settings) (formula : Formula) (assumptions : List Literal)
    (query : Literal) : BlamesData (ofFormula settings formula assumptions query).outcome := by
  refine .run query.blamesData_opposite fun denied => ?_
  split_ifs
  · exact .error nofun
  · refine .run (.ok ()) fun _ => ?_
    split
    · exact .error nofun
    · exact .run (.ok ()) fun _ => .ok _

/-- **Encoding blames data only.** -/
lemma blamesData_ofSources (settings : Settings) (clauses assumptions : Source) (query : Literal) :
    BlamesData (ofSources settings clauses assumptions query).outcome :=
  .run query.blamesData_opposite fun _ =>
    .run (Formula.blamesData_read clauses) fun formula =>
      .run (Assumptions.blamesData_read settings.layout.value assumptions) fun found =>
        blamesData_ofFormula settings formula found query

end Encoding

/-! ## Definitions and modules -/

lemma Definition.blamesData_ofWords (origin : Origin) (line : Nat) (words : List String) :
    BlamesData (ofWords origin line words) := by
  rw [ofWords.eq_def]
  split
  · exact .error nofun
  · split
    · exact .error nofun
    · exact .error nofun
    · exact .ok _

namespace DefinitionStore

lemma blamesData_visit (origin : Origin) (number : Nat) (line : String) (store : DefinitionStore) :
    (visit origin number line store).BlamesData := by
  rw [visit]
  split
  · exact .next store
  · exact .update (Definition.blamesData_ofWords origin number _) store insert

lemma blamesData_read (gci ri : Source) : BlamesData (DefinitionStore.read gci ri).outcome :=
  .run (.read (blamesData_visit .gci) gci empty) fun concepts =>
    .run (.read (blamesData_visit .ri) ri concepts) fun store =>
      .run (.ok ()) fun _ => .ok store

end DefinitionStore

namespace AxiomModule

lemma blamesData_visit (number : Nat) (line : String) (last : LastLine) :
    (visit number line last).BlamesData := by
  rw [visit]
  split_ifs
  · exact .next last
  · split
    · exact .next _
    · exact .next _

lemma blamesData_idOfWord (line : Nat) (word : String) : BlamesData (idOfWord line word) := by
  rw [idOfWord]
  split
  · exact .ok _
  · exact .error nofun

lemma LastLine.blamesData_ids (last : LastLine) : BlamesData last.ids := by
  rw [ids]
  split
  next => exact .ok []
  next number line _ =>
    rw [ofLine]
    split
    · exact .mapM (blamesData_idOfWord number) _
    · exact .error nofun

lemma blamesData_read (source : Source) : BlamesData (AxiomModule.read source).outcome := by
  refine .run (.ok ()) fun _ => .run (.read blamesData_visit source {}) fun last =>
    .run last.blamesData_ids fun ids => ?_
  split_ifs
  · exact .run (.ok ()) fun _ => .ok ids
  · exact .ok ids

end AxiomModule

/-! ## Extracting -/

lemma Axiom.blamesData_ofDefinitions (strategy : PairStrategy) (id : AxiomId)
    (definitions : List Definition) : BlamesData (ofDefinitions strategy id definitions) := by
  rw [ofDefinitions.eq_def]
  split
  · exact .error nofun
  · exact .ok _
  · split_ifs
    · exact .ok _
    · exact .error nofun
  · exact .error nofun

namespace Extraction

lemma blamesData_next (settings : Settings) (store : DefinitionStore) (extraction : Extraction)
    (id : AxiomId) : BlamesData (next settings store extraction id).outcome := by
  have made := Axiom.blamesData_ofDefinitions settings.pairs.value id (store.get id)
  refine .run ?_ fun a => .ok _
  cases found : Axiom.ofDefinitions settings.pairs.value id (store.get id) with
  | error fault => exact .error (made fault found)
  | ok a => exact .ok a

/-- **Extracting blames data only.** -/
lemma blamesData_ofSources (settings : Settings) (gci ri moduleSource : Source) :
    BlamesData (ofSources settings gci ri moduleSource).outcome :=
  .run (DefinitionStore.blamesData_read gci ri) fun store =>
    .run (AxiomModule.blamesData_read moduleSource) fun ids =>
      .run (.foldlM (blamesData_next settings store) ids empty) fun extraction =>
        .run (.ok ()) fun _ => .ok extraction

end Extraction

/-! ## Index maps -/

namespace Renumbering

lemma blamesData_entryOfWords (before line : Nat) (place id text : List Char) :
    BlamesData (entryOfWords before line place id text) := by
  rw [entryOfWords]
  split
  · exact .error nofun
  · exact .error nofun
  · split_ifs
    · exact .ok _
    · exact .error nofun

lemma blamesData_visit (number : Nat) (line : String) (map : Renumbering) :
    (visit number line map).BlamesData := by
  rw [visit]
  dsimp only
  split_ifs
  · exact .next map
  · intro fault state h
    cases h
    exact nofun
  · exact .update (blamesData_entryOfWords _ number _ _ _) map add

/-- **Reading an index map blames data only.** -/
lemma blamesData_read (source : Source) : BlamesData (Renumbering.read source) :=
  .read blamesData_visit source empty

lemma blamesData_idAt (map : Renumbering) (place : Nat) : BlamesData (map.idAt place) := by
  refine .map ?_ Entry.id
  rw [entryAt]
  split
  · exact .ok _
  · exact .error nofun

lemma blamesData_placeOf (map : Renumbering) (id : AxiomId) : BlamesData (map.placeOf id) := by
  rw [placeOf]
  split
  · exact .ok _
  · exact .error nofun

end Renumbering

end AxiomPinpointing
