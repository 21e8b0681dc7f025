import AxiomPinpointing.Proofs.Words
import AxiomPinpointing.Source
import Mathlib.Tactic.Lemma
import Mathlib.Tactic.SplitIfs

/-!
# Lines written and lines read

A text that was written line by line is read line by line.  A source is cut at the byte of a newline
and not at the character, so one has to know that this byte occurs in the encoding of no other
character: the bytes of a longer encoding all have their highest bit set.  In the other direction,
the only newline that a line can have is its last character (`Source.newline_notMem_dropLast`).

Most readers look at the words of a line only.  To them a source is a list of **rows**: the words of
its lines, without the blank lines (`Source.rows`); where the numbers of lines matter, it is the
lines themselves that are kept (`filledLines`).  What every single step of a reader preserves is
preserved by the whole reading (`visitLines_preserves`).
-/

namespace AxiomPinpointing

namespace Text

/-! ## The byte of a newline -/

lemma encodeUtf8_eq_flatMap (text : String) :
    encodeUtf8 text = text.toList.flatMap String.utf8EncodeChar := by
  rw [encodeUtf8, String.toUTF8_eq_toByteArray, ← String.utf8Encode_toList, List.utf8Encode,
    List.data_toByteArray]

lemma encodeUtf8_append (x y : String) : encodeUtf8 (x ++ y) = encodeUtf8 x ++ encodeUtf8 y := by
  simp [encodeUtf8_eq_flatMap]

lemma encodeUtf8_newline : encodeUtf8 "\n" = [newline] := rfl

/-- The byte of a newline is in the encoding of no other character. -/
lemma newline_notMem_utf8EncodeChar {c : Char} (other : c ≠ '\n') :
    newline ∉ String.utf8EncodeChar c := by
  have code : c.val.toNat ≠ 10 := fun same => other (Char.toNat_inj.mp same)
  fun_cases String.utf8EncodeChar c
  all_goals
    simp only [newline, List.mem_cons, List.not_mem_nil, or_false, ← UInt8.toNat_inj,
      UInt8.toNat_ofNat', UInt8.reduceToNat]
    omega

lemma newline_notMem_encodeUtf8 {text : String} (h : '\n' ∉ text.toList) :
    newline ∉ encodeUtf8 text := by
  rw [encodeUtf8_eq_flatMap, List.mem_flatMap]
  rintro ⟨c, hc, mem⟩
  exact newline_notMem_utf8EncodeChar (fun same => h (same ▸ hc)) mem

end Text

/-! ## The lines of a text -/

namespace Source

/-- **The first line of a text** runs up to the first newline. -/
lemma lines_ofText_append {body : String} (h : '\n' ∉ body.toList) (rest : String) :
    (ofText (body ++ "\n" ++ rest)).lines = .text (body ++ "\n") :: (ofText rest).lines := by
  have cut : (ofText (body ++ "\n" ++ rest)).pieces =
      Text.encodeUtf8 body :: (ofText rest).pieces := by
    have noNewline : ∀ byte ∈ Text.encodeUtf8 body, (byte == newline) = false := by
      intro byte mem
      refine beq_false_of_ne fun same => Text.newline_notMem_encodeUtf8 h (same ▸ mem)
    simp only [pieces, ofText, Text.encodeUtf8_append, Text.encodeUtf8_newline, List.append_assoc,
      List.singleton_append]
    rw [List.splitOnP_append_cons_of_forall_mem noNewline _ BEq.rfl]
  have first : Line.ofBytes (Text.encodeUtf8 body ++ [newline]) = .text (body ++ "\n") := by
    rw [← Text.encodeUtf8_newline, ← Text.encodeUtf8_append, Line.ofBytes,
      Text.decodeUtf8?_encodeUtf8]
  obtain ⟨piece, more, others⟩ := List.exists_cons_of_ne_nil
    (List.splitOnP_ne_nil (· == newline) (ofText rest).bytes)
  rw [lines, lines, cut, pieces, others]
  simp [first, ofText]

/-- **A text that was written line by line is read line by line.** -/
lemma lines_ofText_join (bodies : List String) (h : ∀ body ∈ bodies, '\n' ∉ body.toList) :
    (ofText (String.join (bodies.map (· ++ "\n")))).lines =
      bodies.map fun body => .text (body ++ "\n") := by
  induction bodies with
  | nil => rfl
  | cons body bodies ih =>
    rw [List.map_cons, String.join_cons, lines_ofText_append (h body List.mem_cons_self),
      ih fun other mem => h other (List.mem_cons_of_mem body mem), List.map_cons]

lemma lines_ofText_rows (rows : List (List String))
    (h : ∀ ws ∈ rows, ∀ word ∈ ws, Text.IsWord word) :
    (ofText (String.join (rows.map Text.row))).lines = rows.map fun ws => .text (Text.row ws) := by
  have written := lines_ofText_join (rows.map (" ".intercalate ·)) fun body mem => by
    obtain ⟨ws, row, rfl⟩ := List.mem_map.mp mem
    exact Text.newline_notMem_intercalate (h ws row)
  rw [List.map_map, List.map_map] at written
  exact written

lemma lines_ofText_row {ws : List String} (h : ∀ word ∈ ws, Text.IsWord word) :
    (ofText (Text.row ws)).lines = [.text (Text.row ws)] := by
  have one := lines_ofText_rows [ws] (List.forall_mem_singleton.mpr h)
  rwa [List.map_singleton, String.join_cons, String.join_nil, String.append_empty] at one

/-- A source that was written row by row is read row by row. -/
lemma read_rows {α σ : Type} (visit : Nat → String → σ → Step σ) (start : σ) (as : List α)
    (words : α → List String) (h : ∀ a ∈ as, ∀ word ∈ words a, Text.IsWord word) :
    (ofText (String.join (as.map fun a => Text.row (words a)))).read visit start =
      visitLines visit 1 start (as.map fun a => .text (Text.row (words a))) := by
  have written := lines_ofText_rows (as.map words) fun ws mem => by
    obtain ⟨a, known, rfl⟩ := List.mem_map.mp mem
    exact h a known
  rw [List.map_map, List.map_map] at written
  exact congrArg (visitLines visit 1 start) written

/-! ## Newlines in lines -/

lemma newline_notMem_of_mem_pieces {source : Source} {piece : List UInt8}
    (h : piece ∈ source.pieces) : newline ∉ piece := by
  intro mem
  simpa using Text.separator_notMem_of_mem_splitOnP h newline mem

lemma getLastD_mem_pieces (source : Source) : source.pieces.getLastD [] ∈ source.pieces := by
  have nonempty : source.pieces ≠ [] := List.splitOnP_ne_nil _ _
  rw [List.getLastD_eq_getLast?, List.getLast?_eq_some_getLast nonempty]
  exact List.getLast_mem nonempty

lemma encodeUtf8_of_ofBytes {bytes : List UInt8} {content : String}
    (h : Line.ofBytes bytes = .text content) : Text.encodeUtf8 content = bytes := by
  rw [Line.ofBytes] at h
  split at h
  next text found =>
    cases h
    exact Text.encodeUtf8_of_decodeUtf8? found
  next => contradiction

/-- The bytes of a line have no newline but the last. -/
lemma newline_notMem_dropLast_encodeUtf8 {source : Source} {content : String}
    (h : .text content ∈ source.lines) : newline ∉ (Text.encodeUtf8 content).dropLast := by
  rw [lines, List.mem_append] at h
  rcases h with ended | last
  · obtain ⟨piece, mem, made⟩ := List.mem_map.mp ended
    rw [encodeUtf8_of_ofBytes made, List.dropLast_concat]
    exact newline_notMem_of_mem_pieces (List.dropLast_subset _ mem)
  · rw [lastLine.eq_def] at last
    split at last
    next => simp at last
    next =>
      split_ifs at last with none
      · contradiction
      · rw [encodeUtf8_of_ofBytes (List.mem_singleton.mp last).symm]
        intro mem
        exact newline_notMem_of_mem_pieces (getLastD_mem_pieces source) (List.dropLast_subset _ mem)

/-- **A line has no newline but at its end.** -/
lemma newline_notMem_dropLast {source : Source} {content : String}
    (h : .text content ∈ source.lines) : '\n' ∉ content.toList.dropLast := by
  intro mem
  have nonempty : content.toList ≠ [] := fun none => by simp [none] at mem
  have split := List.dropLast_concat_getLast nonempty
  refine newline_notMem_dropLast_encodeUtf8 h ?_
  rw [Text.encodeUtf8_eq_flatMap, ← split, List.flatMap_append, List.flatMap_singleton,
    List.dropLast_append_of_ne_nil String.utf8EncodeChar_ne_nil, List.mem_append]
  exact .inl (List.mem_flatMap.mpr ⟨'\n', mem, by decide⟩)

end Source

/-! ## Lines as rows of words -/

/-- The words of a line; one that cannot be read has none. -/
def Line.words : Line → List String
  | .text content => Text.words content
  | .unreadable => []

/-- The words of the lines that are not blank. -/
def rowsOf (lines : List Line) : List (List String) :=
  (lines.map Line.words).filter (!·.isEmpty)

/-- The rows of a source. -/
def Source.rows (source : Source) : List (List String) :=
  rowsOf source.lines

lemma rowsOf_cons_of_blank {content : String} (blank : Text.words content = [])
    (rest : List Line) : rowsOf (.text content :: rest) = rowsOf rest := by
  simp [rowsOf, Line.words, blank]

lemma isWord_of_mem_rowsOf {lines : List Line} {ws : List String} (h : ws ∈ rowsOf lines) :
    ∀ word ∈ ws, Text.IsWord word := by
  obtain ⟨line, -, rfl⟩ := List.mem_map.mp (List.mem_filter.mp h).1
  cases line with
  | text content => exact fun word => Text.isWord_of_mem_words
  | unreadable => simp [Line.words]

lemma rowsOf_cons {content : String} (words : Text.words content ≠ []) (rest : List Line) :
    rowsOf (.text content :: rest) = Text.words content :: rowsOf rest := by
  simp [rowsOf, Line.words, words]

/-! ## Lines that count -/

/-- The lines with words on them, and their numbers. -/
def filledLines (number : Nat) (lines : List Line) : List (Line × Nat) :=
  (lines.zipIdx number).filter fun row => row.1.words ≠ []

lemma filledLines_cons_of_blank {content : String} (blank : Text.words content = [])
    (number : Nat) (rest : List Line) :
    filledLines number (.text content :: rest) = filledLines (number + 1) rest := by
  simp [filledLines, Line.words, blank]

lemma filledLines_cons {content : String} (filled : Text.words content ≠ []) (number : Nat)
    (rest : List Line) : filledLines number (.text content :: rest) =
      (.text content, number) :: filledLines (number + 1) rest := by
  simp [filledLines, Line.words, filled]

lemma filledLines_append (number : Nat) (front back : List Line) :
    filledLines number (front ++ back) =
      filledLines number front ++ filledLines (number + front.length) back := by
  rw [filledLines, List.zipIdx_append, List.filter_append]
  rfl

lemma filledLines_eq_nil {lines : List Line} (h : ∀ line ∈ lines, line.words = [])
    (number : Nat) : filledLines number lines = [] := by
  refine List.filter_eq_nil_iff.mpr fun row mem => ?_
  simpa using h row.1 (List.fst_mem_of_mem_zipIdx mem)

lemma words_ne_nil_of_mem_filledLines {number : Nat} {lines : List Line} {row : Line × Nat}
    (h : row ∈ filledLines number lines) : row.1.words ≠ [] := by
  simpa using (List.mem_filter.mp h).2

/-- The last line with words, if the lines behind it are blank. -/
lemma getLast?_filledLines (number : Nat) (front : List Line) {line : Line} {back : List Line}
    (filled : line.words ≠ []) (blank : ∀ other ∈ back, other.words = []) :
    (filledLines number (front ++ line :: back)).getLast? = some (line, number + front.length) := by
  have alone : filledLines (number + front.length) [line] = [(line, number + front.length)] := by
    simp [filledLines, filled]
  rw [← List.singleton_append, filledLines_append, filledLines_append, filledLines_eq_nil blank,
    alone, List.append_nil, List.getLast?_concat]

/-- **Rows are what lines with words hold.** -/
lemma map_words_filledLines (number : Nat) (lines : List Line) :
    (filledLines number lines).map (·.1.words) = rowsOf lines := by
  induction lines generalizing number with
  | nil => rfl
  | cons line rest ih =>
    rw [← List.singleton_append, filledLines_append, List.map_append, ih, rowsOf, rowsOf,
      List.map_append, List.filter_append]
    congr 1
    by_cases blank : line.words = [] <;> simp [filledLines, blank]

/-! ## Readers -/

section Readers

variable {σ : Type} {visit : Nat → String → σ → Step σ}

lemma visitLines_next {number : Nat} {content : String} {state state' : σ}
    (h : visit number content state = .next state') (rest : List Line) :
    visitLines visit number state (.text content :: rest) =
      visitLines visit (number + 1) state' rest := by
  rw [visitLines, h]

lemma visitLines_fail {number : Nat} {content : String} {state state' : σ} {fault : Fault}
    (h : visit number content state = .fail fault state') (rest : List Line) :
    visitLines visit number state (.text content :: rest) = ⟨state', some fault⟩ := by
  rw [visitLines, h]

/-- The state that a step leaves. -/
def Step.state : Step σ → σ
  | .next state | .stop state | .fail _ state => state

/-- **What every step preserves, the whole reading preserves.** -/
lemma visitLines_preserves {P : σ → Prop}
    (step : ∀ number content state, P state → P (visit number content state).state) (number : Nat)
    (state : σ) (start : P state) (lines : List Line) :
    P (visitLines visit number state lines).state := by
  induction lines generalizing number state with
  | nil => exact start
  | cons line rest ih =>
    cases line with
    | unreadable => exact start
    | text content =>
      have after := step number content state start
      rw [visitLines]
      cases visited : visit number content state with
      | next state' => exact ih (number + 1) state' (by rwa [visited] at after)
      | stop state' => rwa [visited] at after
      | fail fault state' => rwa [visited] at after

end Readers

end AxiomPinpointing
