import AxiomPinpointing.Proofs.Trimming

/-!
# Runs of blanks

Words do not depend on how many blanks are between them, nor on which ones, nor on blanks in front
of the first and behind the last (`words_append_run`, `words_run_append`, `words_append_run_end`).
So a first word is taken off in the same way by a look at the words and by a cut at the first blank
behind it (`exists_cut`, `words_cut`, `words_behindWord`).
-/

namespace AxiomPinpointing.Text

/-- Separators in front only cut off empty pieces. -/
lemma filter_splitOnP_append {α : Type} {p : α → Bool} {as : List α} (h : ∀ a ∈ as, p a = true)
    (bs : List α) :
    ((as ++ bs).splitOnP p).filter (!·.isEmpty) = (bs.splitOnP p).filter (!·.isEmpty) := by
  induction as with
  | nil => rfl
  | cons a as ih =>
    obtain ⟨first, others⟩ := List.forall_mem_cons.mp h
    rw [List.cons_append, List.splitOnP_cons_eq_if_modifyHead, if_pos first,
      List.filter_cons_of_neg (by simp), ih others]

/-- Blanks in front do not matter. -/
lemma words_run_append {run : String} (h : IsRun run) (x : String) :
    words (run ++ x) = words x := by
  rw [words, String.toList_append, filter_splitOnP_append h, words]

/-- **At a run of blanks** the words of a text are those before it and those after it. -/
lemma words_append_run {run : String} (h : IsRun run) (filled : run ≠ "") (x y : String) :
    words (x ++ run ++ y) = words x ++ words y := by
  obtain ⟨c, cs, spelled⟩ := List.exists_cons_of_ne_nil (mt String.toList_eq_nil_iff.mp filled)
  rw [IsRun, spelled] at h
  obtain ⟨blank, others⟩ := List.forall_mem_cons.mp h
  have cut : (x ++ run ++ y).toList = x.toList ++ c :: (cs ++ y.toList) := by simp [spelled]
  rw [words, cut, List.splitOnP_append_cons _ _ blank, List.filter_append, List.map_append,
    filter_splitOnP_append others]
  rfl

/-- Blanks at the end do not matter. -/
lemma words_append_run_end {run : String} (h : IsRun run) (x : String) :
    words (x ++ run) = words x := by
  by_cases filled : run = ""
  · rw [filled, String.append_empty]
  · have ended := words_append_run h filled x ""
    rwa [String.append_empty, words_empty, List.append_nil] at ended

/-! ## Behind the first word -/

lemma words_trimLeft (cs : List Char) :
    words (String.ofList (trimLeft cs)) = words (String.ofList cs) := by
  have run : IsRun (String.ofList (cs.takeWhile isBlank)) := by
    rw [IsRun, String.toList_ofList]
    exact List.all_eq_true.mp List.all_takeWhile
  rw [← words_run_append run, ← String.ofList_append, trimLeft, List.takeWhile_append_dropWhile]

/-- A text without blanks is no word, or one. -/
lemma tail_words_of_filled {text : String} (filled : ∀ c ∈ text.toList, isBlank c = false) :
    (words text).tail = [] := by
  by_cases empty : text = ""
  · rw [empty]
    rfl
  · rw [words_of_isWord ⟨empty, filled⟩]
    rfl

lemma words_ne_nil {text : String} (nonempty : text ≠ "") (starts : StartsFilled text.toList) :
    words text ≠ [] := by
  obtain ⟨c, cs, spelled⟩ := List.exists_cons_of_ne_nil (mt String.toList_eq_nil_iff.mp nonempty)
  intro none
  have blank := isBlankLine_iff.mpr none
  rw [spelled, startsFilled_cons] at starts
  simp [isBlankLine, spelled, starts] at blank

/-- **A text that begins with a word** is that word, blanks, and what comes behind them. -/
lemma exists_cut {text : String} (nonempty : text ≠ "") (starts : StartsFilled text.toList) :
    ∃ word gap rest, text = word ++ (gap ++ rest) ∧ IsWord word ∧ IsRun gap ∧
      (gap = "" → rest = "") ∧ StartsFilled rest.toList := by
  have parts := (List.takeWhile_append_dropWhile (p := (!isBlank ·)) (l := text.toList)).symm
  have next := List.head?_dropWhile_not (!isBlank ·) text.toList
  have filled : ∀ c ∈ text.toList.takeWhile (!isBlank ·), isBlank c = false := fun c mem => by
    simpa using List.mem_takeWhile_imp mem
  generalize text.toList.takeWhile (!isBlank ·) = front at filled parts
  generalize text.toList.dropWhile (!isBlank ·) = back at next parts
  refine ⟨.ofList front, .ofList (back.takeWhile isBlank), .ofList (trimLeft back),
    ?_, ⟨fun none => ?_, by rwa [String.toList_ofList]⟩, ?_, fun none => ?_, ?_⟩
  · rw [← String.ofList_append, ← String.ofList_append, trimLeft, List.takeWhile_append_dropWhile,
      ← parts, String.ofList_toList]
  · -- a text without a word in front would begin with a blank
    rw [String.ofList_eq_empty_iff] at none
    rw [none, List.nil_append] at parts
    rw [parts] at starts
    cases back with
    | nil => exact nonempty (String.toList_eq_nil_iff.mp parts)
    | cons c back => simp [startsFilled_cons.mp starts] at next
  · rw [IsRun, String.toList_ofList]
    exact fun c mem => List.mem_takeWhile_imp mem
  · cases back with
    | nil => rfl
    | cons c back =>
      have blank : isBlank c = true := by simpa using next
      simp [List.takeWhile_cons_of_pos blank] at none
  · rw [String.toList_ofList]
    exact startsFilled_trimLeft back

lemma words_cut {word gap rest : String} (h : IsWord word) (isGap : IsRun gap)
    (apart : gap = "" → rest = "") : words (word ++ (gap ++ rest)) = word :: words rest := by
  by_cases none : gap = ""
  · rw [none, apart none, String.append_empty, String.append_empty, words_of_isWord h]
    rfl
  · rw [← String.append_assoc, words_append_run isGap none, words_of_isWord h]
    rfl

/-- **A cut at the first blank** takes the first word off, and nothing else. -/
lemma words_behindWord (line : String) : words (behindWord line) = (words line).tail := by
  have same := words_trimLeft line.toList
  rw [String.ofList_toList] at same
  rw [behindWord, ← same]
  have starts := startsFilled_trimLeft line.toList
  generalize trimLeft line.toList = cs at starts
  have filled : ∀ c ∈ cs.takeWhile (!isBlank ·), isBlank c = false := fun c mem => by
    simpa using List.mem_takeWhile_imp mem
  have parts := (List.takeWhile_append_dropWhile (p := (!isBlank ·)) (l := cs)).symm
  have next := List.head?_dropWhile_not (!isBlank ·) cs
  generalize cs.takeWhile (!isBlank ·) = front at filled parts
  generalize cs.dropWhile (!isBlank ·) = rest at next parts
  subst parts
  cases rest with
  | nil =>
    rw [List.append_nil, tail_words_of_filled (by rwa [String.toList_ofList])]
    rfl
  | cons c rest =>
    have blank : isBlank c = true := by simpa using next
    have isWord : IsWord (String.ofList front) := by
      refine ⟨fun none => ?_, by rwa [String.toList_ofList]⟩
      have none : front = [] := by simpa using none
      rw [none, List.nil_append, startsFilled_cons, blank] at starts
      contradiction
    have cut : String.ofList (front ++ c :: rest) =
        String.ofList front ++ String.ofList [c] ++ String.ofList rest := by
      rw [← String.ofList_append, ← String.ofList_append, List.append_assoc,
        List.singleton_append]
    rw [cut, words_append_blank blank String.toList_ofList, words_of_isWord isWord]
    rfl

/-! ## Spaced texts

A text is spaced if it consists of words with a single blank between any two. -/

/-- Holds of texts of words, side by side. -/
def IsSpaced (text : String) : Prop :=
  ∃ ws, ws ≠ [] ∧ (∀ word ∈ ws, IsWord word) ∧ text = " ".intercalate ws

/-- **The words of a spaced text**, side by side, are the text. -/
lemma IsSpaced.intercalate_words {text : String} (h : IsSpaced text) :
    " ".intercalate (words text) = text := by
  obtain ⟨ws, -, isWord, rfl⟩ := h
  rw [words_intercalate isWord]

lemma IsWord.isSpaced {word : String} (h : IsWord word) : IsSpaced word :=
  ⟨[word], by simp, by simpa using h, String.intercalate_singleton.symm⟩

lemma IsSpaced.append {x y : String} (hx : IsSpaced x) (hy : IsSpaced y) :
    IsSpaced (x ++ " " ++ y) := by
  obtain ⟨ws, filled, isWord, rfl⟩ := hx
  obtain ⟨ws', filled', isWord', rfl⟩ := hy
  refine ⟨ws ++ ws', by simp [filled], ?_, ?_⟩
  · intro word mem
    exact (List.mem_append.mp mem).elim (isWord word) (isWord' word)
  · rw [String.intercalate_append_of_ne_nil filled filled']

/-- Spaced texts side by side are a spaced text. -/
lemma isSpaced_intercalate {texts : List String} (filled : texts ≠ [])
    (spaced : ∀ text ∈ texts, IsSpaced text) : IsSpaced (" ".intercalate texts) := by
  induction texts with
  | nil => contradiction
  | cons text texts ih =>
    obtain ⟨first, others⟩ := List.forall_mem_cons.mp spaced
    by_cases last : texts = []
    · rwa [last, String.intercalate_singleton]
    · rw [String.intercalate_cons_of_ne_nil last]
      exact first.append (ih last others)

/-- What is put right behind a spaced text becomes part of its last word. -/
lemma IsSpaced.append_filled {x : String} (h : IsSpaced x) {tail : String}
    (filled : ∀ c ∈ tail.toList, isBlank c = false) : IsSpaced (x ++ tail) := by
  obtain ⟨ws, some, isWord, rfl⟩ := h
  obtain ⟨front, word, rfl⟩ := (List.eq_nil_or_concat' ws).resolve_left some
  have last : IsWord (word ++ tail) := by
    obtain ⟨nonempty, wordFilled⟩ := isWord word (by simp)
    refine ⟨by simp [nonempty], fun c mem => ?_⟩
    rw [String.toList_append, List.mem_append] at mem
    exact mem.elim (wordFilled c) (filled c)
  by_cases single : front = []
  · rw [single, List.nil_append, String.intercalate_singleton]
    exact last.isSpaced
  · rw [String.intercalate_append_of_ne_nil single (by simp), String.intercalate_singleton,
      String.append_assoc]
    exact IsSpaced.append ⟨front, single, fun other mem => isWord other (by simp [mem]), rfl⟩
      last.isSpaced

/-- What is put right in front of a spaced text becomes part of its first word. -/
lemma IsSpaced.cons_filled {c : Char} (filled : isBlank c = false) {cs : List Char}
    (h : IsSpaced (String.ofList cs)) : IsSpaced (String.ofList (c :: cs)) := by
  obtain ⟨ws, some, isWord, split⟩ := h
  obtain ⟨word, rest, rfl⟩ := List.exists_cons_of_ne_nil some
  obtain ⟨first, others⟩ := List.forall_mem_cons.mp isWord
  have begun : IsWord (String.ofList [c] ++ word) := by
    refine ⟨by simp, ?_⟩
    rw [String.toList_append, String.toList_ofList, List.singleton_append, List.forall_mem_cons]
    exact ⟨filled, first.2⟩
  have parts : String.ofList (c :: cs) = String.ofList [c] ++ " ".intercalate (word :: rest) := by
    rw [← split, ← String.ofList_append, List.singleton_append]
  rw [parts]
  by_cases single : rest = []
  · rw [single, String.intercalate_singleton]
    exact begun.isSpaced
  · rw [String.intercalate_cons_of_ne_nil single, ← String.append_assoc, ← String.append_assoc]
    exact begun.isSpaced.append ⟨rest, single, others, rfl⟩

/-- Holds if all blanks of a text are single spaces. -/
def SingleSpaced (cs : List Char) : Prop :=
  ∀ (k : Nat) (h : k < cs.length), isBlank cs[k] = true →
    cs[k] = ' ' ∧ ∀ next ∈ cs[k + 1]?, isBlank next = false

instance (cs : List Char) : Decidable (SingleSpaced cs) :=
  decidable_of_iff (∀ (k : Nat) (h : k < cs.length), isBlank cs[k] = true →
    cs[k] = ' ' ∧ cs[k + 1]?.all (!isBlank ·) = true) (by simp [SingleSpaced, Option.all_eq_true])

lemma SingleSpaced.tail {c : Char} {cs : List Char} (h : SingleSpaced (c :: cs)) :
    SingleSpaced cs :=
  fun k within blank => h (k + 1) (Nat.succ_lt_succ within) blank

/-- Single spaces that are not at the end of a text separate words, but for one in front. -/
lemma isSpaced_or_of_singleSpaced {cs : List Char} (nonempty : cs ≠ []) (ends : EndsFilled cs)
    (single : SingleSpaced cs) : IsSpaced (String.ofList cs) ∨
      ∃ rest, cs = ' ' :: rest ∧ IsSpaced (String.ofList rest) := by
  -- What is left behind the first character may start with a space, hence the second case.
  induction cs with
  | nil => contradiction
  | cons c cs ih =>
    by_cases last : cs = []
    · subst last
      have filled : isBlank c = false := ends c rfl
      exact .inl (IsWord.isSpaced ⟨by simp, by simpa using filled⟩)
    have shorter : EndsFilled cs := fun other mem => ends other (by
      rwa [List.getLast?_cons_of_ne_nil last])
    rcases ih last shorter single.tail with spaced | ⟨rest, split, spaced⟩
    · cases blank : isBlank c with
      | true =>
        obtain ⟨rfl, -⟩ : c = ' ' ∧ _ := single 0 (Nat.succ_pos _) blank
        exact .inr ⟨cs, rfl, spaced⟩
      | false => exact .inl (spaced.cons_filled blank)
    · cases blank : isBlank c with
      | true =>
        have filled := (single 0 (Nat.succ_pos _) blank).2 ' ' (by simp [split])
        contradiction
      | false =>
        have parts : String.ofList (c :: cs) = String.ofList [c] ++ " " ++ String.ofList rest := by
          rw [split, ← String.toList_inj]
          simp
        have word : IsWord (String.ofList [c]) := ⟨by simp, by simpa using blank⟩
        rw [parts]
        exact .inl (word.isSpaced.append spaced)

/-- **A text with single spaces between others is spaced.** -/
lemma isSpaced_of_singleSpaced {cs : List Char} (nonempty : cs ≠ []) (starts : StartsFilled cs)
    (ends : EndsFilled cs) (single : SingleSpaced cs) : IsSpaced (String.ofList cs) := by
  rcases isSpaced_or_of_singleSpaced nonempty ends single with spaced | ⟨rest, rfl, -⟩
  · exact spaced
  · have filled := startsFilled_cons.mp starts
    contradiction

/-! ## Stretched texts -/

/-- Holds if a line is a text with a run of blanks for each of its single spaces. -/
inductive Stretches : List Char → List Char → Prop
  | nil : Stretches [] []
  | filled {c : Char} {text line : List Char} (isFilled : isBlank c = false)
      (rest : Stretches text line) : Stretches (c :: text) (c :: line)
  | gap {run text line : List Char} (isRun : ∀ c ∈ run, isBlank c = true) (nonempty : run ≠ [])
      (rest : Stretches text line) : Stretches (' ' :: text) (run ++ line)

/-- A text without other blanks than spaces may stay as it is. -/
lemma Stretches.self {text : List Char}
    (spaces : text.all (fun c => !isBlank c || c == ' ') = true) : Stretches text text := by
  induction text with
  | nil => exact .nil
  | cons c text ih =>
    obtain ⟨first, others⟩ := Bool.and_eq_true_iff.mp (List.all_cons.symm.trans spaces)
    cases blank : isBlank c with
    | false => exact .filled blank (ih others)
    | true =>
      obtain rfl : c = ' ' := by simpa [blank] using first
      exact .gap (List.forall_mem_singleton.mpr rfl) (List.cons_ne_nil ' ' []) (ih others)

lemma Stretches.append {text line text' line' : List Char} (h : Stretches text line)
    (h' : Stretches text' line') : Stretches (text ++ text') (line ++ line') := by
  induction h with
  | nil => exact h'
  | filled isFilled _ ih => exact .filled isFilled ih
  | gap isRun nonempty _ ih =>
    rw [List.append_assoc]
    exact .gap isRun nonempty ih

/-- The first pieces agree, as it may be the beginning of a word, and so do the others, but for
empty ones. -/
lemma Stretches.pieces {text line : List Char} (h : Stretches text line) :
    ∃ first others others', text.splitOnP isBlank = first :: others ∧
      line.splitOnP isBlank = first :: others' ∧
      others.filter (!·.isEmpty) = others'.filter (!·.isEmpty) := by
  induction h with
  | nil => exact ⟨[], [], [], rfl, rfl, rfl⟩
  | @filled c text line isFilled _ ih =>
    obtain ⟨first, others, others', cut, cut', same⟩ := ih
    refine ⟨c :: first, others, others', ?_, ?_, same⟩
    · rw [List.splitOnP_cons_eq_if_modifyHead, isFilled, if_neg Bool.false_ne_true, cut,
        List.modifyHead_cons]
    · rw [List.splitOnP_cons_eq_if_modifyHead, isFilled, if_neg Bool.false_ne_true, cut',
        List.modifyHead_cons]
  | @gap run text line isRun nonempty _ ih =>
    obtain ⟨first, others, others', cut, cut', same⟩ := ih
    obtain ⟨c, run, rfl⟩ := List.exists_cons_of_ne_nil nonempty
    obtain ⟨blank, others⟩ := List.forall_mem_cons.mp isRun
    refine ⟨[], text.splitOnP isBlank, (run ++ line).splitOnP isBlank, ?_, ?_, ?_⟩
    · rw [List.splitOnP_cons_eq_if_modifyHead]
      exact if_pos rfl
    · rw [List.cons_append, List.splitOnP_cons_eq_if_modifyHead, if_pos blank]
    · rw [filter_splitOnP_append others, cut, cut', List.filter_cons, List.filter_cons, same]

/-- **To stretch a text** does not change its words. -/
lemma Stretches.words {text line : List Char} (h : Stretches text line) :
    words (String.ofList line) = words (String.ofList text) := by
  obtain ⟨first, others, others', cut, cut', same⟩ := h.pieces
  rw [Text.words, Text.words, String.toList_ofList, String.toList_ofList, cut, cut',
    List.filter_cons, List.filter_cons, same]

end AxiomPinpointing.Text
