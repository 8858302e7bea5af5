import Segmentation.Metrics
import Segmentation.Proofs.Split.Alignment
import Segmentation.Proofs.Text.Words

/-!
# The complexity of joined texts

The branches of two texts that are joined by a newline are those of the one and those of the other:
words and signs end at a newline. Only `else if` may stand on both sides of it. So the estimate is
additive up to its cap, and a run of lines never has a higher one than the text that it is taken
from.
-/

namespace Segmentation.Metrics

open Text

variable {text word left right rest : Text} {character : Char}

/-! ## Runs -/

theorem exists_runs_cons (character : Char) (rest : Text) :
    ∃ run others, runs (character :: rest) = (isWord character, character :: run) :: others := by
  rw [runs]
  split
  · exact ⟨[], [], rfl⟩
  · next kind run others _ =>
      split
      · next same => exact ⟨run, others, by rw [same]⟩
      · exact ⟨[], (kind, run) :: others, rfl⟩

/-- Characters of one kind in front of a character of the other kind are a run. -/
theorem runs_append {kind : Bool} {run : Text} (filled : run ≠ [])
    (each : ∀ character ∈ run, isWord character = kind)
    (ends : ∀ character ∈ rest.head?, isWord character ≠ kind) :
    runs (run ++ rest) = (kind, run) :: runs rest := by
  induction run with
  | nil => exact absurd rfl filled
  | cons first later ih =>
      rw [List.forall_mem_cons] at each
      cases later with
      | nil =>
          cases rest with
          | nil => simp [runs, each.1]
          | cons next others =>
              obtain ⟨run, behind, split⟩ := exists_runs_cons next others
              have differs : ¬isWord first = isWord next := by
                rw [each.1]
                exact fun same => ends next rfl same.symm
              rw [List.singleton_append, runs, split]
              dsimp only
              rw [if_neg differs, each.1]
      | cons second later =>
          rw [List.cons_append, runs, ih (List.cons_ne_nil second later) each.2]
          dsimp only
          rw [if_pos each.1]

theorem runs_word_append (filled : word ≠ []) (each : ∀ character ∈ word, isWord character = true)
    (ends : rest.firstWord = []) : runs (word ++ rest) = (true, word) :: runs rest := by
  refine runs_append filled each fun character first => ?_
  obtain ⟨others, rfl⟩ := List.head?_eq_some_iff.1 first
  rw [isWord_of_firstWord_eq_nil ends]
  exact Bool.false_ne_true

/-! ## Branch words -/

theorem branchWordCount_gap (breaks : isWord character = false) (rest : Text) :
    branchWordCount (runs (character :: rest)) = branchWordCount (runs rest) := by
  rw [runs]
  split
  · next noRuns => simp [branchWordCount, noRuns, breaks]
  · next kind run others split =>
      cases kind <;> simp [branchWordCount, split, breaks]

theorem branchWordCount_word (filled : word ≠ [])
    (each : ∀ character ∈ word, isWord character = true) (ends : rest.firstWord = []) :
    branchWordCount (runs (word ++ rest)) =
      branchWordCount (runs rest) + if word.isOneOf branchWords then 1 else 0 := by
  rw [runs_word_append filled each ends, branchWordCount, branchWordCount, List.countP_cons,
    Bool.true_and]

/-- Branch words stand on one side of a character that is in no word. -/
theorem branchWordCount_append (breaks : isWord character = false) (left right : Text) :
    branchWordCount (runs (left ++ character :: right)) =
      branchWordCount (runs left) + branchWordCount (runs right) := by
  induction left using words_induction with
  | nil =>
      rw [List.nil_append, branchWordCount_gap breaks]
      exact (Nat.zero_add _).symm
  | gap first rest gap ih =>
      rw [List.cons_append, branchWordCount_gap gap, branchWordCount_gap gap, ih]
  | word word rest filled each ends ih =>
      have ends' : firstWord (rest ++ character :: right) = [] := by
        rw [firstWord_append_break breaks, ends]
      rw [List.append_assoc, branchWordCount_word filled each ends',
        branchWordCount_word filled each ends, ih]
      omega

/-! ## Branches of two words -/

theorem elseIfCount_gap (breaks : isWord character = false) (rest : Text) :
    elseIfCount (runs (character :: rest)) = elseIfCount (runs rest) := by
  rw [runs]
  split
  · next noRuns => simp [elseIfCount, noRuns, breaks]
  · next kind run others split =>
      cases kind <;> simp [elseIfCount, split, breaks]

/-- Whether a word and the text behind it begin with a branch of two words. -/
def beginsElseIf (word rest : Text) : Nat :=
  if word = "else".toList ∧ rest.trimStart.firstWord = "if".toList then 1 else 0

/-- What stands between two words is a gap; it is followed by a word or by nothing. -/
theorem exists_gap (text : Text) : ∃ gap next behind, text = gap ++ (next ++ behind) ∧
    (∀ character ∈ gap, isWord character = false) ∧
    (∀ character ∈ next, isWord character = true) ∧ behind.firstWord = [] ∧
    (next = [] → behind = []) := by
  refine ⟨text.takeWhile (!isWord ·), firstWord (text.dropWhile (!isWord ·)),
    (text.dropWhile (!isWord ·)).dropWhile isWord, ?_, ?_, ?_, firstWord_dropWhile _, ?_⟩
  · rw [firstWord, List.takeWhile_append_dropWhile, List.takeWhile_append_dropWhile]
  · intro character member
    simpa using List.mem_takeWhile_imp member
  · exact fun character member => List.mem_takeWhile_imp member
  · intro noWord
    cases behind : text.dropWhile (!isWord ·) with
    | nil => rfl
    | cons first others =>
        have starts := List.head_dropWhile_not (!isWord ·) (l := text) (by rw [behind]; simp)
        simp only [behind, List.head_cons, Bool.not_eq_false'] at starts
        rw [behind] at noWord
        rw [isWord_of_firstWord_eq_nil noWord] at starts
        exact Bool.noConfusion starts

/-- A gap is blank and followed by a word exactly when the word comes first once the gap is
trimmed. -/
theorem firstWord_trimStart_gap {gap next behind : Text}
    (between : ∀ character ∈ gap, isWord character = false) (filled : next ≠ [])
    (each : ∀ character ∈ next, isWord character = true) (ends : behind.firstWord = [])
    {wanted : Text} (notEmpty : wanted ≠ []) :
    (trimStart (gap ++ (next ++ behind))).firstWord = wanted ↔
      gap.all isBlank = true ∧ next = wanted := by
  rw [List.all_eq_true]
  rcases blank_or_solid gap with blank | solid
  · obtain ⟨first, others, rfl⟩ := List.exists_cons_of_ne_nil filled
    have solid : ¬isBlank first = true := fun blank => by
      have starts := each first List.mem_cons_self
      rw [isWord_of_isBlank blank] at starts
      exact Bool.noConfusion starts
    rw [trimStart_append_of_blank blank, List.cons_append, trimStart,
      List.dropWhile_cons_of_neg solid, ← List.cons_append, firstWord_word_append each ends]
    exact ⟨fun same => ⟨blank, same⟩, fun same => same.2⟩
  · refine iff_of_false (fun same => ?_) fun both => ?_
    · obtain ⟨first, others, trimmed⟩ : ∃ first others, gap.trimStart = first :: others := by
        obtain ⟨character, member, inGap⟩ := solid
        refine List.exists_cons_of_ne_nil fun nothingLeft => ?_
        rw [List.dropWhile_eq_nil_iff.1 nothingLeft character member] at inGap
        exact Bool.noConfusion inGap
      have member : first ∈ gap := (List.dropWhile_sublist isBlank).subset
        (show first ∈ gap.trimStart by rw [trimmed]; exact List.mem_cons_self)
      have nothing := firstWord_append_break (between first member) [] (others ++ (next ++ behind))
      rw [trimStart_append_of_solid solid, trimmed] at same
      exact notEmpty (same.symm.trans nothing)
    · obtain ⟨character, member, inGap⟩ := solid
      rw [both.1 character member] at inGap
      exact Bool.noConfusion inGap

theorem beginsElseIf_gap {gap : Text} (between : ∀ character ∈ gap, isWord character = false)
    (word : Text) : beginsElseIf word gap = 0 := by
  have noWord : gap.trimStart.firstWord = [] := firstWord_eq_nil fun character member =>
    between character ((List.dropWhile_sublist isBlank).subset member)
  rw [beginsElseIf, noWord]
  exact if_neg fun both => absurd both.2 (by decide)

theorem elseIfCount_word (filled : word ≠ [])
    (each : ∀ character ∈ word, isWord character = true) (ends : rest.firstWord = []) :
    elseIfCount (runs (word ++ rest)) = beginsElseIf word rest + elseIfCount (runs rest) := by
  rw [runs_word_append filled each ends]
  obtain ⟨gap, next, behind, rfl, between, each', ends', last⟩ := exists_gap rest
  rcases eq_or_ne next [] with rfl | filled'
  · obtain rfl := last rfl
    rw [List.append_nil, List.append_nil, beginsElseIf_gap between, Nat.zero_add]
    rcases eq_or_ne gap [] with rfl | gapFilled
    · rfl
    · have gapRun : runs (gap ++ []) = (false, gap) :: runs [] :=
        runs_append gapFilled between (by simp)
      rw [List.append_nil] at gapRun
      rw [gapRun]
      rfl
  · have gapFilled : gap ≠ [] := by
      rintro rfl
      rw [List.nil_append, firstWord_word_append each' ends'] at ends
      exact filled' ends
    have gapRun : runs (gap ++ (next ++ behind)) = (false, gap) :: (true, next) :: runs behind := by
      rw [runs_append gapFilled between, runs_word_append filled' each' ends']
      intro character first
      obtain ⟨first', others, rfl⟩ := List.exists_cons_of_ne_nil filled'
      obtain rfl := Option.some.inj first
      rw [each' first' List.mem_cons_self]
      exact Bool.noConfusion
    have begins : (trimStart (gap ++ (next ++ behind))).firstWord = "if".toList ↔
        gap.all isBlank = true ∧ next = "if".toList :=
      firstWord_trimStart_gap between filled' each' ends' (by decide)
    rw [gapRun, elseIfCount, beginsElseIf]
    simp only [begins]

/-! ## Joining texts -/

/-- Whether a branch of two words has one of them at the end of a text and the other at the start of
the text behind it. -/
def joinsElseIf (left right : Text) : Nat :=
  if left.trimEnd.lastWord = "else".toList ∧ right.trimStart.firstWord = "if".toList then 1 else 0

theorem lastWord_trimEnd_gap (breaks : isWord character = false) (rest : Text) :
    (trimEnd (character :: rest)).lastWord = rest.trimEnd.lastWord := by
  rcases blank_or_solid rest with blank | solid
  · have nothing : rest.trimEnd = [] := trimEnd_eq_nil_iff.2 blank
    rw [nothing, ← List.singleton_append, trimEnd_append_of_blank blank]
    cases kind : isBlank character <;> simp [trimEnd, lastWord, List.rtakeWhile, kind, breaks]
  · rw [← List.singleton_append, trimEnd_append_of_solid solid, List.singleton_append]
    exact lastWord_append_break breaks [] _

theorem lastWord_trimEnd_word (filled : word ≠ [])
    (each : ∀ character ∈ word, isWord character = true) : word.trimEnd.lastWord = word := by
  have solid : isBlank (word.getLast filled) = false := Bool.eq_false_iff.2 fun blank => by
    have ends := each _ (List.getLast_mem filled)
    rw [isWord_of_isBlank blank] at ends
    exact Bool.noConfusion ends
  have nothing : trimEnd ([] : Text) = [] := rfl
  have kept := trimEnd_append solid word.dropLast []
  rw [nothing, List.dropLast_concat_getLast filled] at kept
  rw [kept]
  exact List.rtakeWhile_eq_self_iff.2 each

/-- Behind the first word of a text, a branch of two words begins with that word or later. -/
theorem joinsElseIf_word (filled : word ≠ [])
    (each : ∀ character ∈ word, isWord character = true) (ends : rest.firstWord = [])
    (breaks : isBlank character = true) (right : Text) :
    beginsElseIf word (rest ++ character :: right) + joinsElseIf rest right =
      beginsElseIf word rest + joinsElseIf (word ++ rest) right := by
  rcases blank_or_solid rest with blank | solid
  · have blank' : ∀ other ∈ rest ++ [character], isBlank other = true :=
      List.forall_mem_append.2 ⟨blank, List.forall_mem_singleton.2 breaks⟩
    have nothing : rest.trimEnd = [] := trimEnd_eq_nil_iff.2 blank
    have begins :=
      beginsElseIf_gap (fun other member => isWord_of_isBlank (blank other member)) word
    have ended : joinsElseIf rest right = 0 := by
      rw [joinsElseIf, nothing]
      exact if_neg fun both => absurd both.1 (by decide)
    rw [begins, ended, beginsElseIf, joinsElseIf, trimEnd_append_of_blank blank,
      lastWord_trimEnd_word filled each, List.append_cons, trimStart_append_of_blank blank',
      Nat.add_zero, Nat.zero_add]
  · have start : (trimStart (rest ++ character :: right)).firstWord = rest.trimStart.firstWord := by
      rw [trimStart_append_of_solid solid, firstWord_append_break (isWord_of_isBlank breaks)]
    have stop : (trimEnd (word ++ rest)).lastWord = rest.trimEnd.lastWord := by
      obtain ⟨gap, whole⟩ := exists_trimEnd rest
      obtain ⟨first, others, trimmed⟩ : ∃ first others, rest.trimEnd = first :: others := by
        obtain ⟨other, member, inRest⟩ := solid
        refine List.exists_cons_of_ne_nil fun nothingLeft => ?_
        rw [trimEnd_eq_nil_iff.1 nothingLeft other member] at inRest
        exact Bool.noConfusion inRest
      rw [whole, trimmed, List.cons_append] at ends
      have outside := isWord_of_firstWord_eq_nil ends
      rw [trimEnd_append_of_solid solid, trimmed, lastWord_append_break outside]
      exact (lastWord_append_break outside [] others).symm
    rw [beginsElseIf, beginsElseIf, joinsElseIf, joinsElseIf, start, stop]

/-- A branch of two words stands on one side of a blank, or around it. -/
theorem elseIfCount_append (breaks : isBlank character = true) (left right : Text) :
    elseIfCount (runs (left ++ character :: right)) =
      elseIfCount (runs left) + elseIfCount (runs right) + joinsElseIf left right := by
  have outside := isWord_of_isBlank breaks
  induction left using words_induction with
  | nil =>
      rw [List.nil_append, elseIfCount_gap outside, joinsElseIf, if_neg fun both =>
        absurd both.1 (by decide)]
      exact (Nat.zero_add _).symm
  | gap first rest gap ih =>
      rw [List.cons_append, elseIfCount_gap gap, elseIfCount_gap gap, ih, joinsElseIf, joinsElseIf,
        lastWord_trimEnd_gap gap]
  | word word rest filled each ends ih =>
      have ends' : firstWord (rest ++ character :: right) = [] := by
        rw [firstWord_append_break outside, ends]
      have joins := joinsElseIf_word filled each ends breaks right
      rw [List.append_assoc, elseIfCount_word filled each ends', elseIfCount_word filled each ends,
        ih]
      omega

/-! ## Signs -/

theorem pairCount_cons {mark : Char} (differs : character ≠ mark) (rest : Text) :
    pairCount mark (character :: rest) = pairCount mark rest := by
  cases rest with
  | nil => rfl
  | cons second others => rw [pairCount, if_neg fun both => differs both.1]

theorem pairCount_append {mark : Char} (differs : character ≠ mark) (left right : Text) :
    pairCount mark (left ++ character :: right) = pairCount mark left + pairCount mark right := by
  induction left using pairCount.induct mark with
  | case1 first second rest both ih =>
      rw [List.cons_append, List.cons_append, pairCount, if_pos both, pairCount, if_pos both, ih]
      omega
  | case2 first second rest single ih =>
      rw [List.cons_append, List.cons_append, pairCount, if_neg single, pairCount, if_neg single,
        ← ih, List.cons_append]
  | case3 left short =>
      rcases left with _ | ⟨first, _ | ⟨second, others⟩⟩
      · rw [List.nil_append, pairCount_cons differs]
        exact (Nat.zero_add _).symm
      · rw [List.singleton_append, pairCount, if_neg fun both => differs both.2,
          pairCount_cons differs]
        exact (Nat.zero_add _).symm
      · exact absurd rfl (short first second others)

/-- The branches of two texts on both sides of a newline. -/
theorem branchCount_append (left right : Text) :
    branchCount (left ++ '\n' :: right) =
      branchCount left + branchCount right + joinsElseIf left right := by
  have words := branchWordCount_append (isWord_of_isBlank (show isBlank '\n' = true by decide)) left
    right
  have pairs := elseIfCount_append (show isBlank '\n' = true by decide) left right
  have ands := pairCount_append (show '\n' ≠ '&' by decide) left right
  have ors := pairCount_append (show '\n' ≠ '|' by decide) left right
  have marks : (left ++ '\n' :: right).count '?' = left.count '?' + right.count '?' := by
    rw [List.count_append, List.count_cons_of_ne (by decide)]
  simp only [branchCount]
  omega

/-! ## Runs of lines -/

theorem branchCount_joinLines_le (before run after : List Text) :
    branchCount (joinLines run) ≤ branchCount (joinLines (before ++ (run ++ after))) := by
  rcases eq_or_ne run [] with rfl | filled
  · exact Nat.zero_le _
  have back : branchCount (joinLines run) ≤ branchCount (joinLines (run ++ after)) := by
    rcases eq_or_ne after [] with rfl | hasAfter
    · rw [List.append_nil]
    · rw [joinLines_append filled hasAfter, branchCount_append]
      omega
  rcases eq_or_ne before [] with rfl | hasBefore
  · exact back
  · have filled' : run ++ after ≠ [] := List.append_ne_nil_of_left_ne_nil filled after
    rw [joinLines_append hasBefore filled', branchCount_append]
    omega

theorem complexity_joinLines_le {run : List Text} (inside : run <:+: text.lines) :
    complexity (joinLines run) ≤ complexity text := by
  obtain ⟨before, after, whole⟩ := inside
  have fewer := branchCount_joinLines_le before run after
  rw [← List.append_assoc, whole, joinLines_lines] at fewer
  simp only [complexity]
  omega

theorem extract_isInfix (lineList : List Text) (first stop : Nat) :
    lineList.extract first stop <:+: lineList := by
  rw [List.extract_eq_take_drop]
  exact (List.take_prefix _ _).isInfix.trans (List.drop_suffix _ _).isInfix

/-- Whether a chunk is small enough or is cut between its lines, no piece has a higher estimate. -/
theorem exists_split_complexity_le (chunk : Chunk) (source : Text) {maxSize overlap : Int}
    (preserveSignatures : Bool) (family : Family) (short : chunk.content.Addressable)
    (first : 0 ≤ chunk.startOffset)
    (slice : chunk.content = source.slice chunk.startOffset chunk.endOffset)
    (fits : ∀ line ∈ chunk.content.lines, (line.length : Int) ≤ maxSize)
    (nonneg : 0 ≤ overlap) (less : overlap < maxSize) :
    ∃ pieces, chunk.split source maxSize overlap preserveSignatures family = .ok pieces ∧
      ∀ piece ∈ pieces, complexity piece.content ≤ complexity chunk.content := by
  rcases lt_or_ge maxSize (chunk.size : Int) with large | small
  · obtain ⟨layout, ranges, -, formed, sameLines, -, plan, made⟩ :=
      chunk.exists_split_lines source preserveSignatures family short fits large nonneg less
    refine ⟨_, made, fun piece member => ?_⟩
    obtain ⟨range, -, run⟩ := exists_of_mem_forall₂
      (Chunk.isRun_pieces _ first slice formed sameLines plan) member
    rw [run.content_eq]
    exact complexity_joinLines_le (extract_isInfix _ _ _)
  · exact ⟨[chunk], if_pos small, List.forall_mem_singleton.2 (Nat.le_refl _)⟩

/-- The estimate of two texts that are joined by a newline is the sum of theirs without the one that
both count, up to the cap, and one more when the first ends with the word `else` and the second
starts with the word `if`, but for blanks. So no run of the lines of a text has a higher estimate
than the text, nor has a piece of a chunk that is cut between its lines. -/
theorem complexity_joined :
    (∀ left right : Text, complexity (left ++ '\n' :: right) =
      min 100 (complexity left + complexity right - 1 +
        if left.trimEnd.lastWord = "else".toList ∧ right.trimStart.firstWord = "if".toList then 1
        else 0)) ∧
    (∀ (text : Text) (run : List Text), run <:+: text.lines →
      complexity (joinLines run) ≤ complexity text) ∧
    ∀ (chunk : Chunk) (source : Text) (maxSize overlap : Int) (preserveSignatures : Bool)
      (family : Family), chunk.content.Addressable → 0 ≤ chunk.startOffset →
      chunk.content = source.slice chunk.startOffset chunk.endOffset →
      (∀ line ∈ chunk.content.lines, (line.length : Int) ≤ maxSize) →
      0 ≤ overlap → overlap < maxSize →
      ∃ pieces, chunk.split source maxSize overlap preserveSignatures family = .ok pieces ∧
        ∀ piece ∈ pieces, complexity piece.content ≤ complexity chunk.content := by
  refine ⟨fun left right => ?_, fun text run => complexity_joinLines_le, ?_⟩
  · have branches := branchCount_append left right
    rw [joinsElseIf] at branches
    simp only [complexity, maxComplexity, branches]
    omega
  · exact fun chunk source maxSize overlap preserveSignatures family =>
      exists_split_complexity_le chunk source preserveSignatures family

/-- Two lines of which the first ends with `else` and the second starts with `if`. -/
def branchingLines : Chunk where
  kind := .other
  name := "text".toList
  startLine := 1
  endLine := 2
  startOffset := 0
  endOffset := 17
  content := "a ? b : c else\nif".toList

/-- Together they have one branch more than apart. -/
theorem complexity_joined_branchingLines :
    complexity "a ? b : c else\n if".toList = min 100 (3 + 2 - 1 + 1) ∧
      ∃ pieces, branchingLines.split "a ? b : c else\nif".toList 14 0 = .ok pieces ∧
        ∀ piece ∈ pieces, complexity piece.content ≤ complexity branchingLines.content := by
  obtain ⟨joined, -, cut⟩ := complexity_joined
  constructor
  · exact (joined "a ? b : c else".toList " if".toList).trans (by decide +kernel)
  · exact cut branchingLines _ 14 0 true .brace (by decide) (by decide) (by decide) (by decide)
      (by decide) (by decide)

end Segmentation.Metrics
