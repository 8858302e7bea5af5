import Mathlib.Data.List.Perm.Subperm
import Segmentation.Proofs.Split.Pieces
import Segmentation.Proofs.Split.Redundancy
import Segmentation.Proofs.Window.Geometry

/-!
# Splitting comes to its end

Cutting a chunk between its lines is a loop over the line at which the next part starts.
`Layout.turn` is one turn of that loop, and `Layout.Turns` is a run of it. Every turn looks up
entries that are there, starts behind the one before it and before the end of the lines, so there
are no more turns than lines. Windows are no more than the characters that the first one leaves.
-/

namespace Segmentation

namespace Split.Layout

variable {layout : Layout} {current : Nat}

/-! ## One turn -/

/-- One turn of the loop: the range from `current` on, when it is kept, and where the next turn
starts, when there is one. -/
def turn (layout : Layout) (current : Nat) :
    Except ChunkFailure (Option (Nat × Nat) × Option Nat) := do
  let rest ← layout.sizeOf current layout.count
  if rest ≤ layout.maxSize then
    return (if 0 < rest then some (current, layout.count) else none, none)
  let limit ← layout.limitFrom current (current + 1)
  let split ← splitPoint layout.lines current (layout.ideal current limit) limit layout.family
  let size ← layout.sizeOf current split.toNat
  return (if 0 < size then some (current, split.toNat) else none,
    some (max (split - layout.overlapLines).toNat (current + 1)))

theorem rangesFrom_eq (layout : Layout) (inside : current ≤ layout.count) :
    layout.rangesFrom current = layout.turn current >>= fun (range, next) =>
      match next with
      | none => .ok range.toList
      | some next => (range.toList ++ ·) <$> layout.rangesFrom next := by
  rw [rangesFrom, if_neg (Nat.not_lt.2 inside), turn]
  simp only [bind_assoc]
  refine bind_congr fun rest => ?_
  split
  · split <;> rfl
  · simp only [bind_assoc]
    refine bind_congr fun limit => bind_congr fun split => bind_congr fun size => ?_
    simp only [pure_bind]
    cases layout.rangesFrom (max (split - layout.overlapLines).toNat (current + 1)) with
    | error failure => rfl
    | ok others => split <;> rfl

/-- The lines from `current` on are too many for one part. -/
def Exceeds (layout : Layout) (current : Nat) : Prop :=
  ∃ rest, layout.sizeOf current layout.count = .ok rest ∧ layout.maxSize < rest

/-- A further turn starts after a cut, behind the line at which this one started. -/
theorem turn_some {range : Option (Nat × Nat)} {next : Nat}
    (made : layout.turn current = .ok (range, some next)) :
    layout.Exceeds current ∧ ∃ limit split, layout.limitFrom current (current + 1) = .ok limit ∧
      splitPoint layout.lines current (layout.ideal current limit) limit layout.family = .ok split ∧
      next = max (split - layout.overlapLines).toNat (current + 1) := by
  obtain ⟨rest, restSize, made⟩ := bind_eq_ok.1 made
  split at made
  · exact absurd (Prod.mk.inj (Except.ok.inj made)).2 (by simp)
  · next overfull =>
      obtain ⟨limit, limitEqual, made⟩ := bind_eq_ok.1 made
      obtain ⟨split, splitEqual, made⟩ := bind_eq_ok.1 made
      obtain ⟨size, -, made⟩ := bind_eq_ok.1 made
      exact ⟨⟨rest, restSize, Int.not_le.1 overfull⟩, limit, split, limitEqual, splitEqual,
        (Option.some.inj (Prod.mk.inj (Except.ok.inj made)).2).symm⟩

/-! ## What a turn looks up -/

/-- An entry that a turn looks up. -/
inductive Access where
  | start (index : Int)
  | line (index : Int)

/-- The entry is there. -/
def Access.InBounds (layout : Layout) : Access → Prop
  | start index => 0 ≤ index ∧ index < layout.starts.size
  | line index => 0 ≤ index ∧ index < layout.lines.length

/-- The limits up to which a part from `current` on is tried to grow. -/
inductive Tries (layout : Layout) (current : Nat) : Nat → Prop where
  | first : Tries layout current (current + 1)
  | further {limit : Nat} {size : Int} (before : Tries layout current limit)
      (inside : limit < layout.count) (measured : layout.sizeOf current (limit + 1) = .ok size)
      (fits : size ≤ layout.maxSize) : Tries layout current (limit + 1)

/-- What the turn that starts at `current` looks up: the starts that measure the rest, those that
measure a part while it grows, the lines around the ideal one, and the start at the cut. -/
inductive Reads (layout : Layout) (current : Nat) : Access → Prop where
  | first : Reads layout current (.start current)
  | last : Reads layout current (.start layout.count)
  | grown {limit : Nat} (exceeds : layout.Exceeds current) (tried : layout.Tries current limit)
      (inside : limit < layout.count) : Reads layout current (.start (limit + 1 : Nat))
  | scored {limit : Nat} {position : Int} (exceeds : layout.Exceeds current)
      (limitEqual : layout.limitFrom current (current + 1) = .ok limit)
      (low : searchFirst current (layout.ideal current limit) ≤ position)
      (high : position ≤ searchLast limit (layout.ideal current limit))
      (inside : position < layout.count) : Reads layout current (.line position)
  | cut {limit : Nat} {split : Int} (exceeds : layout.Exceeds current)
      (limitEqual : layout.limitFrom current (current + 1) = .ok limit)
      (splitEqual : splitPoint layout.lines current (layout.ideal current limit) limit
        layout.family = .ok split) : Reads layout current (.start split)

theorem exists_start {line : Nat} (there : (Access.start line).InBounds layout) :
    ∃ start, layout.starts[line]? = some start := by
  have inside : line < layout.starts.size := by exact_mod_cast there.2
  exact ⟨_, Array.getElem?_eq_getElem inside⟩

theorem exists_sizeOf {first stop : Nat} (there : (Access.start first).InBounds layout)
    (there' : (Access.start stop).InBounds layout) :
    ∃ size, layout.sizeOf first stop = .ok size := by
  obtain ⟨start, found⟩ := exists_start there
  obtain ⟨after, found'⟩ := exists_start there'
  exact ⟨_, sizeOf_eq_ok.2 ⟨start, after, found, found', rfl⟩⟩

theorem exists_limitFrom {limit : Nat} (tried : layout.Tries current limit)
    (measurable : ∀ limit, layout.Tries current limit → limit < layout.count →
      ∃ size, layout.sizeOf current (limit + 1) = .ok size) :
    ∃ furthest, layout.limitFrom current limit = .ok furthest := by
  fun_induction limitFrom layout current limit with
  | case1 limit inside ih =>
      obtain ⟨size, measured⟩ := measurable limit tried inside
      rw [measured]
      by_cases fits : size ≤ layout.maxSize
      · obtain ⟨furthest, equal⟩ := ih size (.further tried inside measured fits)
        exact ⟨furthest, by simpa [bind, Except.bind, fits] using equal⟩
      · exact ⟨limit, by simp [bind, Except.bind, fits, pure, Except.pure]⟩
  | case2 limit outside => exact ⟨limit, rfl⟩

theorem exists_bestFrom {lines : List Text} {family : Family} {position best : Int}
    {bestScore : Option Nat} {count : Nat}
    (scored : ∀ other, position ≤ other → other < position + count →
      ∃ score, scoreAt lines family other = .ok score) :
    ∃ result, bestFrom lines family position best bestScore count = .ok result := by
  induction count generalizing position best bestScore with
  | zero => exact ⟨best, rfl⟩
  | succ count ih =>
      obtain ⟨score, here⟩ := scored position (Int.le_refl _) (by omega)
      have later : ∀ best bestScore, ∃ result,
          bestFrom lines family (position + 1) best bestScore count = .ok result :=
        fun best bestScore => ih fun other behind before => scored other (by omega) (by omega)
      simp only [bestFrom, here, bind, Except.bind]
      split
      · exact later position (some score)
      · exact later best bestScore

theorem exists_scoreAt {position : Int}
    (there : position < layout.count → (Access.line position).InBounds layout) :
    ∃ score, scoreAt layout.lines layout.family position = .ok score := by
  unfold scoreAt
  split
  · exact ⟨10, rfl⟩
  · next before =>
      have nonneg := (there (Int.not_le.1 before)).1
      exact ⟨_, by rw [if_neg (Int.not_lt.2 nonneg), if_neg (Int.not_lt.2 nonneg)]⟩

/-- A turn fails only for an entry that is not there: what it looks up is all that it needs. -/
theorem exists_turn (there : ∀ access, layout.Reads current access → access.InBounds layout) :
    ∃ result, layout.turn current = .ok result := by
  have here := there _ .first
  obtain ⟨rest, restSize⟩ := exists_sizeOf here (there _ .last)
  by_cases fits : rest ≤ layout.maxSize
  · rw [turn, restSize]
    simp only [bind, Except.bind, if_pos fits]
    exact ⟨_, rfl⟩
  have exceeds : layout.Exceeds current := ⟨rest, restSize, Int.not_le.1 fits⟩
  obtain ⟨limit, limitEqual⟩ := exists_limitFrom .first fun limit tried inside =>
    exists_sizeOf here (there _ (.grown exceeds tried inside))
  obtain ⟨split, splitEqual⟩ : ∃ split, splitPoint layout.lines current
      (layout.ideal current limit) limit layout.family = .ok split := by
    rw [splitPoint_eq]
    exact exists_bestFrom fun position low high => exists_scoreAt fun inside =>
      there _ (.scored exceeds limitEqual low (by omega) inside)
  have atCut := there _ (.cut exceeds limitEqual splitEqual)
  obtain ⟨size, partSize⟩ : ∃ size, layout.sizeOf current split.toNat = .ok size :=
    exists_sizeOf here (by rwa [Int.toNat_of_nonneg atCut.1])
  rw [turn, restSize]
  simp only [bind, Except.bind, if_neg fits, limitEqual, splitEqual, partSize]
  exact ⟨_, rfl⟩

namespace WellFormed

theorem size_starts (formed : layout.WellFormed) : layout.starts.size = layout.count + 1 := by
  rw [formed.starts_eq, List.size_toArray, lineStarts, length_lineStartsFrom]

theorem start_inBounds (formed : layout.WellFormed) {line : Nat} (inside : line ≤ layout.count) :
    (Access.start line).InBounds layout := by
  have size := formed.size_starts
  exact ⟨by omega, by omega⟩

theorem cut_of_exceeds (formed : layout.WellFormed) (inside : current < layout.count)
    (exceeds : layout.Exceeds current) {limit : Nat}
    (limitEqual : layout.limitFrom current (current + 1) = .ok limit) :
    ∃ split : Nat, splitPoint layout.lines current (layout.ideal current limit) limit
      layout.family = .ok (split : Int) ∧ layout.Cut current limit split := by
  obtain ⟨rest, restSize, overfull⟩ := exceeds
  rw [formed.sizeOf_eq (Nat.le_of_lt inside) (Nat.le_refl _)] at restSize
  rw [← Except.ok.inj restSize] at overfull
  obtain ⟨limit', split, limitEqual', splitEqual, cut⟩ := formed.exists_cut inside overfull
  obtain rfl := Except.ok.inj (limitEqual'.symm.trans limitEqual)
  exact ⟨split, splitEqual, cut⟩

/-- Whatever a turn looks up is there. -/
theorem reads_inBounds (formed : layout.WellFormed) (inside : current < layout.count)
    (access : Access) (read : layout.Reads current access) : access.InBounds layout := by
  cases read with
  | first => exact formed.start_inBounds (Nat.le_of_lt inside)
  | last => exact formed.start_inBounds (Nat.le_refl _)
  | grown _ _ below => exact formed.start_inBounds below
  | scored _ _ low _ below =>
      simp only [searchFirst] at low
      exact ⟨by omega, below⟩
  | cut exceeds limitEqual splitEqual =>
      obtain ⟨split', splitEqual', cut⟩ := formed.cut_of_exceeds inside exceeds limitEqual
      obtain rfl := Except.ok.inj (splitEqual'.symm.trans splitEqual)
      exact formed.start_inBounds (Nat.le_of_lt cut.split_lt)

theorem turn_forward (formed : layout.WellFormed) (inside : current < layout.count)
    {range : Option (Nat × Nat)} {next : Nat}
    (made : layout.turn current = .ok (range, some next)) :
    current < next ∧ next < layout.count := by
  obtain ⟨exceeds, limit, split, limitEqual, splitEqual, rfl⟩ := turn_some made
  obtain ⟨split', splitEqual', cut⟩ := formed.cut_of_exceeds inside exceeds limitEqual
  obtain rfl := Except.ok.inj (splitEqual'.symm.trans splitEqual)
  exact ⟨current_lt_next layout current split',
    Nat.lt_of_le_of_lt (formed.next_le cut) cut.split_lt⟩

end WellFormed

/-! ## A run -/

/-- A run of the loop from a line on: the lines at which its turns start, and the ranges that they
keep. -/
inductive Turns (layout : Layout) : Nat → List Nat → List (Nat × Nat) → Prop where
  | last {current : Nat} {range : Option (Nat × Nat)}
      (made : layout.turn current = .ok (range, none)) :
      Turns layout current [current] range.toList
  | further {current next : Nat} {range : Option (Nat × Nat)} {cursors : List Nat}
      {ranges : List (Nat × Nat)} (made : layout.turn current = .ok (range, some next))
      (rest : Turns layout next cursors ranges) :
      Turns layout current (current :: cursors) (range.toList ++ ranges)

variable {cursors : List Nat} {ranges : List (Nat × Nat)}

/-- What a run that stays among the lines keeps is what is computed. -/
theorem Turns.rangesFrom_eq (turns : layout.Turns current cursors ranges)
    (inside : ∀ cursor ∈ cursors, cursor < layout.count) :
    layout.rangesFrom current = .ok ranges := by
  induction turns with
  | last made =>
      rw [Layout.rangesFrom_eq layout (Nat.le_of_lt (inside _ List.mem_cons_self)), made]
      rfl
  | further made rest ih =>
      rw [List.forall_mem_cons] at inside
      rw [Layout.rangesFrom_eq layout (Nat.le_of_lt inside.1), made]
      simp only [bind, Except.bind, ih inside.2]
      rfl

/-- From every line there is a run. Each of its turns starts behind the one before it, and none
behind the last line. -/
theorem WellFormed.exists_turns (formed : layout.WellFormed) (inside : current < layout.count) :
    ∃ cursors ranges, layout.Turns current cursors ranges ∧ cursors.Pairwise (· < ·) ∧
      ∀ cursor ∈ cursors, current ≤ cursor ∧ cursor < layout.count := by
  -- on the lines that are left: a further turn starts behind this one
  induction remaining : layout.count - current using Nat.strongRecOn generalizing current with
  | ind remaining ih =>
      obtain ⟨⟨range, next⟩, made⟩ := exists_turn (formed.reads_inBounds inside)
      cases next with
      | none =>
          exact ⟨_, _, .last made, List.pairwise_singleton _ _,
            List.forall_mem_singleton.2 ⟨Nat.le_refl _, inside⟩⟩
      | some next =>
          obtain ⟨forward, within⟩ := formed.turn_forward inside made
          obtain ⟨cursors, ranges, rest, increase, bounds⟩ := ih _ (by omega) within rfl
          refine ⟨_, _, .further made rest, List.pairwise_cons.2 ⟨?_, increase⟩,
            List.forall_mem_cons.2 ⟨⟨Nat.le_refl _, inside⟩, ?_⟩⟩
          · exact fun cursor member => Nat.lt_of_lt_of_le forward (bounds cursor member).1
          · intro cursor member
            obtain ⟨behind, before⟩ := bounds cursor member
            exact ⟨by omega, before⟩

/-- A run over all lines: its turns go forward, stay among the lines and look up only what is
there. -/
structure Completes (layout : Layout) (cursors : List Nat) (ranges : List (Nat × Nat)) :
    Prop where
  turns : layout.Turns 0 cursors ranges
  planned : layout.rangesFrom 0 = .ok ranges
  increase : cursors.Pairwise (· < ·)
  inside : ∀ cursor ∈ cursors, cursor < layout.count
  few : cursors.length ≤ layout.count
  inBounds : ∀ cursor ∈ cursors, ∀ access, layout.Reads cursor access → access.InBounds layout
  placed : ∀ range ∈ ranges, (Access.start range.1).InBounds layout ∧
    (Access.start range.2).InBounds layout

theorem Plan.rangesFrom_eq (plan : layout.Plan current ranges) (formed : layout.WellFormed)
    (inside : current ≤ layout.count) : layout.rangesFrom current = .ok ranges := by
  induction plan with
  | rest fits => exact formed.rangesFrom_rest inside fits
  | cut made further ih =>
      have below := Nat.lt_trans made.current_lt made.split_lt
      obtain ⟨limit, split, limitEqual, splitEqual, made'⟩ := formed.exists_cut below made.overfull
      obtain ⟨rfl, rfl⟩ := made.unique made'
      exact formed.rangesFrom_cut limitEqual splitEqual made
        (ih (Nat.le_trans (formed.next_le made) (Nat.le_of_lt made.split_lt)))

theorem Plan.exists_completes (plan : layout.Plan 0 ranges) (formed : layout.WellFormed) :
    ∃ cursors, layout.Completes cursors ranges := by
  obtain ⟨cursors, ranges', turns, increase, bounds⟩ :=
    formed.exists_turns (List.length_pos_iff.2 formed.lines_ne_nil)
  have inside : ∀ cursor ∈ cursors, cursor < layout.count :=
    fun cursor member => (bounds cursor member).2
  have planned := turns.rangesFrom_eq inside
  obtain rfl := Except.ok.inj (planned.symm.trans (plan.rangesFrom_eq formed (Nat.zero_le _)))
  refine ⟨cursors, turns, planned, increase, inside, ?few, ?inBounds, ?placed⟩
  case few =>
    have distinct : cursors.Nodup := increase.imp Nat.ne_of_lt
    have among := distinct.subperm fun cursor member => List.mem_range.2 (inside cursor member)
    simpa using among.length_le
  case inBounds => exact fun cursor member => formed.reads_inBounds (inside cursor member)
  case placed =>
    intro range member
    obtain ⟨first, stop⟩ := plan.inside range member
    exact ⟨formed.start_inBounds first, formed.start_inBounds stop⟩

end Split.Layout

namespace Chunk

variable {chunk : Chunk} {source : Text} {maxSize overlap : Int}

/-- There is no more than one window for each character that the first one leaves, and the first. -/
theorem length_windows_le (large : maxSize < chunk.size) :
    (chunk.windows source maxSize overlap).length ≤
      (chunk.endOffset - chunk.startOffset - maxSize).toNat + 1 := by
  rcases Nat.lt_or_ge (chunk.windows source maxSize overlap).length 2 with few | more
  · omega
  · obtain ⟨others, count⟩ := Nat.exists_eq_add_of_le' more
    have before := (succ_lt_length_windows_iff source overlap false large others).1 (by omega)
    have forward := Window.step_pos maxSize overlap
    have : (others : Int) ≤ others * Window.step maxSize overlap :=
      le_mul_of_one_le_right (by omega) (by exact_mod_cast forward)
    omega

/-- How the splitting of a chunk comes to its end. -/
inductive SplitEnds (chunk : Chunk) (source : Text) (maxSize overlap : Int)
    (preserveSignatures : Bool) (family : Family) : List Chunk → Prop where
  | whole (small : chunk.size ≤ maxSize) :
      SplitEnds chunk source maxSize overlap preserveSignatures family [chunk]
  | windows (tooLong : ∃ line ∈ chunk.content.lines, maxSize < (line.length : Int))
      (few : (chunk.windows source maxSize overlap).length ≤
        (chunk.endOffset - chunk.startOffset - maxSize).toNat + 1) :
      SplitEnds chunk source maxSize overlap preserveSignatures family
        (chunk.windows source maxSize overlap)
  | lines {layout : Split.Layout} {cursors : List Nat} {ranges : List (Nat × Nat)}
      (divisor : (Split.averageLine chunk.content).isZero = false)
      (layoutOf : Split.Layout.ofContent chunk.content maxSize overlap family = .ok layout)
      (completes : layout.Completes cursors ranges) :
      SplitEnds chunk source maxSize overlap preserveSignatures family
        (Split.pieces chunk source layout.starts
          (if preserveSignatures then Split.heading chunk.signature family else []) ranges)

/-- Splitting comes to its end whenever the divisions that are made stay within double precision. -/
theorem split_ends (chunk : Chunk) (source : Text) (preserveSignatures : Bool) (family : Family)
    (nonneg : 0 ≤ overlap)
    (isFinite : maxSize < chunk.size →
      (∀ line ∈ chunk.content.lines, (line.length : Int) ≤ maxSize) →
        Split.DivisionsFinite chunk.content maxSize overlap) :
    ∃ pieces, chunk.split source maxSize overlap preserveSignatures family = .ok pieces ∧
      chunk.SplitEnds source maxSize overlap preserveSignatures family pieces := by
  obtain ⟨pieces, equal, into⟩ :=
    exists_split_of_finite chunk source preserveSignatures family nonneg isFinite
  refine ⟨pieces, equal, ?_⟩
  cases into with
  | whole small => exact .whole small
  | windows large tooLong => exact .windows tooLong (length_windows_le large)
  | lines large layoutOf formed sameLines sameSize plan =>
      have filled : chunk.content ≠ [] :=
        content_ne_nil large (sameLines ▸ sameSize ▸ formed.lines_fit)
      obtain ⟨cursors, completes⟩ := plan.exists_completes formed
      exact .lines (Split.isZero_averageLine filled) layoutOf completes

/-- Two newlines and nothing else. -/
def emptyLines : Chunk where
  kind := .other
  name := "gap".toList
  startLine := 1
  endLine := 3
  startOffset := 0
  endOffset := 2
  content := "\n\n".toList

/-- Parts that may hold nothing, and that step back over more lines than there are. -/
theorem split_ends_emptyLines :
    ∃ pieces, emptyLines.split "\n\n".toList 0 5 = .ok pieces ∧
      emptyLines.SplitEnds "\n\n".toList 0 5 true .brace pieces :=
  split_ends emptyLines _ true .brace (by decide) fun _ _ =>
    ⟨by decide +kernel, by decide +kernel, by decide +kernel⟩

end Chunk

end Segmentation
