import Segmentation.Proofs.Outcome
import Segmentation.Proofs.Text.Lines
import Segmentation.Split

/-!
# Where a part is cut

One step of cutting a chunk measures how far a part may reach, and looks for the earliest of the
best lines in a window around the ideal one. `Layout.Cut` says what such a step comes to, without
the loops that find it; everything about the parts of a chunk is derived from that.
-/

namespace Segmentation.Split

/-! ## The earliest best position -/

/-- The score of a position that does not lie before the first line. -/
def positionScore (lines : List Text) (family : Family) (position : Int) : Nat :=
  if (lines.length : Int) ≤ position then 10 else score (lines.getD position.toNat []) family

/-- A position of a range with the greatest value, and the earliest of those. -/
structure IsFirstBest (value : Int → Nat) (first last best : Int) : Prop where
  first_le : first ≤ best
  le_last : best ≤ last
  greatest : ∀ position, first ≤ position → position ≤ last → value position ≤ value best
  earliest : ∀ position, first ≤ position → position < best → value position < value best

theorem IsFirstBest.unique {value : Int → Nat} {first last left right : Int}
    (leftBest : IsFirstBest value first last left)
    (rightBest : IsFirstBest value first last right) : left = right := by
  rcases Int.lt_trichotomy left right with before | same | after
  · have strict := rightBest.earliest left leftBest.first_le before
    have weak := leftBest.greatest right rightBest.first_le rightBest.le_last
    omega
  · exact same
  · have strict := leftBest.earliest right rightBest.first_le after
    have weak := rightBest.greatest left leftBest.first_le leftBest.le_last
    omega

theorem IsFirstBest.extend_better {value : Int → Nat} {first position best : Int}
    (soFar : IsFirstBest value first (position - 1) best) (better : value best < value position) :
    IsFirstBest value first position position := by
  have low := soFar.first_le
  have high := soFar.le_last
  refine ⟨by omega, Int.le_refl _, ?_, ?_⟩
  · intro other above upTo
    by_cases same : other = position
    · exact Nat.le_of_eq (congrArg value same)
    · exact Nat.le_trans (soFar.greatest other above (by omega)) (Nat.le_of_lt better)
  · intro other above before
    exact Nat.lt_of_le_of_lt (soFar.greatest other above (by omega)) better

theorem IsFirstBest.extend_worse {value : Int → Nat} {first position best : Int}
    (soFar : IsFirstBest value first (position - 1) best)
    (notBetter : ¬value best < value position) : IsFirstBest value first position best := by
  have high := soFar.le_last
  refine ⟨soFar.first_le, by omega, ?_, soFar.earliest⟩
  intro other above upTo
  by_cases same : other = position
  · rw [same]
    exact Nat.not_lt.1 notBetter
  · exact soFar.greatest other above (by omega)

theorem scoreAt_eq (lines : List Text) (family : Family) {position : Int}
    (nonneg : 0 ≤ position) :
    scoreAt lines family position = .ok (positionScore lines family position) := by
  have notBefore : ¬position < 0 := by omega
  unfold scoreAt positionScore
  split
  · rfl
  · simp [notBefore]

theorem bestFrom_some (lines : List Text) (family : Family) {first position best : Int}
    (nonneg : 0 ≤ position)
    (soFar : IsFirstBest (positionScore lines family) first (position - 1) best) (count : Nat) :
    ∃ result, bestFrom lines family position best (some (positionScore lines family best)) count =
        .ok result ∧
      IsFirstBest (positionScore lines family) first (position + count - 1) result := by
  induction count generalizing position best with
  | zero => exact ⟨best, rfl, by simpa using soFar⟩
  | succ count ih =>
      have next : position + 1 - 1 = position := by omega
      have last : position + 1 + (count : Int) - 1 = position + ((count + 1 : Nat) : Int) - 1 := by
        omega
      simp only [bestFrom, scoreAt_eq lines family nonneg, bind, Except.bind, Option.all_some,
        decide_eq_true_eq]
      rw [← last]
      by_cases better : positionScore lines family best < positionScore lines family position
      · rw [if_pos better]
        exact ih (by omega) (next.symm ▸ soFar.extend_better better)
      · rw [if_neg better]
        exact ih (by omega) (next.symm ▸ soFar.extend_worse better)

/-- The first position beats having none, so a search over at least one position has a best. -/
theorem bestFrom_none (lines : List Text) (family : Family) {first : Int} (nonneg : 0 ≤ first)
    (fallback : Int) (count : Nat) :
    ∃ result, bestFrom lines family first fallback none (count + 1) = .ok result ∧
      IsFirstBest (positionScore lines family) first (first + count) result := by
  have single : IsFirstBest (positionScore lines family) first (first + 1 - 1) first := by
    refine ⟨by omega, by omega, fun other above upTo => ?_, fun other above before => by omega⟩
    exact Nat.le_of_eq (congrArg _ (show other = first by omega))
  obtain ⟨result, equal, found⟩ :=
    bestFrom_some lines family (show 0 ≤ first + 1 by omega) single count
  refine ⟨result, ?_, ?_⟩
  · simpa [bestFrom, scoreAt_eq lines family nonneg, bind, Except.bind] using equal
  · rwa [show first + 1 + (count : Int) - 1 = first + count by omega] at found

/-- The first line that a search around `ideal` looks at: one of the ten before it, but behind
`current`. -/
def searchFirst (current ideal : Int) : Int :=
  max (current + 1) (ideal - 10)

/-- The last line that a search around `ideal` looks at: one of the ten behind it, but not behind
`limit`. -/
def searchLast (limit ideal : Int) : Int :=
  min limit (ideal + 10)

theorem splitPoint_eq (lines : List Text) (family : Family) (current ideal limit : Int) :
    splitPoint lines current ideal limit family =
      bestFrom lines family (searchFirst current ideal) (min (max ideal (current + 1)) limit) none
        (searchLast limit ideal + 1 - searchFirst current ideal).toNat := rfl

/-- A search with at least one position finds the earliest of the best ones. -/
theorem splitPoint_isFirstBest (lines : List Text) (family : Family) {current ideal limit : Int}
    (nonneg : 0 ≤ current) (nonempty : searchFirst current ideal ≤ searchLast limit ideal) :
    ∃ split, splitPoint lines current ideal limit family = .ok split ∧
      IsFirstBest (positionScore lines family) (searchFirst current ideal)
        (searchLast limit ideal) split := by
  obtain ⟨count, counted⟩ :
      ∃ count : Nat, searchFirst current ideal + count = searchLast limit ideal :=
    ⟨(searchLast limit ideal - searchFirst current ideal).toNat, by omega⟩
  have first_nonneg : 0 ≤ searchFirst current ideal := by
    simp only [searchFirst]; omega
  obtain ⟨split, equal, found⟩ := bestFrom_none lines family first_nonneg
    (min (max ideal (current + 1)) limit) count
  refine ⟨split, ?_, by rwa [counted] at found⟩
  have steps : (searchLast limit ideal + 1 - searchFirst current ideal).toNat = count + 1 := by
    omega
  rw [splitPoint_eq, steps]
  exact equal

/-! ## Measuring lines -/

namespace Layout

/-- What the cutting of a chunk between its lines relies on: the starts are those of the lines, no
line is longer than a part may be, parts aim at some lines and never step forward. -/
structure WellFormed (layout : Layout) : Prop where
  starts_eq : layout.starts = (lineStarts layout.lines).toArray
  lines_ne_nil : layout.lines ≠ []
  lines_fit : ∀ line ∈ layout.lines, (line.length : Int) ≤ layout.maxSize
  linesPerPart_pos : 1 ≤ layout.linesPerPart
  overlapLines_nonneg : 0 ≤ layout.overlapLines

/-- The size of the lines from `first` up to, and without, `stop`, joined by newlines. -/
def span (layout : Layout) (first stop : Nat) : Int :=
  (Text.lineOffset layout.lines stop : Int) - Text.lineOffset layout.lines first - 1

/-- The number of lines, which is also where the last part stops. -/
abbrev count (layout : Layout) : Nat :=
  layout.lines.length

/-- The line at which a part would ideally stop. -/
def ideal (layout : Layout) (current limit : Nat) : Int :=
  min ((current : Int) + layout.linesPerPart) limit

/-- The line at which the next part starts after a part that stops at `split`. -/
def next (layout : Layout) (current split : Nat) : Nat :=
  max (split - layout.overlapLines).toNat (current + 1)

/-- A part that starts at `current` may reach up to `limit` and no further, and some lines are left
behind it. -/
structure Furthest (layout : Layout) (current limit : Nat) : Prop where
  current_lt_limit : current < limit
  limit_lt : limit < layout.count
  fits : layout.span current limit ≤ layout.maxSize
  full : layout.maxSize < layout.span current (limit + 1)

/-- What one cut comes to: a part that starts at `current` and may reach up to `limit` stops at the
earliest of the best lines in the window around the ideal one. -/
structure Cut (layout : Layout) (current limit split : Nat) : Prop
    extends Furthest layout current limit where
  best : IsFirstBest (positionScore layout.lines layout.family)
    (searchFirst current (layout.ideal current limit))
    (searchLast limit (layout.ideal current limit)) split

variable {layout : Layout}

theorem span_le_span {first first' stop stop' : Nat} (earlier : first' ≤ first)
    (later : stop ≤ stop') : layout.span first stop ≤ layout.span first' stop' := by
  have low := Text.lineOffset_le layout.lines earlier
  have high := Text.lineOffset_le layout.lines later
  simp only [span]
  omega

theorem lt_of_span_pos {first stop : Nat} (filled : 0 < layout.span first stop) :
    first < stop := by
  rcases Nat.lt_or_ge first stop with before | behind
  · exact before
  · have := Text.lineOffset_le layout.lines behind
    simp only [span] at filled
    omega

theorem span_succ {index : Nat} (inside : index < layout.lines.length) :
    layout.span index (index + 1) = layout.lines[index].length := by
  have step := Text.lineOffset_succ layout.lines index inside
  simp only [span, step]
  omega

/-- Lines that hold no text together are a single one: between two lines stands a newline. -/
theorem eq_succ_of_span {first stop : Nat} (before : first < stop) (inside : stop ≤ layout.count)
    (empty : ¬0 < layout.span first stop) : stop = first + 1 := by
  rcases Nat.eq_or_lt_of_le before with same | further
  · exact same.symm
  · have low := Text.lineOffset_lt (Nat.lt_succ_self first) (Nat.le_trans before inside)
    have high := Text.lineOffset_lt further inside
    simp only [span] at empty
    omega

namespace Cut

variable {current limit split : Nat}

theorem current_lt (cut : layout.Cut current limit split) : current < split := by
  have := cut.best.first_le
  simp only [searchFirst] at this
  omega

theorem split_le (cut : layout.Cut current limit split) : split ≤ limit := by
  have := cut.best.le_last
  simp only [searchLast] at this
  omega

theorem split_lt (cut : layout.Cut current limit split) : split < layout.count :=
  Nat.lt_of_le_of_lt cut.split_le cut.limit_lt

/-- Where there is a cut, the rest of the lines does not fit into one part. -/
theorem overfull (cut : layout.Cut current limit split) :
    layout.maxSize < layout.span current layout.count := by
  exact Int.lt_of_lt_of_le cut.full (span_le_span (Nat.le_refl _) cut.limit_lt)

theorem split_eq_succ (cut : layout.Cut current limit split)
    (empty : ¬0 < layout.span current split) : split = current + 1 :=
  eq_succ_of_span cut.current_lt (Nat.le_of_lt cut.split_lt) empty

end Cut

/-! ## One step of the plan -/

theorem startOf_eq_ok {line start : Nat} :
    layout.startOf line = .ok start ↔ layout.starts[line]? = some start := by
  unfold startOf
  split
  · next found => rw [found, Except.ok.injEq, Option.some.injEq]
  · next absent => simp [absent]

theorem sizeOf_eq_ok {first stop : Nat} {size : Int} :
    layout.sizeOf first stop = .ok size ↔ ∃ start after : Nat,
      layout.starts[first]? = some start ∧ layout.starts[stop]? = some after ∧
        (after : Int) - start - 1 = size := by
  constructor
  · intro measured
    obtain ⟨start, found, measured⟩ := bind_eq_ok.1 measured
    obtain ⟨after, found', measured⟩ := bind_eq_ok.1 measured
    exact ⟨start, after, startOf_eq_ok.1 found, startOf_eq_ok.1 found', Except.ok.inj measured⟩
  · rintro ⟨start, after, found, found', rfl⟩
    exact bind_eq_ok.2 ⟨start, startOf_eq_ok.2 found, bind_eq_ok.2
      ⟨after, startOf_eq_ok.2 found', rfl⟩⟩

namespace WellFormed

theorem getElem?_starts (formed : layout.WellFormed) {line : Nat} (inside : line ≤ layout.count) :
    layout.starts[line]? = some (Text.lineOffset layout.lines line) := by
  rw [formed.starts_eq]
  exact getElem?_lineStarts layout.lines line inside

theorem sizeOf_eq (formed : layout.WellFormed) {first stop : Nat}
    (firstInside : first ≤ layout.count) (stopInside : stop ≤ layout.count) :
    layout.sizeOf first stop = .ok (layout.span first stop) := by
  exact sizeOf_eq_ok.2 ⟨_, _, formed.getElem?_starts firstInside,
    formed.getElem?_starts stopInside, rfl⟩

theorem maxSize_nonneg (formed : layout.WellFormed) : 0 ≤ layout.maxSize := by
  obtain ⟨line, others, equal⟩ := List.exists_cons_of_ne_nil formed.lines_ne_nil
  have := formed.lines_fit line (by simp [equal])
  omega

theorem span_succ_le (formed : layout.WellFormed) {index : Nat} (inside : index < layout.count) :
    layout.span index (index + 1) ≤ layout.maxSize := by
  rw [span_succ inside]
  exact formed.lines_fit _ (List.getElem_mem inside)

/-- Growing a part that fits stops at the last line at which it still fits. -/
theorem limitFrom_bounds (formed : layout.WellFormed) {current limit : Nat}
    (ordered : current ≤ layout.count) (inside : limit ≤ layout.count)
    (fits : layout.span current limit ≤ layout.maxSize) :
    ∃ furthest, layout.limitFrom current limit = .ok furthest ∧ limit ≤ furthest ∧
      furthest ≤ layout.count ∧ layout.span current furthest ≤ layout.maxSize ∧
      (furthest < layout.count → layout.maxSize < layout.span current (furthest + 1)) := by
  induction remaining : layout.count - limit generalizing limit with
  | zero =>
      have last : ¬limit < layout.lines.length := by
        have : layout.count = layout.lines.length := rfl
        omega
      refine ⟨limit, ?_, Nat.le_refl _, inside, fits, fun below => absurd below last⟩
      rw [limitFrom, if_neg last]
      rfl
  | succ remaining' ih =>
      have below : limit < layout.count := by omega
      have size := formed.sizeOf_eq ordered (show limit + 1 ≤ layout.count from below)
      by_cases grows : layout.span current (limit + 1) ≤ layout.maxSize
      · obtain ⟨furthest, equal, low, high, within, full⟩ := ih below grows (by omega)
        refine ⟨furthest, ?_, by omega, high, within, full⟩
        rw [limitFrom, if_pos below, size]
        simpa [bind, Except.bind, grows] using equal
      · refine ⟨limit, ?_, Nat.le_refl _, inside, fits, fun _ => by omega⟩
        rw [limitFrom, if_pos below, size]
        simp [bind, Except.bind, grows, pure, Except.pure]

/-- When the rest does not fit into one part, the two searches of a step find a cut. -/
theorem exists_cut (formed : layout.WellFormed) {current : Nat} (inside : current < layout.count)
    (overfull : layout.maxSize < layout.span current layout.count) :
    ∃ limit split : Nat, layout.limitFrom current (current + 1) = .ok limit ∧
      splitPoint layout.lines current (layout.ideal current limit) limit layout.family =
        .ok (split : Int) ∧
      layout.Cut current limit split := by
  obtain ⟨limit, limitEqual, low, high, fits, full⟩ :=
    formed.limitFrom_bounds (Nat.le_of_lt inside) inside (formed.span_succ_le inside)
  have limit_lt : limit < layout.count := by
    rcases Nat.eq_or_lt_of_le high with last | inner
    · rw [last] at fits
      omega
    · exact inner
  have aim := formed.linesPerPart_pos
  have nonempty : searchFirst current (layout.ideal current limit) ≤
      searchLast limit (layout.ideal current limit) := by
    simp only [searchFirst, searchLast, ideal]
    omega
  obtain ⟨split, splitEqual, best⟩ :=
    splitPoint_isFirstBest layout.lines layout.family (by omega) nonempty
  have split_nonneg : 0 ≤ split := by
    have := best.first_le
    simp only [searchFirst] at this
    omega
  have cast : ((split.toNat : Nat) : Int) = split := Int.toNat_of_nonneg split_nonneg
  exact ⟨limit, split.toNat, limitEqual, by rw [cast]; exact splitEqual,
    ⟨by omega, limit_lt, fits, full limit_lt⟩, by rw [cast]; exact best⟩

end WellFormed

end Layout

end Segmentation.Split
