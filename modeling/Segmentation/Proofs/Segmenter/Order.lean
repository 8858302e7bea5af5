import Segmentation.Proofs.Declarations.Order
import Segmentation.Proofs.Segmenter.Bounds

/-!
# The order of records

Declarations are found in the order in which they start, and each is cut into pieces in its place.
Pieces of disjoint declarations stay in order. A declaration that holds another one is cut before
the inner one has its turn, so its later pieces may come before the inner one and start behind it.
-/

namespace Segmentation

variable {source : Text} {options : Options}

namespace Chunk

variable {chunk : Chunk} {pieces : List Chunk} {maxSize : Int}

/-- Chunks in the order in which they start. -/
def Sorted (chunks : List Chunk) : Prop :=
  chunks.Pairwise fun earlier later => earlier.startOffset ≤ later.startOffset

theorem sorted_iff_starts (chunks : List Chunk) :
    Sorted chunks ↔ (chunks.map (·.startOffset)).Pairwise (· ≤ ·) := by
  rw [List.pairwise_map]
  exact Iff.rfl

theorem CutInto.sorted (cut : chunk.CutInto source maxSize pieces) : Sorted pieces :=
  cut.starts_increase.imp fun before => Int.le_of_lt before

theorem BoundedInto.sorted (bounded : chunk.BoundedInto source maxSize pieces) :
    Sorted pieces := by
  cases bounded with
  | whole small => exact List.pairwise_singleton _ _
  | pieces large cut => exact cut.sorted

theorem BoundedInto.start_le (bounded : chunk.BoundedInto source maxSize pieces) :
    ∀ piece ∈ pieces, chunk.startOffset ≤ piece.startOffset := by
  intro piece member
  cases bounded with
  | whole small =>
      obtain rfl := List.mem_singleton.1 member
      exact Int.le_refl _
  | pieces large cut => exact (cut.inside piece member).1

/-- All pieces start at or before an offset behind the start of their chunk, if that is so where the
chunk is cut and the offset lies within it. -/
theorem BoundedInto.start_le_of {offset : Int} (bounded : chunk.BoundedInto source maxSize pieces)
    (start : chunk.startOffset ≤ offset)
    (within : maxSize < chunk.size → offset < chunk.endOffset →
      ∀ piece ∈ pieces, piece.startOffset ≤ offset) :
    ∀ piece ∈ pieces, piece.startOffset ≤ offset := by
  intro piece member
  cases bounded with
  | whole small =>
      obtain rfl := List.mem_singleton.1 member
      exact start
  | pieces large cut =>
      rcases Int.lt_or_le offset chunk.endOffset with inside | behind
      · exact within large inside piece member
      · obtain ⟨-, filled, high⟩ := cut.inside piece member
        omega

theorem BoundedInto.exists_start_eq {character : Char}
    (bounded : chunk.BoundedInto source maxSize pieces)
    (first : chunk.content[0]? = some character) (inLine : character ≠ '\n') :
    ∃ piece ∈ pieces, piece.startOffset = chunk.startOffset := by
  cases bounded with
  | whole small => exact ⟨chunk, List.mem_cons_self, rfl⟩
  | pieces large cut => exact cut.exists_start_eq first inLine

end Chunk

/-- Pieces of declarations are sorted when those of any two are: those of one always are. -/
theorem sorted_flatMap_iff {declarations : List Chunk} (short : source.Addressable)
    (family : Family) (options : Options) (found : ∀ chunk ∈ declarations, chunk.Found source) :
    Chunk.Sorted (declarations.flatMap (·.boundedPieces source family options)) ↔
      declarations.Pairwise fun left right =>
        ∀ piece ∈ left.boundedPieces source family options,
          ∀ piece' ∈ right.boundedPieces source family options,
            piece.startOffset ≤ piece'.startOffset := by
  rw [Chunk.Sorted, List.pairwise_flatMap]
  constructor
  · intro sorted
    exact sorted.2
  · intro across
    refine ⟨?_, across⟩
    intro chunk member
    exact (Chunk.bounded_eq_ok (found chunk member).slice short family options).2.sorted

/-! ## Disjoint declarations -/

/-- The pieces of declarations that follow one another are sorted. -/
theorem sorted_flatMap_of_disjoint {declarations : List Chunk} (short : source.Addressable)
    (family : Family) (options : Options) (found : ∀ chunk ∈ declarations, chunk.Found source)
    (disjoint : declarations.Pairwise fun left right => left.endOffset ≤ right.startOffset) :
    Chunk.Sorted (declarations.flatMap (·.boundedPieces source family options)) := by
  rw [sorted_flatMap_iff short family options found]
  refine disjoint.imp_of_mem ?_
  intro left right leftMember rightMember before piece member piece' member'
  have leftSlice := (found left leftMember).slice
  have rightSlice := (found right rightMember).slice
  have low := (Chunk.bounded_eq_ok leftSlice short family options).2.start_le_of
    (Int.le_trans leftSlice.ordered before) (by omega) piece member
  have high := (Chunk.bounded_eq_ok rightSlice short family options).2.start_le piece' member'
  exact Int.le_trans low high

/-- Where the language needs a tree of the source, the tree that is made holds its nodes in order or
has an error. -/
def TreeReader.OrderedFor (treeOf : TreeReader) (source : Text) (language : Language) : Prop :=
  ∀ grammar, language.grammar? = some grammar → (treeOf grammar source).info.hasError = false →
    (treeOf grammar source).All SyntaxTree.InOrder

theorem gives_disjoint_ofBraces {treeOf : TreeReader} {grammar : Grammar}
    (fits : (treeOf grammar source).info.hasError = false →
      (treeOf grammar source).Fits source)
    (ordered : (treeOf grammar source).info.hasError = false →
      (treeOf grammar source).All SyntaxTree.InOrder) :
    Gives (Told.ofBraces treeOf grammar source) fun declarations =>
      declarations.value.Pairwise fun left right => left.endOffset ≤ right.startOffset :=
  Gives.bind _ (Declarations.gives_disjoint_ofTree (fun noError => (fits noError).spanned) ordered)
    fun _ disjoint => .pure disjoint

/-! ## Nested declarations -/

/-- No declaration that has to be cut has a piece that starts behind a later declaration within
it. -/
def Indentation.KeepsOrder (source : Text) (options : Options) : Prop :=
  (Indentation.chunks source).Pairwise fun outer inner =>
    options.maxChunkSize < outer.size → inner.startOffset < outer.endOffset →
      ∀ pieces, outer.bounded source .indentation options = .ok pieces →
        ∀ piece ∈ pieces, piece.startOffset ≤ inner.startOffset

/-- Declarations that need no cutting keep their order. -/
theorem Indentation.keepsOrder_of_small
    (small : ∀ chunk ∈ Indentation.chunks source, chunk.size ≤ options.maxChunkSize) :
    Indentation.KeepsOrder source options := by
  refine (Indentation.chunks_sorted source).imp_of_mem ?_
  intro outer inner outerMember _ _ large
  exact absurd (small outer outerMember) (Nat.not_le.2 large)

/-- Declarations are cut into sorted pieces exactly when no piece starts behind a later declaration,
since one piece of that starts where it does. -/
theorem sorted_flatMap_declares_iff {declarations : List Chunk} (short : source.Addressable)
    (family : Family) (options : Options)
    (declared : ∀ chunk ∈ declarations, Indentation.Declares source chunk) :
    Chunk.Sorted (declarations.flatMap (·.boundedPieces source family options)) ↔
      declarations.Pairwise fun outer inner =>
        ∀ piece ∈ outer.boundedPieces source family options,
          piece.startOffset ≤ inner.startOffset := by
  rw [sorted_flatMap_iff short family options fun chunk member =>
    ⟨(declared chunk member).slice, fun _ => (declared chunk member).nonempty⟩]
  refine List.Pairwise.iff_of_mem ?_
  intro outer inner _ innerMember
  have bounded := (Chunk.bounded_eq_ok (declared inner innerMember).slice short family options).2
  constructor
  · intro sorted piece member
    obtain ⟨character, first, inLine⟩ := (declared inner innerMember).first_ne_newline
    obtain ⟨piece', member', start⟩ := bounded.exists_start_eq first inLine
    rw [← start]
    exact sorted piece member piece' member'
  · intro behind piece member piece' member'
    exact Int.le_trans (behind piece member) (bounded.start_le piece' member')

theorem sorted_flatMap_indented_iff (short : source.Addressable) (options : Options) :
    Chunk.Sorted ((Indentation.chunks source).flatMap
        (·.boundedPieces source .indentation options)) ↔
      Indentation.KeepsOrder source options := by
  have found := (found_of_mem_indented source).2
  rcases Indentation.chunks_cases source with whole | ⟨-, declared⟩
  · rw [sorted_flatMap_iff short .indentation options found, Indentation.KeepsOrder, whole]
    exact iff_of_true (List.pairwise_singleton _ _) (List.pairwise_singleton _ _)
  · rw [sorted_flatMap_declares_iff short .indentation options declared, Indentation.KeepsOrder]
    constructor
    · intro behind
      refine behind.imp_of_mem ?_
      intro outer inner outerMember _ sorted _ _ pieces equal
      have bounded := Chunk.bounded_eq_ok (declared outer outerMember).slice short .indentation
        options
      rw [bounded.1, Except.ok.injEq] at equal
      rwa [← equal]
    · intro keeps
      refine (keeps.and (Indentation.chunks_sorted source)).imp_of_mem ?_
      rintro outer inner outerMember _ ⟨keep, before⟩
      obtain ⟨equal, into⟩ := Chunk.bounded_eq_ok (declared outer outerMember).slice short
        .indentation options
      exact into.start_le_of before fun large inside => keep (Int.ofNat_lt.1 large) inside _ equal

/-! ## Runs -/

theorem gives_sorted_segmentsTold {treeOf : TreeReader} {language : Language}
    (short : source.Addressable) (fits : treeOf.FitsFor source language)
    (ordered : treeOf.OrderedFor source language) (options : Options) :
    Gives (segmentsTold treeOf source language options) fun told =>
      Chunk.Sorted told.value ↔
        (language.strategy = .indented → Indentation.KeepsOrder source options) := by
  unfold segmentsTold
  split
  · next unknown =>
      exact .pure (iff_of_true (boundedInto_plainText source options).sorted (by simp [unknown]))
  · next indented =>
      have found := (found_of_mem_indented source).2
      refine (gives_bounded_told short _ options found).imp fun told same => ?_
      have family : language.family = .indentation := by simp [Language.family, indented]
      rw [same, family]
      exact (sorted_flatMap_indented_iff short options).trans
        ⟨fun keeps _ => keeps, fun keeps => keeps indented⟩
  · next grammar braces =>
      have reads : language.grammar? = some grammar := by simp [Language.grammar?, braces]
      refine Gives.bind _ ((gives_ofBraces (fits grammar reads)).and
        (gives_disjoint_ofBraces (fits grammar reads) (ordered grammar reads))) ?_
      rintro declarations ⟨⟨-, found⟩, disjoint⟩
      refine (gives_bounded_told short _ options found).imp fun told same => ?_
      rw [same]
      exact iff_of_true (sorted_flatMap_of_disjoint short _ options found disjoint)
        (by simp [braces])

/-- The records of a run are in the order in which they start, unless the source has indented
blocks and a declaration that has to be cut has a piece that starts behind a later declaration
within it. -/
theorem segment_sorted_iff (treeOf : TreeReader) (source file : Text) (options : Options)
    (short : source.Addressable) (fits : treeOf.FitsFor source (Path.ofText file).language)
    (ordered : treeOf.OrderedFor source (Path.ofText file).language) :
    ∃ records, segment treeOf source file options = .ok records ∧
      (Chunk.Sorted (records.map (·.chunk)) ↔
        ((Path.ofText file).language.strategy = .indented →
          Indentation.KeepsOrder source options)) := by
  obtain ⟨records, equal, chunks, sorted, rfl⟩ :=
    gives_segment (fun chunks => Chunk.Sorted chunks ↔ _)
      (gives_sorted_segmentsTold short fits ordered options)
  refine ⟨_, equal, ?_⟩
  rw [List.map_map]
  have same : ((·.chunk) ∘ (Record.ofChunk · (Path.ofText file).language
      options.calculateComplexity)) = id := rfl
  rwa [same, List.map_id]

theorem emptyClass_inOrder : emptyClass.All SyntaxTree.InOrder := by
  refine .node (by decide) (List.forall_mem_singleton.2 (.node (by decide) ?_))
  simp only [List.forall_mem_cons]
  refine ⟨.node (by decide) (List.forall_mem_nil _), .node (by decide) (List.forall_mem_nil _),
    .node (by decide) ?_, List.forall_mem_nil _⟩
  simp only [List.forall_mem_cons]
  exact ⟨.node (by decide) (List.forall_mem_nil _), .node (by decide) (List.forall_mem_nil _),
    List.forall_mem_nil _⟩

/-- A class without members, cut into windows. -/
theorem segment_sorted_iff_emptyClass :
    ∃ records, segment (fun _ _ => emptyClass) "class A \x7b\x7d".toList "a.js".toList
        { maxChunkSize := 4, overlap := 1 } = .ok records ∧
      (Chunk.Sorted (records.map (·.chunk)) ↔
        ((Path.ofText "a.js".toList).language.strategy = .indented →
          Indentation.KeepsOrder "class A \x7b\x7d".toList { maxChunkSize := 4, overlap := 1 })) :=
  segment_sorted_iff _ _ _ _ (by decide) (fun _ _ _ => emptyClass_fits)
    fun _ _ _ => emptyClass_inOrder

/-- The chunk of the method comes after all pieces of its class, of which the last one starts behind
it. -/
theorem segment_unsorted_class :
    ∃ records, segment (fun _ _ => emptyClass) "class A:\n  def f(): x\n  y = 1".toList
        "a.py".toList { maxChunkSize := 16, overlap := 0 } = .ok records ∧
      records.map (·.chunk.startOffset) = [0, 9, 22, 9] ∧
      ¬Chunk.Sorted (records.map (·.chunk)) := by
  have indented : (Path.ofText "a.py".toList).language.strategy = .indented := by decide +kernel
  have found := Indentation.chunks_eq (List.reverse_perm ((Indentation.allHeaders
      "class A:\n  def f(): x\n  y = 1".toList).map (Indentation.chunkOf _ _)))
    (by decide +kernel) (by decide +kernel)
  have starts : (segment (fun _ _ => emptyClass) "class A:\n  def f(): x\n  y = 1".toList
      "a.py".toList { maxChunkSize := 16, overlap := 0 }).map (·.map (·.chunk.startOffset)) =
        .ok [0, 9, 22, 9] := by
    simp only [segment, segmentTold, segmentsTold, indented, Told.ofIndented, found]
    decide +kernel
  cases equal : segment (fun _ _ => emptyClass) "class A:\n  def f(): x\n  y = 1".toList
      "a.py".toList { maxChunkSize := 16, overlap := 0 } with
  | error failure =>
      rw [equal, Except.map] at starts
      exact absurd starts (by simp)
  | ok records =>
      rw [equal, Except.map, Except.ok.injEq] at starts
      refine ⟨records, rfl, starts, ?_⟩
      have same : (records.map (·.chunk)).map (·.startOffset) = [0, 9, 22, 9] :=
        List.map_map.trans starts
      rw [Chunk.sorted_iff_starts, same]
      decide

end Segmentation
