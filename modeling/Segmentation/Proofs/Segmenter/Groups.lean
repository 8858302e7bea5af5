import Segmentation.Proofs.Declarations.Statements
import Segmentation.Proofs.Indentation.Extent
import Segmentation.Proofs.Segmenter.Bounds
import Segmentation.Proofs.Split.Parts

/-!
# Groups of parts

What a run ends with comes in groups, one for each chunk that analysing the source finds, in the
order of these chunks. A chunk that is small enough is a group by itself. A larger one is replaced
by its parts, which reach from its start to its end because no declaration starts or ends with an
empty line. A source in which nothing is declared may do so, but that is cut into windows.
-/

namespace Segmentation

variable {source : Text} {options : Options}

/-- The pieces that stand for a chunk in the end: the chunk alone if options allow its size, and all
of its parts if not. -/
structure Chunk.GroupedInto (chunk : Chunk) (options : Options) (pieces : List Chunk) : Prop where
  whole : chunk.size ≤ options.maxChunkSize → pieces = [chunk]
  parts : options.maxChunkSize < chunk.size → chunk.PartsOf pieces

namespace Chunk

variable {chunk : Chunk} {pieces : List Chunk}

theorem groupedInto_whole (small : chunk.size ≤ options.maxChunkSize) :
    chunk.GroupedInto options [chunk] :=
  ⟨fun _ => rfl, fun large => absurd large (Nat.not_lt.2 small)⟩

theorem PartsOf.groupedInto (parts : chunk.PartsOf pieces)
    (large : options.maxChunkSize < chunk.size) : chunk.GroupedInto options pieces :=
  ⟨fun small => absurd large (Nat.not_lt.2 small), fun _ => parts⟩

/-- A chunk as analysing a source finds it. Unless it holds a file without declarations, it neither
starts nor ends with a newline. -/
structure Analysed (source : Text) (chunk : Chunk) : Prop where
  slice : chunk.IsSlice source
  isWhole : chunk.IsWhole
  bare : chunk.isWholeFile = false → chunk.content.BareEnds

theorem analysed_wholeFile {kind : ChunkKind} (name : String)
    (wholeFile : kind = .wholeModule ∨ kind = .unparseable) (source : Text) :
    (wholeSource kind name source).Analysed source where
  slice := isSlice_wholeSource kind name source
  isWhole := isWhole_wholeSource kind name source
  bare := by
    intro notWhole
    rcases wholeFile with rfl | rfl <;> exact absurd notWhole (by simp [isWholeFile, wholeSource])

/-! ## Cutting -/

theorem groupedInto_windows (slice : chunk.IsSlice source) (nameParts : Bool) :
    chunk.GroupedInto options
      (chunk.windows source options.maxChunkSize options.overlap nameParts) := by
  have less := Int.ofNat_lt.2 options.overlap_lt_maxChunkSize
  rcases Nat.lt_or_ge options.maxChunkSize chunk.size with large | small
  · exact (partsOf_windows nameParts slice (Int.natCast_nonneg _) less
      (Int.ofNat_lt.2 large)).groupedInto large
  · rw [windows, if_pos (Int.ofNat_le.2 small)]
    exact groupedInto_whole small

theorem SplitInto.groupedInto {preserveSignatures : Bool} {family : Family}
    (into : chunk.SplitInto source options.maxChunkSize options.overlap preserveSignatures family
      pieces) (slice : chunk.IsSlice source) (bare : chunk.content.BareEnds) :
    chunk.GroupedInto options pieces := by
  rcases into.whole_or_large with ⟨small, rfl⟩ | large
  · exact groupedInto_whole (Int.ofNat_le.1 small)
  · have less := Int.ofNat_lt.2 options.overlap_lt_maxChunkSize
    exact (into.partsOf slice bare (Int.natCast_nonneg _) less large).groupedInto
      (Int.ofNat_lt.1 large)

/-- Whichever way an analysed chunk is cut, it is replaced by its group. -/
theorem Analysed.gives_groupedInto (analysed : chunk.Analysed source) (short : source.Addressable)
    (family : Family) (options : Options) :
    Gives (chunk.bounded source family options) (chunk.GroupedInto options) := by
  rw [bounded_eq]
  split
  · exact .pure (groupedInto_windows analysed.slice false)
  · next declared =>
      exact (gives_splitInto analysed.slice short family options).imp fun pieces into =>
        into.groupedInto analysed.slice (analysed.bare (Bool.eq_false_iff.2 declared))

end Chunk

/-! ## Analysing -/

/-- The chunks that analysing a source finds before any of them is cut. -/
def analyse (treeOf : TreeReader) (source : Text) (language : Language) :
    Except ChunkFailure (List Chunk) :=
  match language.strategy with
  | .none => .ok [plainText source]
  | .indented => .ok (Indentation.chunks source)
  | .braces grammar => (·.chunks) <$> Declarations.ofTree source (treeOf grammar source)

theorem Indentation.analysed_of_mem_chunks {chunk : Chunk}
    (member : chunk ∈ Indentation.chunks source) : chunk.Analysed source := by
  rcases Indentation.mem_chunks_cases member with rfl | ⟨located, header, rfl⟩
  · exact Chunk.analysed_wholeFile "module" (.inl rfl) source
  · exact ⟨(Indentation.declares_chunkOf header).slice, ⟨rfl, rfl, rfl, rfl, rfl⟩,
      fun _ => header.bareEnds_chunkOf⟩

/-- A tree whose nodes stand for pieces of the source, and those that declare something for pieces
without a newline at either end. -/
def SyntaxTree.Tight (source : Text) (tree : SyntaxTree) : Prop :=
  tree.All fun node => ∃ start stop, node.info.Spans source start stop ∧
    (Declarations.declarationTypes.contains node.type → (source.slice start stop).BareEnds)

theorem SyntaxTree.Tight.spanned {tree : SyntaxTree} (tight : tree.Tight source) :
    tree.Spanned source :=
  tight.imp fun _ ⟨start, stop, spans, _⟩ => ⟨start, stop, spans⟩

theorem SyntaxTree.tight_node {info : NodeInfo} {children : List SyntaxTree} (start stop : Nat)
    (spans : info.Spans source start stop) (bare : Text.BareEnds (source.slice start stop))
    (below : ∀ child ∈ children, child.Tight source) :
    (SyntaxTree.node info children).Tight source :=
  .node ⟨start, stop, spans, fun _ => bare⟩ below

namespace Declarations

theorem DeclaredIn.analysed {statement : SyntaxTree} {chunk : Chunk}
    (declared : DeclaredIn source statement chunk) (tight : statement.Tight source) :
    chunk.Analysed source := by
  obtain ⟨node, declaredNode, declaredBy⟩ := declared.exists_node
  refine ⟨declaredBy.isSlice, declared.isWhole, fun _ => ?_⟩
  obtain ⟨start, stop, spans, startEqual, stopEqual⟩ := declaredBy.at_node
  have inner : node.Tight source :=
    all_of_unwrapExports tight (unwrapped_of_declaration? declaredNode)
  obtain ⟨start', stop', spans', bare⟩ := inner.root
  obtain ⟨rfl, rfl⟩ := spans.unique spans'
  rw [declaredBy.content_eq, startEqual, stopEqual]
  exact bare declaredBy.type_mem

theorem gives_analysed_ofTree {tree : SyntaxTree}
    (tight : tree.info.hasError = false → tree.Tight source) :
    Gives (ofTree source tree) fun outcome => ∀ chunk ∈ outcome.chunks, chunk.Analysed source := by
  cases error : tree.info.hasError with
  | true =>
      refine ⟨unusable source tree.diagnostic, by rw [ofTree, if_pos error], fun chunk member => ?_⟩
      obtain rfl := List.mem_singleton.1 member
      exact Chunk.analysed_wholeFile "unparseable" (.inr rfl) source
  | false =>
      refine (gives_declared_ofTree error (tight error).spanned).imp ?_
      rintro outcome ⟨-, ⟨-, whole⟩ | ⟨-, each⟩⟩ chunk member
      · rw [whole] at member
        obtain rfl := List.mem_singleton.1 member
        exact Chunk.analysed_wholeFile "module" (.inl rfl) source
      · obtain ⟨statement, inside, declared⟩ := exists_of_mem_forall₂ each member
        exact declared.analysed ((tight error).namedChild (List.mem_filter.1 inside).1)

end Declarations

/-! ## Runs -/

/-- Chunks in groups, one for each of the declarations, none of which is a part of anything. -/
def GroupsOf (options : Options) (declarations : List Chunk) (groups : List (List Chunk)) : Prop :=
  List.Forall₂ (fun chunk pieces => chunk.IsWhole ∧ chunk.GroupedInto options pieces) declarations
    groups

theorem gives_groups_told {declarations : Told (List Chunk)} (short : source.Addressable)
    (family : Family) (options : Options)
    (analysed : ∀ chunk ∈ declarations.value, chunk.Analysed source) :
    Gives (declarations.bounded source family options) fun told => ∃ groups,
      told.value = groups.flatten ∧ GroupsOf options declarations.value groups := by
  have each : ∀ chunk ∈ declarations.value, Gives (chunk.boundedTold source family options)
      fun told => chunk.IsWhole ∧ chunk.GroupedInto options told.value := by
    intro chunk member
    refine Gives.bind _ ((analysed chunk member).gives_groupedInto short family options)
      fun pieces grouped => ?_
    exact .pure ⟨(analysed chunk member).isWhole, grouped⟩
  refine Gives.bind _ (Gives.mapM each) fun cut groups => .pure ?_
  exact ⟨cut.map (·.value), List.flatMap_def, List.forall₂_map_right_iff.2 groups⟩

/-- Where the language needs a tree of the source, the tree that is made is tight or has an
error. -/
def TreeReader.TightFor (treeOf : TreeReader) (source : Text) (language : Language) : Prop :=
  ∀ grammar, language.grammar? = some grammar → (treeOf grammar source).info.hasError = false →
    (treeOf grammar source).Tight source

theorem gives_groups_segmentsTold {treeOf : TreeReader} {language : Language}
    (short : source.Addressable) (tight : treeOf.TightFor source language) (options : Options) :
    Gives (segmentsTold treeOf source language options) fun told => ∃ declarations groups,
      analyse treeOf source language = .ok declarations ∧ told.value = groups.flatten ∧
        GroupsOf options declarations groups := by
  unfold segmentsTold analyse
  cases strategy : language.strategy with
  | none =>
      refine .pure ⟨_, [(Told.ofPlainText source options).value], rfl, ?_, .cons ⟨?_, ?_⟩ .nil⟩
      · rw [List.flatten_singleton]
      · exact ⟨rfl, rfl, rfl, rfl, rfl⟩
      · exact Chunk.groupedInto_windows (found_plainText source).slice true
  | indented =>
      refine (gives_groups_told short _ options fun chunk member =>
        Indentation.analysed_of_mem_chunks member).imp ?_
      rintro told ⟨groups, flat, grouped⟩
      exact ⟨_, groups, rfl, flat, grouped⟩
  | braces grammar =>
      have tree := tight grammar (by simp [Language.grammar?, strategy])
      obtain ⟨outcome, equal, analysed⟩ := Declarations.gives_analysed_ofTree tree
      simp only [Told.ofBraces, equal]
      refine (gives_groups_told short _ options analysed).imp ?_
      rintro told ⟨groups, flat, grouped⟩
      exact ⟨_, groups, rfl, flat, grouped⟩

/-- The records of a run are those of its groups, one group after the other, and there is one group
for each chunk that analysing the source finds. -/
theorem segment_groups (treeOf : TreeReader) (source file : Text) (options : Options)
    (short : source.Addressable) (tight : treeOf.TightFor source (Path.ofText file).language) :
    ∃ records declarations groups, segment treeOf source file options = .ok records ∧
      analyse treeOf source (Path.ofText file).language = .ok declarations ∧
      records = groups.flatten.map
        (Record.ofChunk · (Path.ofText file).language options.calculateComplexity) ∧
      GroupsOf options declarations groups := by
  obtain ⟨records, equal, chunks, ⟨declarations, groups, analysed, rfl, grouped⟩, made⟩ :=
    gives_segment (fun chunks => ∃ declarations groups,
      analyse treeOf source (Path.ofText file).language = .ok declarations ∧
        chunks = groups.flatten ∧ GroupsOf options declarations groups)
      (gives_groups_segmentsTold short tight options)
  exact ⟨records, declarations, groups, equal, analysed, made, grouped⟩

theorem emptyClass_tight : emptyClass.Tight "class A \x7b\x7d".toList := by
  refine SyntaxTree.tight_node 0 10 (by decide) (by decide) (List.forall_mem_singleton.2 ?_)
  refine SyntaxTree.tight_node 0 10 (by decide) (by decide) ?_
  simp only [List.forall_mem_cons]
  refine ⟨SyntaxTree.tight_node 0 5 (by decide) (by decide) (List.forall_mem_nil _),
    SyntaxTree.tight_node 6 7 (by decide) (by decide) (List.forall_mem_nil _),
    SyntaxTree.tight_node 8 10 (by decide) (by decide) ?_, List.forall_mem_nil _⟩
  simp only [List.forall_mem_cons]
  exact ⟨SyntaxTree.tight_node 8 9 (by decide) (by decide) (List.forall_mem_nil _),
    SyntaxTree.tight_node 9 10 (by decide) (by decide) (List.forall_mem_nil _),
    List.forall_mem_nil _⟩

/-- A class that is too large, cut into windows of four characters, each with the class as its
parent. -/
theorem segment_groups_emptyClass :
    ∃ records declarations groups,
      segment (fun _ _ => emptyClass) "class A \x7b\x7d".toList "a.js".toList
        { maxChunkSize := 4, overlap := 1 } = .ok records ∧
      analyse (fun _ _ => emptyClass) "class A \x7b\x7d".toList
        (Path.ofText "a.js".toList).language = .ok declarations ∧
      records = groups.flatten.map
        (Record.ofChunk · (Path.ofText "a.js".toList).language true) ∧
      GroupsOf { maxChunkSize := 4, overlap := 1 } declarations groups ∧
      ∀ pieces ∈ groups, ∀ part ∈ pieces, part.parentName = some "A".toList := by
  obtain ⟨records, declarations, groups, equal, analysed, made, grouped⟩ :=
    segment_groups (fun _ _ => emptyClass) "class A \x7b\x7d".toList "a.js".toList
      { maxChunkSize := 4, overlap := 1 } (by decide) fun _ _ _ => emptyClass_tight
  have classes : ∀ chunk ∈ (analyse (fun _ _ => emptyClass) "class A \x7b\x7d".toList
      (Path.ofText "a.js".toList).language).toOption.getD [],
      chunk.name = "A".toList ∧ chunk.parentName = none ∧ 4 < chunk.size := by
    decide +kernel
  rw [analysed] at classes
  refine ⟨records, declarations, groups, equal, analysed, made, grouped, ?_⟩
  intro pieces inGroups part inPieces
  obtain ⟨chunk, declared, -, group⟩ := exists_of_mem_forall₂ grouped inGroups
  obtain ⟨name, unnamed, large⟩ := classes chunk declared
  obtain ⟨heading, -, parts⟩ := (group.parts large).numbered
  obtain ⟨number, found⟩ := List.getElem?_of_mem inPieces
  rw [(parts number part found).parent_of_unnamed (.inl unnamed), name]

end Segmentation
