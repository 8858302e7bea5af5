import Segmentation.Proofs.Declarations.Chunks

/-!
# Faults of a syntax tree

The nodes of a tree in document order are each node followed by the nodes below it. A node is at
fault when it is an error or missing. The search for a fault keeps a stack of trees and passes over
whole trees without the error mark; where the marks tell the truth, it finds the first node at fault
in document order, just as plain recursion does. So a source cannot be used for its syntax exactly
when a node of its tree is at fault, and the diagnostic tells of the first of these.
-/

namespace Segmentation

namespace SyntaxTree

/-! ## Document order -/

mutual

/-- The nodes of a tree in document order. -/
def nodes : SyntaxTree → List SyntaxTree
  | node info children => node info children :: nodesAmong children

/-- The nodes of several trees in document order. -/
def nodesAmong : List SyntaxTree → List SyntaxTree
  | [] => []
  | tree :: others => nodes tree ++ nodesAmong others

end

theorem nodes_eq (tree : SyntaxTree) : tree.nodes = tree :: nodesAmong tree.children := by
  cases tree
  rfl

theorem self_mem_nodes (tree : SyntaxTree) : tree ∈ tree.nodes := by
  rw [nodes_eq]
  exact List.mem_cons_self

theorem nodesAmong_append (left right : List SyntaxTree) :
    nodesAmong (left ++ right) = nodesAmong left ++ nodesAmong right := by
  induction left with
  | nil => rfl
  | cons tree others ih => rw [List.cons_append, nodesAmong, nodesAmong, ih, List.append_assoc]

theorem mem_nodesAmong {tree node : SyntaxTree} {trees : List SyntaxTree} (member : tree ∈ trees)
    (below : node ∈ tree.nodes) : node ∈ nodesAmong trees := by
  induction trees with
  | nil => exact absurd member List.not_mem_nil
  | cons head others ih =>
      rw [nodesAmong, List.mem_append]
      rcases List.mem_cons.1 member with rfl | inside
      · exact .inl below
      · exact .inr (ih inside)

theorem mem_nodes_of_mem_children {tree child node : SyntaxTree} (member : child ∈ tree.children)
    (below : node ∈ child.nodes) : node ∈ tree.nodes := by
  rw [nodes_eq]
  exact List.mem_cons_of_mem tree (mem_nodesAmong member below)

/-! ## Nodes at fault -/

/-- Whether the node is an error or missing. -/
def isFault (tree : SyntaxTree) : Bool :=
  tree.info.isError || tree.info.isMissing

/-- Whether error marks tell the truth: a node has the mark exactly when it or a node below it is at
fault. -/
def TrulyMarked (tree : SyntaxTree) : Prop :=
  ∀ node ∈ tree.nodes, node.info.hasError = true ↔ ∃ below ∈ node.nodes, below.isFault = true

instance (tree : SyntaxTree) : Decidable tree.TrulyMarked :=
  inferInstanceAs (Decidable (∀ node ∈ tree.nodes, _))

theorem TrulyMarked.child {tree child : SyntaxTree} (marked : tree.TrulyMarked)
    (member : child ∈ tree.children) : child.TrulyMarked :=
  fun node below => marked node (mem_nodes_of_mem_children member below)

theorem TrulyMarked.hasError_iff {tree : SyntaxTree} (marked : tree.TrulyMarked) :
    tree.info.hasError = true ↔ ∃ node ∈ tree.nodes, node.isFault = true :=
  marked tree (self_mem_nodes tree)

theorem TrulyMarked.find?_eq_none {tree : SyntaxTree} (marked : tree.TrulyMarked)
    (unmarked : tree.info.hasError = false) : tree.nodes.find? isFault = none := by
  refine List.find?_eq_none.2 fun node member fault => ?_
  have found := marked.hasError_iff.2 ⟨node, member, fault⟩
  rw [unmarked] at found
  exact Bool.noConfusion found

/-! ## Searching -/

mutual

/-- The first node at fault of a tree, by recursion along the tree. -/
def faultIn? : SyntaxTree → Option SyntaxTree
  | node info children =>
      if (node info children).isFault then some (node info children) else faultAmong? children

/-- The first node at fault of several trees, by recursion along the trees. -/
def faultAmong? : List SyntaxTree → Option SyntaxTree
  | [] => none
  | tree :: others => (faultIn? tree).or (faultAmong? others)

end

mutual

/-- Recursion along a tree finds the first node at fault in document order. -/
theorem faultIn?_eq (tree : SyntaxTree) : tree.faultIn? = tree.nodes.find? isFault := by
  cases tree with
  | node info children =>
      rw [faultIn?, nodes, List.find?_cons, faultAmong?_eq children]
      cases isFault (.node info children) <;> rfl

theorem faultAmong?_eq (trees : List SyntaxTree) :
    faultAmong? trees = (nodesAmong trees).find? isFault := by
  cases trees with
  | nil => rfl
  | cons tree others =>
      rw [faultAmong?, nodesAmong, List.find?_append, faultIn?_eq tree, faultAmong?_eq others]

end

/-- The search along a stack finds the first node at fault among the trees on it. -/
theorem searchFault_eq {stack : List SyntaxTree} (marked : ∀ tree ∈ stack, tree.TrulyMarked) :
    searchFault stack = (nodesAmong stack).find? isFault := by
  -- along the search: the top of the stack is at fault, is opened, or is passed over
  induction stack using searchFault.induct with
  | case1 => rw [searchFault]; rfl
  | case2 tree stack fault =>
      have atFault : tree.isFault = true := fault
      rw [searchFault, if_pos fault, nodesAmong, nodes_eq, List.cons_append,
        List.find?_cons_of_pos atFault]
  | case3 tree stack noFault error ih =>
      have sound : ¬tree.isFault = true := noFault
      rw [List.forall_mem_cons] at marked
      have opened : ∀ inner ∈ tree.children ++ stack, inner.TrulyMarked := by
        intro inner member
        exact (List.mem_append.1 member).elim marked.1.child (marked.2 inner)
      rw [searchFault, if_neg noFault, if_pos error, ih opened, nodesAmong_append, nodesAmong,
        nodes_eq, List.cons_append, List.find?_cons_of_neg sound]
  | case4 tree stack noFault noError ih =>
      rw [List.forall_mem_cons] at marked
      rw [searchFault, if_neg noFault, if_neg noError, ih marked.2, nodesAmong, List.find?_append,
        marked.1.find?_eq_none (Bool.eq_false_iff.2 noError), Option.none_or]

theorem firstFault?_eq {tree : SyntaxTree} (marked : tree.TrulyMarked) :
    tree.firstFault? = tree.nodes.find? isFault := by
  rw [firstFault?, searchFault_eq (List.forall_mem_singleton.2 marked), nodesAmong, nodesAmong,
    List.append_nil]

/-! ## Diagnostics -/

/-- The first node at fault of a tree. -/
structure FirstFault (tree fault : SyntaxTree) : Prop where
  isFault : fault.isFault = true
  first : ∃ before after, tree.nodes = before ++ fault :: after ∧
    ∀ node ∈ before, node.isFault = false

theorem find?_isFault_eq_some_iff {tree fault : SyntaxTree} :
    tree.nodes.find? SyntaxTree.isFault = some fault ↔ tree.FirstFault fault := by
  rw [List.find?_eq_some_iff_append]
  simp only [Bool.not_eq_true']
  exact ⟨fun ⟨isFault, first⟩ => ⟨isFault, first⟩, fun ⟨isFault, first⟩ => ⟨isFault, first⟩⟩

theorem exists_firstFault {tree node : SyntaxTree} (member : node ∈ tree.nodes)
    (fault : node.isFault = true) : ∃ first, tree.FirstFault first := by
  obtain ⟨first, found⟩ := Option.isSome_iff_exists.1 (List.find?_isSome.2 ⟨node, member, fault⟩)
  exact ⟨first, find?_isFault_eq_some_iff.1 found⟩

/-- What is said of a node at fault: what it is, and its row and column counted from one. -/
def complaint (fault : SyntaxTree) : Text :=
  (if fault.info.isMissing then "missing '".toList ++ fault.type.toList ++ ['\'']
    else "syntax error".toList) ++
    " at line ".toList ++ Text.ofNat (fault.info.startPoint.row + 1) ++
    ", column ".toList ++ Text.ofNat (fault.info.startPoint.column + 1)

theorem diagnostic_eq {tree fault : SyntaxTree} (found : tree.firstFault? = some fault) :
    tree.diagnostic = fault.complaint := by
  rw [diagnostic, found, Option.getD_some, complaint]
  split <;> simp only [List.append_assoc, List.cons_append, List.nil_append]

end SyntaxTree

namespace Declarations

open SyntaxTree

variable {source : Text} {tree : SyntaxTree}

/-- Without the error mark on its tree, a source can be used for its syntax. -/
theorem not_failed_of_ofTree {outcome : ParseOutcome} (unmarked : tree.info.hasError = false)
    (made : ofTree source tree = .ok outcome) : outcome.failed = false := by
  rw [ofTree, if_neg (Bool.eq_false_iff.1 unmarked)] at made
  obtain ⟨found, -, made⟩ := bind_eq_ok.1 made
  split at made <;> (obtain rfl := Except.ok.inj made; rfl)

theorem ofTree_of_hasError (error : tree.info.hasError = true) :
    ofTree source tree = .ok (unusable source tree.diagnostic) :=
  if_pos error

theorem gives_outcome_of_bounded (bounded : tree.Bounded source)
    (unmarked : tree.info.hasError = false) :
    Gives (ofTree source tree) fun outcome => outcome.failed = false := by
  refine Gives.of_ok ?_ fun _ made => not_failed_of_ofTree unmarked made
  rw [ofTree, if_neg (Bool.eq_false_iff.1 unmarked)]
  refine Gives.bind _ (Gives.mapM fun statement member =>
    gives_statement (bounded.namedChild member)) fun found _ => ?_
  split <;> exact .pure trivial

theorem gives_failed_iff :
    Gives (ofTree source tree) (fun outcome => outcome.failed = true) ↔
      tree.info.hasError = true := by
  refine ⟨fun ⟨outcome, made, failed⟩ => ?_, fun error => ⟨_, ofTree_of_hasError error, rfl⟩⟩
  by_contra unmarked
  have notFailed := not_failed_of_ofTree (Bool.eq_false_iff.2 unmarked) made
  exact Bool.noConfusion (notFailed.symm.trans failed)

/-- What comes of the nodes at fault in a tree. A source cannot be used for its syntax exactly when
there is one. Then one of them is the first in document order, all of the source is one chunk, and
the diagnostic tells of that node. Without a node at fault, a tree that lies within the source is
read to its end. The search along a stack finds what recursion along the tree finds. -/
structure TellsFaults (source : Text) (tree : SyntaxTree) : Prop where
  failed_iff : Gives (ofTree source tree) (fun outcome => outcome.failed = true) ↔
    ∃ node ∈ tree.nodes, node.isFault = true
  exists_first : ∀ node ∈ tree.nodes, node.isFault = true → ∃ fault, tree.FirstFault fault
  unusable : ∀ fault, tree.FirstFault fault → ofTree source tree = .ok
    { chunks := [Chunk.wholeSource .unparseable "unparseable" source]
      diagnostic := some fault.complaint }
  holdsAll : (Chunk.wholeSource .unparseable "unparseable" source).HoldsAll source
  usable : tree.Bounded source → (∀ node ∈ tree.nodes, node.isFault = false) →
    Gives (ofTree source tree) fun outcome => outcome.failed = false
  search_eq : tree.firstFault? = tree.faultIn?

/-- Where error marks tell the truth, reading a source tells its faults. -/
theorem ofTree_faults (source : Text) {tree : SyntaxTree} (marked : tree.TrulyMarked) :
    TellsFaults source tree where
  failed_iff := by rw [gives_failed_iff, marked.hasError_iff]
  exists_first _ := exists_firstFault
  unusable := by
    intro fault first
    have found : tree.firstFault? = some fault := by
      rw [firstFault?_eq marked, find?_isFault_eq_some_iff.2 first]
    have error : tree.info.hasError = true := marked.hasError_iff.2
      ⟨fault, List.mem_of_find?_eq_some (find?_isFault_eq_some_iff.2 first), first.isFault⟩
    rw [ofTree_of_hasError error, diagnostic_eq found]
    rfl
  holdsAll := Chunk.holdsAll_wholeSource .unparseable "unparseable" source
  usable := by
    intro bounded sound
    refine gives_outcome_of_bounded bounded (Bool.eq_false_iff.2 fun error => ?_)
    obtain ⟨node, member, fault⟩ := marked.hasError_iff.1 error
    rw [sound node member] at fault
    exact Bool.noConfusion fault
  search_eq := by rw [firstFault?_eq marked, faultIn?_eq]

/-- A node of the tree below: its type, the column at which it starts in the given row, and what it
says about faults. -/
def brokenNode (type : String) (row column : Nat) (isError isMissing hasError : Bool)
    (children : List SyntaxTree) : SyntaxTree :=
  .node ⟨type, 0, 0, ⟨row, column⟩, ⟨row, column⟩, true, isError, isMissing, hasError, none⟩
    children

/-- A tree of `f();`, `g(;` and a stray brace, each on a line: the closing parenthesis is missing,
and the brace is an error. -/
def brokenTree : SyntaxTree :=
  brokenNode "program" 0 0 false false true
    [brokenNode "call_expression" 0 0 false false false
        [brokenNode "identifier" 0 0 false false false []],
      brokenNode "call_expression" 1 0 false false true
        [brokenNode "identifier" 1 0 false false false [],
          brokenNode "arguments" 1 1 false false true
            [brokenNode "(" 1 1 false false false [], brokenNode ")" 1 2 false true true []]],
      brokenNode "ERROR" 2 0 true false true []]

/-- The missing parenthesis lies deeper in the tree than the stray brace but comes before it. -/
theorem ofTree_faults_brokenTree :
    brokenTree.TrulyMarked ∧
      brokenTree.FirstFault (brokenNode ")" 1 2 false true true []) ∧
      ofTree "f();\ng(;\n\x7d".toList brokenTree = .ok
        { chunks := [Chunk.wholeSource .unparseable "unparseable" "f();\ng(;\n\x7d".toList]
          diagnostic := some "missing ')' at line 2, column 3".toList } := by
  have marked : brokenTree.TrulyMarked := by decide
  have first : brokenTree.FirstFault (brokenNode ")" 1 2 false true true []) :=
    ⟨rfl, brokenTree.nodes.take 7, brokenTree.nodes.drop 8, rfl, by decide⟩
  exact ⟨marked, first, (ofTree_faults _ marked).unusable _ first⟩

end Declarations

end Segmentation
