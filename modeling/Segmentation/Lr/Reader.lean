import Segmentation.Lr.Automaton
import Segmentation.Lr.Stack

/-!
# Reading by an automaton

The reader follows a text token by token. Which tokens there may be is known from the state, so the
state decides what a text is split into. Where a state allows for several moves, all are followed,
each by a stack of its own, and stacks that come to hold the same are joined again; those that are
stuck are dropped. The text is read when one of them reaches its end.
-/

namespace Segmentation.Lr

/-- A token with its place. -/
structure Token where
  number : Nat
  start : Cursor
  stop : Cursor
  /-- Whether the token may stand anywhere and belongs to no production. -/
  isExtra : Bool := false
  /-- The token that a fixed word is where the word itself cannot stand. -/
  plain : Option Nat := none

/-- How the next token is found, from the tokens with which a text may go on. -/
abbrev Lexer := TokenSet → Cursor → Option Token

/-- Where a reader was stuck. -/
structure Stuck where
  byte : Nat
  point : Point

/-- A stack that is still followed, perhaps with the token that comes next. -/
structure Head where
  stack : Stack
  lookahead : Option Token := none

/-- The state of a reader: the automaton as far as it was needed, the number of stacks made so far,
the furthest place where a stack was stuck, and the tree of the text, if it was read, with its
weight. -/
structure Reader where
  automaton : Automaton := {}
  made : Nat := 0
  furthest : Stuck := ⟨0, ⟨0, 0⟩⟩
  finished : Option (SyntaxTree × Int) := none

namespace Reader

/-- A step of the automaton as a step of a reader. -/
def withAutomaton {α : Type} (step : StateM Automaton α) : StateM Reader α :=
  modifyGet fun reader =>
    let (value, automaton) := step.run reader.automaton
    (value, { reader with automaton })

/-- A stack that was not there before. -/
def newStack (state : Nat) (place : Cursor) (links : Links) : StateM Reader Stack :=
  modifyGet fun reader =>
    (.node reader.made state place links, { reader with made := reader.made + 1 })

/-- A stack with one more piece, in the given state. -/
def push (state : Nat) (stack : Stack) (piece : Piece) : StateM Reader Stack := do
  let place := if stack.place.byte < piece.stop.byte then piece.stop else stack.place
  newStack state place (.link piece stack .none)

/-- Notes that a stack is stuck. -/
def stick (place : Cursor) : StateM Reader Unit :=
  modify fun reader =>
    if reader.furthest.byte ≤ place.byte then
      { reader with furthest := ⟨place.byte, place.point⟩ }
    else reader

/-! ## Nodes -/

/-- The trees of a piece under another name. -/
def rename (isHidden : Bool) (name : Alias) (piece : Piece) : Forest :=
  match isHidden, piece.trees.toList with
  | false, [.node info children] =>
      .tree (.node { info with type := name.type, isNamed := name.isNamed } children)
  | _, trees => .tree (nodeOver name.type name.isNamed piece.start piece.stop trees)

/-- Trees of which the first plays the given part. -/
def labelFirst (name : String) : List SyntaxTree → Forest
  | [] => .empty
  | tree :: others => .ofList (tree.withField name :: others)

/-- Whether a symbol leaves no node in a tree. -/
def isHidden (table : Table) : Symbol → Bool
  | .token number => (table.tokens[number]?.map fun info => info.name.startsWith "_").getD true
  | .variable number => (table.nonterminals[number]?.map (·.isHidden)).getD true

/-- The trees that a step of a production adds to its node. -/
def treesOf (table : Table) (step : NumberedStep) (piece : Piece) : Forest :=
  let trees :=
    match step.shownAs with
    | some name => rename (isHidden table step.symbol) name piece
    | none => piece.trees
  match step.field with
  | some name => labelFirst name trees.toList
  | none => trees

/-- The trees of the pieces of a production, with the extra ones between them. -/
def childrenOf (table : Table) : List NumberedStep → List Piece → Forest
  | steps, piece :: pieces =>
      if piece.isExtra then .join piece.trees (childrenOf table steps pieces)
      else
        match steps with
        | step :: steps => .join (treesOf table step piece) (childrenOf table steps pieces)
        | [] => .join piece.trees (childrenOf table [] pieces)
  | _, [] => .empty

/-- The piece of a whole production. -/
def pieceOf (table : Table) (production : Production) (pieces : List Piece) (place : Cursor) :
    Piece :=
  let children := childrenOf table production.steps.toList pieces
  let start := (pieces.head?.map (·.start)).getD place
  let stop := (pieces.getLast?.map (·.stop)).getD place
  let trees :=
    match table.nonterminals[production.head]? with
    | some info =>
        if info.isHidden then children
        else .tree (nodeOver info.name true start stop children.toList)
    | none => children
  { trees, start, stop, weight := totalWeight pieces + production.weight }

/-- The piece of a token. -/
def pieceOfToken (table : Table) (token : Token) : Piece :=
  let trees :=
    match table.tokens[token.number]? with
    | some info =>
        if info.name.startsWith "_" then .empty
        else .tree (nodeOver info.name (!info.isLiteral) token.start token.stop [])
    | none => .empty
  { trees, start := token.start, stop := token.stop, isExtra := token.isExtra }

/-! ## Moves -/

/-- Notes the tree of the whole text. Of several the one with the most weight is kept. -/
def finish (table : Table) (production : Production) (pieces : List Piece) (below : Stack) :
    StateM Reader Unit :=
  modify fun reader =>
    let before := below.pieces []
    let children :=
      before.flatMap (·.trees.toList) ++ (childrenOf table production.steps.toList pieces).toList
    let all := before ++ pieces
    let start := (all.head?.map (·.start)).getD below.place
    let stop := (all.getLast?.map (·.stop)).getD below.place
    let name := (table.nonterminals[production.head]?.map (·.name)).getD ""
    let weight := totalWeight pieces + production.weight
    let tree := nodeOver name true start stop children
    match reader.finished with
    | some (_, best) =>
        if best < weight then { reader with finished := some (tree, weight) } else reader
    | none => { reader with finished := some (tree, weight) }

/-- The stacks after a production has ended on top of a stack. Extra pieces after its last one stay
on top. -/
def reduce (table : Table) (number : Nat) (stack : Stack) : StateM Reader (List Stack) := do
  match table.productions[number]? with
  | none => return []
  | some production =>
      let ways := distinctWays (stack.pop production.steps.size [])
      let reached ← ways.mapM fun (pieces, below) => do
        if production.head = 0 then
          finish table production pieces below
          return none
        else
          let trailing := (pieces.reverse.takeWhile (·.isExtra)).reverse
          let own := pieces.take (pieces.length - trailing.length)
          match ← withAutomaton (Automaton.move table below.state (.variable production.head)) with
          | none => return none
          | some state =>
              let whole := pieceOf table production own below.place
              let reduced ← push state below whole
              some <$> trailing.foldlM (push state) reduced
      return reached.filterMap id

/-- The heads after the next token of a head was looked at. The last of several productions that
end keeps the token in view if the token itself is not taken. -/
def follow (table : Table) (moves : Moves) (token : Token) (stack : Stack) :
    StateM Reader (List Head) := do
  let reduced ← moves.reductions.mapM fun production => reduce table production stack
  if moves.shift then
    let shifted ← withAutomaton (Automaton.move table stack.state (.token token.number))
    let reached ←
      match shifted with
      | none => pure []
      | some state => pure [{ stack := ← push state stack (pieceOfToken table token) : Head }]
    return reached ++ reduced.flatten.map fun stack => { stack := stack }
  else
    let earlier := reduced.dropLast.flatten.map fun stack => { stack := stack }
    let last :=
      (reduced.getLast?.getD []).map fun stack => { stack := stack, lookahead := some token }
    return last ++ earlier

/-- The moves that a token allows for in a state, perhaps as a plain one. -/
def movesOf (table : Table) (state : State) (token : Token) : Option (Moves × Token) :=
  let moves := table.moves state token.number
  if !moves.reductions.isEmpty || moves.shift then some (moves, token)
  else
    match token.plain with
    | none => none
    | some number =>
        let moves := table.moves state number
        if !moves.reductions.isEmpty || moves.shift then
          some (moves, { token with number, plain := none })
        else none

/-- The heads that come of one. -/
def advance (table : Table) (lexer : Lexer) (head : Head) : StateM Reader (List Head) := do
  let stack := head.stack
  let state ← withAutomaton (Automaton.state stack.state)
  match head.lookahead.or (lexer state.expected stack.place) with
  | none =>
      stick stack.place
      return []
  | some token =>
      if token.isExtra then
        return [{ stack := ← push stack.state stack (pieceOfToken table token) }]
      else
        match movesOf table state token with
        | none =>
            stick token.start
            return []
        | some (moves, token) => follow table moves token stack

/-! ## The heads -/

/-- Two heads as one, if they hold the same at the same place. -/
def join? (table : Table) (known head : Head) : StateM Reader (Option Head) := do
  let left := known.stack
  let right := head.stack
  if left.place.byte != right.place.byte then return none
  else
    match ← withAutomaton (Automaton.join table left.state right.state) with
    | none => return none
    | some state =>
        let stack := Stack.node left.identity state left.place (left.links.union right.links)
        let lookahead := if left.state = right.state then known.lookahead else none
        return some { stack, lookahead }

/-- The heads with one more. -/
def insertHead (table : Table) (head : Head) : List Head → StateM Reader (List Head)
  | [] => return [head]
  | known :: others => do
      match ← join? table known head with
      | some joined => return joined :: others
      | none => return known :: (← insertHead table head others)

/-- The head that is furthest behind, and the others. -/
def takeLast? : List Head → Option (Head × List Head)
  | [] => none
  | head :: others =>
      match takeLast? others with
      | some (behind, rest) =>
          if behind.stack.place.byte < head.stack.place.byte then some (behind, head :: rest)
          else some (head, others)
      | none => some (head, [])

/-- Follows all heads to the end, in at most the given number of moves. -/
def followAll (table : Table) (lexer : Lexer) : Nat → List Head → StateM Reader Unit
  | 0, _ => return
  | budget + 1, heads => do
      match takeLast? heads with
      | none => return
      | some (head, others) =>
          let next ← advance table lexer head
          let heads ← next.foldlM (fun heads head => insertHead table head heads) others
          followAll table lexer budget heads

end Reader

/-- Reads a source: its tree, or the furthest place at which the reader was stuck. -/
def read (table : Table) (lexer : Lexer) (budget : Nat) (source : Text) :
    Except Stuck SyntaxTree :=
  let reading : StateM Reader Unit := do
    let state ← Reader.withAutomaton (Automaton.enter table table.startItems)
    let bottom ← Reader.newStack state (.start source) .none
    Reader.followAll table lexer budget [{ stack := bottom }]
  let reader := (reading.run {}).2
  match reader.finished with
  | some (tree, _) => .ok tree
  | none => .error reader.furthest

end Segmentation.Lr
