import Segmentation.Lr.Table

/-!
# The automaton of a grammar

A state holds the productions that may be under way, each with how far it was read and with the
tokens that may follow it. States are made when they are first reached, because a text reaches few
of the states that a grammar has.

Where a token lets a production end and lets another one go on, the stronger one is taken; of two
that are equally strong, the one that ends is taken if it groups to the left, and the one that goes
on if it groups to the right. Where that decides nothing, both are followed.
-/

namespace Segmentation.Lr

/-- A production that was read up to the dot, with the tokens that may follow it. -/
structure Item where
  production : Nat
  dot : Nat
  follow : TokenSet
  deriving DecidableEq, Repr, Hashable, Inhabited

/-- A state of the automaton. -/
structure State where
  /-- The productions of which something was read. -/
  items : Array Item
  /-- For each variable, the tokens that may follow it where it may begin now; none where it may
  not begin. -/
  predicted : Array TokenSet
  /-- The tokens that some production goes on with. -/
  shifts : TokenSet
  /-- The tokens with which a text may go on. -/
  expected : TokenSet
  deriving Inhabited

/-- The states reached so far, with the moves between them. -/
structure Automaton where
  states : Array State := #[]
  numbers : Std.HashMap (Array Item) Nat := ∅
  moves : Std.HashMap (Nat × Symbol) Nat := ∅

/-- What a token lets happen in a state: productions that end, and whether it is taken itself. -/
structure Moves where
  reductions : List Nat
  shift : Bool

namespace Table

/-! ## Items -/

/-- The step after the dot. -/
def next? (table : Table) (item : Item) : Option NumberedStep := do
  let production ← table.productions[item.production]?
  production.steps[item.dot]?

/-- What the step after the dot reads. -/
def nextSymbol? (table : Table) (item : Item) : Option Symbol :=
  (table.next? item).map (·.symbol)

/-- The step before the dot. -/
def previous? (table : Table) (item : Item) : Option NumberedStep :=
  if item.dot = 0 then none
  else do
    let production ← table.productions[item.production]?
    production.steps[item.dot - 1]?

/-- The variable that an item is about. -/
def headOf (table : Table) (item : Item) : Nat :=
  (table.productions[item.production]?.map (·.head)).getD 0

/-- The items with which the reading of a text begins. -/
def startItems (table : Table) : Array Item :=
  ((table.nonterminals[0]?.map (·.productions)).getD #[]).map fun production =>
    ⟨production, 0, .singleton endOfText⟩

/-- The variables that may begin where an item stands, added to those that are known. -/
def predict (table : Table) (predicted : Array TokenSet) (item : Item) : Array TokenSet :=
  match table.nextSymbol? item with
  | some (.variable index) =>
      let after :=
        match table.next? { item with dot := item.dot + 1 } with
        | some step => step.firsts
        | none => item.follow
      ((table.nonterminals[index]?.map (·.openings)).getD #[]).foldl
        (fun predicted opening =>
          predicted.modify opening.opener fun known =>
            (known.union opening.follow).union (if opening.atEnd then after else 0))
        predicted
  | _ => predicted

/-- The state with the given items. -/
def stateOf (table : Table) (items : Array Item) : State :=
  let predicted := items.foldl table.predict (.replicate table.nonterminals.size 0)
  let fromItems :=
    items.foldl
      (fun known item =>
        match table.next? item with
        | some step =>
            match step.symbol with
            | .token _ => known.union step.firsts
            | .variable _ => known
        | none => known)
      0
  let shifts :=
    (predicted.zip table.nonterminals).foldl
      (fun known (follow, info) => if follow = 0 then known else known.union info.ownTokens)
      fromItems
  let ends :=
    items.foldl
      (fun known item => if (table.next? item).isNone then known.union item.follow else known) 0
  { items, predicted, shifts, expected := shifts.union ends }

/-- The items after a symbol was read in a state. -/
def itemsAfter (table : Table) (state : State) (symbol : Symbol) : Array Item :=
  let kept :=
    state.items.filterMap fun item =>
      if table.nextSymbol? item = some symbol then
        some { item with dot := item.dot + 1 }
      else none
  let beginning :=
    match symbol with
    | .token index => table.beginningWithToken[index]?.getD #[]
    | .variable index => table.beginningWithVariable[index]?.getD #[]
  let begun :=
    beginning.filterMap fun number => do
      let production ← table.productions[number]?
      let follow ← state.predicted[production.head]?
      if follow = 0 then none else some ⟨number, 1, follow⟩
  kept ++ begun

/-! ## Strength -/

/-- Whether an entry of an order speaks of a rank, or of one of some variables. -/
def speaksOf (table : Table) (rank : Rank) (heads : List Nat) : Strength → Bool
  | .rank name => rank = .named name
  | .variable name => heads.any fun head => (table.nonterminals[head]?.map (·.name)) == some name

/-- How an order compares two ranks with the variables that they belong to, if it speaks of both.
The entries are looked at from the strongest on. -/
def compareIn (isLeft isRight : Strength → Bool) (sawLeft sawRight : Bool) :
    List Strength → Option Ordering
  | [] => none
  | entry :: others =>
      if isLeft entry then
        if sawRight then some .lt else compareIn isLeft isRight true sawRight others
      else if isRight entry then
        if sawLeft then some .gt else compareIn isLeft isRight sawLeft true others
      else compareIn isLeft isRight sawLeft sawRight others

/-- How strong a rank is against another one. Numbers are compared as such, and with a rank that is
not said, which counts as zero; all else is compared by the orders of the grammar. -/
def compareRanks (table : Table) (left : Rank) (leftHeads : List Nat) (right : Rank)
    (rightHeads : List Nat) : Ordering :=
  let compared :=
    table.orders.findSome?
      (compareIn (table.speaksOf left leftHeads) (table.speaksOf right rightHeads) false false)
  let byOrders := compared.getD .eq
  match left, right with
  | .level l, .level r => if l = 0 && r = 0 then byOrders else compare l r
  | .level l, .unsaid => if l = 0 then byOrders else compare l 0
  | .unsaid, .level r => if r = 0 then byOrders else compare 0 r
  | _, _ => byOrders

/-- The productions that end at a token, with what is known of their strength: their rank, their
variables, and the sides to which they group. -/
structure Endings where
  productions : List Nat := []
  rank : Rank := .unsaid
  heads : List Nat := []
  sides : List (Option Side) := []

/-- The endings with one more item: a stronger one takes the place of the others, and a weaker one
is left out. -/
def addEnding (table : Table) (known : Endings) (item : Item) : Endings :=
  let previous := table.previous? item
  let rank := (previous.map (·.rank)).getD .unsaid
  let side := previous.bind (·.side)
  let head := table.headOf item
  let alone : Endings := ⟨[item.production], rank, [head], [side]⟩
  if known.productions.isEmpty then alone
  else
    match table.compareRanks rank [head] known.rank known.heads with
    | .gt => alone
    | .lt => known
    | .eq =>
        ⟨known.productions ++ [item.production], rank, head :: known.heads, side :: known.sides⟩

/-- What a token lets happen in a state. -/
def moves (table : Table) (state : State) (token : Nat) : Moves :=
  let endings :=
    state.items.foldl
      (fun known item =>
        if item.follow.has token && (table.next? item).isNone then table.addEnding known item
        else known)
      ({} : Endings)
  let shift := state.shifts.has token
  if endings.productions.isEmpty || !shift then ⟨endings.productions, shift⟩
  else
    let orderings :=
      (state.items.filter fun item =>
        item.dot != 0 && ((table.next? item).map (·.firsts.has token)).getD false).map fun item =>
          table.compareRanks ((table.previous? item).map (·.rank) |>.getD .unsaid)
            [table.headOf item] endings.rank endings.heads
    let stronger := orderings.contains .gt
    let weaker := orderings.contains .lt
    if stronger && !weaker then ⟨[], true⟩
    else if weaker && !stronger then ⟨endings.productions, false⟩
    else if stronger then ⟨endings.productions, true⟩
    else if endings.sides.all (· == some .left) then ⟨endings.productions, false⟩
    else if endings.sides.all (· == some .right) then ⟨[], true⟩
    else ⟨endings.productions, true⟩

end Table

namespace Automaton

/-- The number of the state with the given items, which is made if it is new. -/
def enter (table : Table) (items : Array Item) : StateM Automaton Nat := do
  match (← get).numbers[items]? with
  | some number => return number
  | none =>
      modifyGet fun automaton =>
        let number := automaton.states.size
        (number,
          { automaton with
            states := automaton.states.push (table.stateOf items)
            numbers := automaton.numbers.insert items number })

/-- The state with the given number. -/
def state (number : Nat) : StateM Automaton State := do
  return (← get).states[number]?.getD default

/-- The state after a symbol was read in a state, unless nothing goes on with it. -/
def move (table : Table) (number : Nat) (symbol : Symbol) : StateM Automaton (Option Nat) := do
  match (← get).moves[(number, symbol)]? with
  | some target => return some target
  | none =>
      let items := table.itemsAfter (← state number) symbol
      if items.isEmpty then return none
      else
        let target ← enter table items
        modify fun automaton =>
          { automaton with moves := automaton.moves.insert (number, symbol) target }
        return some target

/-- Whether two states hold the same productions read equally far. -/
def sameItems (left right : State) : Bool :=
  left.items.map (fun item => (item.production, item.dot)) ==
    right.items.map fun item => (item.production, item.dot)

/-- The state for two that hold the same productions: what may follow in one of them may follow in
it. Nothing, where they hold different ones. -/
def join (table : Table) (left right : Nat) : StateM Automaton (Option Nat) := do
  if left = right then return some left
  else
    let first ← state left
    let second ← state right
    if sameItems first second then
      let items :=
        (first.items.zip second.items).map fun (one, other) =>
          { one with follow := one.follow.union other.follow }
      return some (← enter table items)
    else return none

end Automaton

end Segmentation.Lr
