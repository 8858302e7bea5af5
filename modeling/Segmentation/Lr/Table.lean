import Std.Data.HashMap
import Segmentation.Lr.Production

/-!
# Tables of a grammar

The productions of a grammar with numbers in the place of names, and what is known of each variable
before any text is read: the tokens that may begin it, and the variables that may begin it with what
can follow them there.

No variable but the first reads nothing, so that what follows a part of a production begins with the
part after it, if there is one.
-/

namespace Segmentation.Lr

/-! ## Sets of tokens -/

/-- A set of tokens: the token with number `n` is in it when bit `n` is set. -/
abbrev TokenSet := Nat

namespace TokenSet

/-- The set of one token. -/
def singleton (token : Nat) : TokenSet := 1 <<< token

/-- The tokens of two sets. -/
def union (left right : TokenSet) : TokenSet := left ||| right

/-- Whether a token is in the set. -/
def has (tokens : TokenSet) (token : Nat) : Bool := tokens.testBit token

end TokenSet

/-! ## Numbered productions -/

/-- What a step reads, by number. -/
inductive Symbol where
  | token (number : Nat)
  | variable (number : Nat)
  deriving DecidableEq, Repr, Hashable, Inhabited

/-- One step of a numbered production. -/
structure NumberedStep where
  symbol : Symbol
  rank : Rank
  side : Option Side
  shownAs : Option Alias
  field : Option String
  /-- The tokens that may begin what the step reads. -/
  firsts : TokenSet
  deriving Inhabited

/-- A production: a variable, and the steps of one way to read it. -/
structure Production where
  head : Nat
  steps : Array NumberedStep
  weight : Int
  deriving Inhabited

/-- What the first step of a production reads. -/
def Production.first? (production : Production) : Option Symbol :=
  production.steps[0]?.map (·.symbol)

/-- A variable that may stand at the start of another one. What follows it there begins with one of
the given tokens, or, if it may reach the `end` of the other one, with what follows that. -/
structure Opening where
  opener : Nat
  follow : TokenSet
  atEnd : Bool
  deriving Inhabited

/-- What is known of a token. -/
structure TokenInfo where
  name : String
  /-- Whether the token is a fixed word or sign. -/
  isLiteral : Bool
  deriving Inhabited

/-- What is known of a variable. -/
structure VariableInfo where
  name : String
  /-- Whether the variable leaves no node in a tree. -/
  isHidden : Bool
  productions : Array Nat
  openings : Array Opening
  /-- The tokens with which one of its own productions begins. -/
  ownTokens : TokenSet
  deriving Inhabited

/-- The tables of a grammar. -/
structure Table where
  tokens : Array TokenInfo
  nonterminals : Array VariableInfo
  productions : Array Production
  /-- For each token, the productions that begin with it. -/
  beginningWithToken : Array (Array Nat)
  /-- For each variable, the productions that begin with it. -/
  beginningWithVariable : Array (Array Nat)
  orders : List (List Strength)
  deriving Inhabited

namespace Table

/-! ## Numbers of tokens -/

/-- The number of the token at the end of a text. -/
def endOfText : Nat := 0

/-- The number that stands for a reserved word in the place of a name. No text has that token; it is
in a set of tokens to say that names there may be reserved words. -/
def reservedName : Nat := 1

/-- The numbers of tokens, by what they read. -/
abbrev Numbering := Std.HashMap Part Nat

/-- The extra tokens, from number two on, and then the tokens of phrases in the order in which they
come. -/
def numberTokens (extras : List String) (phrases : List (String × List Phrase)) :
    Array TokenInfo × Numbering :=
  let begun : Array TokenInfo × Numbering :=
    extras.foldl
      (fun (tokens, numbering) name =>
        (tokens.push ⟨name, false⟩, numbering.insert (.token name) tokens.size))
      (#[⟨"end", false⟩, ⟨"_reserved", false⟩], ∅)
  phrases.foldl
    (fun found (_, ways) =>
      ways.foldl
        (fun found way =>
          way.steps.foldl
            (fun (tokens, numbering) step =>
              if numbering.contains step.part then (tokens, numbering)
              else
                match step.part with
                | .variable _ => (tokens, numbering)
                | .literal name =>
                    (tokens.push ⟨name, true⟩, numbering.insert step.part tokens.size)
                | .token name =>
                    (tokens.push ⟨name, false⟩, numbering.insert step.part tokens.size))
            found)
        found)
    begun

/-! ## First tokens -/

/-- One round of the search for first tokens: to the tokens known to begin each variable come those
that begin the first parts of its phrases. -/
def growFirsts (numbering : Numbering) (phrases : Array (List Phrase))
    (numbers : Std.HashMap String Nat) (firsts : Array TokenSet) : Array TokenSet :=
  firsts.mapIdx fun index known =>
    (phrases[index]?.getD []).foldl
      (fun known way =>
        match way.steps with
        | [] => known
        | step :: _ =>
            match step.part with
            | .variable name =>
                known.union ((numbers[name]?.bind (firsts[·]?)).getD 0)
            | part =>
                let own := TokenSet.singleton (numbering[part]?.getD 0)
                known.union
                  (if step.isUnreserved then own.union (.singleton reservedName) else own))
      known

/-- The tokens that begin each variable: rounds until nothing is new, and at most as many as there
are variables. -/
def settleFirsts (grow : Array TokenSet → Array TokenSet) : Nat → Array TokenSet → Array TokenSet
  | 0, firsts => firsts
  | rounds + 1, firsts =>
      let next := grow firsts
      if next == firsts then firsts else settleFirsts grow rounds next

/-! ## Openings -/

/-- The variables with which the productions of a variable begin, with what follows them there. -/
def ownOpenings (productions : Array Production) (own : Array Nat) : List Opening :=
  own.toList.filterMap fun number => do
    let production ← productions[number]?
    let step ← production.steps[0]?
    match step.symbol with
    | .token _ => none
    | .variable inner =>
        match production.steps[1]? with
        | some next => some ⟨inner, next.firsts, false⟩
        | none => some ⟨inner, 0, true⟩

/-- All openings of a variable, found by following openings of openings. A variable is followed
again when something new may follow it. -/
def allOpenings (own : Array (List Opening)) :
    Nat → List Opening → Std.HashMap Nat Opening → Std.HashMap Nat Opening
  | 0, _, found => found
  | _, [], found => found
  | budget + 1, opening :: others, found =>
      let known := found[opening.opener]?.getD ⟨opening.opener, 0, false⟩
      let merged : Opening :=
        ⟨opening.opener, known.follow.union opening.follow, known.atEnd || opening.atEnd⟩
      if found.contains opening.opener && merged.follow = known.follow &&
          merged.atEnd = known.atEnd then
        allOpenings own budget others found
      else
        let inner := (own[opening.opener]?.getD []).map fun next =>
          if next.atEnd then (⟨next.opener, merged.follow, merged.atEnd⟩ : Opening) else next
        allOpenings own budget (inner ++ others) (found.insert opening.opener merged)

/-! ## The tables -/

/-- The tables of a grammar. -/
def ofGrammar (grammar : Grammar) : Table :=
  let phrases := grammar.phrases
  let (tokens, numbering) := numberTokens grammar.extras phrases
  let names := phrases.map (·.1)
  let numbers : Std.HashMap String Nat :=
    names.zipIdx.foldl (fun known (name, index) => known.insert name index) ∅
  let ways := (phrases.map (·.2)).toArray
  let firsts :=
    settleFirsts (growFirsts numbering ways numbers) names.length (.replicate names.length 0)
  let numbered (step : Step) : NumberedStep :=
    let symbol : Symbol :=
      match step.part with
      | .variable name => .variable (numbers[name]?.getD names.length)
      | part => .token (numbering[part]?.getD 0)
    let opening :=
      match symbol with
      | .variable index => firsts[index]?.getD 0
      | .token index =>
          if step.isUnreserved then (TokenSet.singleton index).union (.singleton reservedName)
          else .singleton index
    { symbol
      rank := step.rank
      side := step.side
      shownAs := step.shownAs
      field := step.field
      firsts := opening }
  let productions : Array Production :=
    (phrases.zipIdx.flatMap fun ((_, ways), head) =>
      ways.map fun way =>
        ({ head, steps := (way.steps.map numbered).toArray, weight := way.weight } :
          Production)).toArray
  let numbers := List.range productions.size
  let grouped (size : Nat) (key : Production → Option Nat) : Array (Array Nat) :=
    numbers.foldl
      (fun groups number =>
        match productions[number]?.bind key with
        | some index => groups.modify index (·.push number)
        | none => groups)
      (.replicate size #[])
  let ownProductions := grouped names.length fun production => some production.head
  let own := ownProductions.map (ownOpenings productions)
  let infos : Array VariableInfo :=
    (names.zipIdx.map fun (name, index) =>
      let mine := ownProductions[index]?.getD #[]
      let found :=
        allOpenings own (names.length * names.length + 1000) [⟨index, 0, true⟩] ∅
      { name
        isHidden := name.startsWith "_" || grammar.kinds.contains name
        productions := mine
        openings := (found.toList.map (·.2)).toArray
        ownTokens := mine.foldl
          (fun known number =>
            match productions[number]?.bind (·.steps[0]?) with
            | some step =>
                match step.symbol with
                | .token _ => known.union step.firsts
                | .variable _ => known
            | none => known)
          0 : VariableInfo }).toArray
  { tokens, productions
    nonterminals := infos
    orders := grammar.orders
    beginningWithToken := grouped tokens.size fun production =>
      match production.first? with
      | some (.token index) => some index
      | _ => none
    beginningWithVariable := grouped names.length fun production =>
      match production.first? with
      | some (.variable index) => some index
      | _ => none }

end Table

end Segmentation.Lr
