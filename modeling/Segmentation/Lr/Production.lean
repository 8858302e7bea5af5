import Segmentation.Lr.Rule

/-!
# Productions

A rule with choices, repetitions and marks stands for plain productions: sequences of steps, of
which each has the marks that hold for it. A repetition becomes a variable of its own, which two
rules share when they repeat the same thing.
-/

namespace Segmentation.Lr

/-- What a step reads. -/
inductive Part where
  | literal (characters : String)
  | token (name : String)
  | variable (name : String)
  deriving DecidableEq, Repr, Hashable

/-- One step of a production, with the marks that hold after it. -/
structure Step where
  part : Part
  rank : Rank := .unsaid
  side : Option Side := none
  shownAs : Option Alias := none
  field : Option String := none
  isUnreserved : Bool := false
  deriving DecidableEq, Repr

/-- The steps of one way to read a variable. -/
structure Phrase where
  steps : List Step
  weight : Int := 0
  deriving DecidableEq, Repr

/-! ## Repetitions -/

/-- The repetitions found so far: what is repeated, and the variable that stands for it. -/
abbrev Repetitions := List (Rule × String)

namespace Rule

/-- The rule with a variable for each repetition in it. -/
def nameRepetitions (owner : String) (found : Repetitions) : Rule → Rule × Repetitions
  | seq first second =>
      let (first, found) := nameRepetitions owner found first
      let (second, found) := nameRepetitions owner found second
      (seq first second, found)
  | either first second =>
      let (first, found) := nameRepetitions owner found first
      let (second, found) := nameRepetitions owner found second
      (either first second, found)
  | many1 item =>
      let (item, found) := nameRepetitions owner found item
      match found.lookup item with
      | some name => (.variable name, found)
      | none =>
          let name := "_" ++ owner ++ "+" ++ toString found.length
          (.variable name, found ++ [(item, name)])
  | ranked rank rule => (nameRepetitions owner found rule).map (ranked rank) id
  | grouped side rule => (nameRepetitions owner found rule).map (grouped side) id
  | weighed weight rule => (nameRepetitions owner found rule).map (weighed weight) id
  | field name rule => (nameRepetitions owner found rule).map (field name) id
  | renamed name rule => (nameRepetitions owner found rule).map (renamed name) id
  | unreserved rule => (nameRepetitions owner found rule).map unreserved id
  | rule => (rule, found)

end Rule

/-- The definitions with a variable for each repetition. -/
def nameRepetitions (definitions : List (String × Rule)) : List (String × Rule) :=
  let (plain, found) :=
    definitions.foldl
      (fun (done, found) (name, rule) =>
        let (rule, found) := rule.nameRepetitions name found
        ((name, rule) :: done, found))
      (([] : List (String × Rule)), ([] : Repetitions))
  plain.reverse ++ found.map fun (item, name) => (name, .either (.seq (.variable name) item) item)

/-! ## Phrases of a rule -/

/-- The marks around a part of a rule. -/
structure Marks where
  rank : Rank := .unsaid
  side : Option Side := none
  shownAs : Option Alias := none
  field : Option String := none
  isUnreserved : Bool := false

/-- The heavier of two weights, whichever its sign. -/
def heavier (left right : Int) : Int :=
  if left.natAbs < right.natAbs then right else left

namespace Phrase

/-- Two phrases one after another. -/
def append (first second : Phrase) : Phrase :=
  ⟨first.steps ++ second.steps, heavier first.weight second.weight⟩

/-- The phrase with another last step. -/
def modifyLast (change : Step → Step) (phrase : Phrase) : Phrase :=
  { phrase with steps := phrase.steps.modify (phrase.steps.length - 1) change }

end Phrase

namespace Rule

/-- The phrases of a rule between the given marks. Inside a production, the strength and the side of
a part hold no longer after its last step; at the end of a production they do. -/
def phrases (marks : Marks) (atEnd : Bool) : Rule → List Phrase
  | nothing => [⟨[], 0⟩]
  | literal characters => [⟨[step (.literal characters)], 0⟩]
  | token name => [⟨[step (.token name)], 0⟩]
  | .variable name => [⟨[step (.variable name)], 0⟩]
  | seq first second =>
      let heads := phrases marks false first
      let tails := phrases marks atEnd second
      heads.flatMap fun head => tails.map head.append
  | either first second => phrases marks atEnd first ++ phrases marks atEnd second
  | many1 item => phrases marks atEnd item
  | ranked rank rule =>
      let inside := phrases { marks with rank } atEnd rule
      if atEnd then inside
      else inside.map (·.modifyLast fun step => { step with rank := marks.rank })
  | grouped side rule =>
      let inside := phrases { marks with side := some side } atEnd rule
      if atEnd then inside
      else inside.map (·.modifyLast fun step => { step with side := marks.side })
  | weighed weight rule =>
      (phrases marks atEnd rule).map fun phrase =>
        { phrase with weight := heavier weight phrase.weight }
  | field name rule => phrases { marks with field := some name } atEnd rule
  | renamed name rule => phrases { marks with shownAs := some name } atEnd rule
  | unreserved rule => phrases { marks with isUnreserved := true } atEnd rule
where
  step (part : Part) : Step :=
    { part
      rank := marks.rank
      side := marks.side
      shownAs := marks.shownAs
      field := marks.field
      isUnreserved := marks.isUnreserved }

end Rule

/-! ## Variables that are replaced -/

/-- A phrase in the place of the step that stood for it. Its last step takes over the marks of that
step that it has not itself. -/
def Phrase.inPlaceOf (replaced : Step) (phrase : Phrase) : Phrase :=
  let named :=
    phrase.steps.map fun step =>
      { step with
        shownAs := replaced.shownAs.or step.shownAs
        field := replaced.field.or step.field
        isUnreserved := replaced.isUnreserved || step.isUnreserved }
  { phrase with steps := named }.modifyLast fun step =>
    { step with
      rank := if step.rank = Rank.unsaid then replaced.rank else step.rank
      side := step.side.or replaced.side }

/-- The phrases that come of a phrase when phrases take the place of a variable in it. -/
def Phrase.replace (name : String) (replacements : List Phrase) (phrase : Phrase) : List Phrase :=
  phrase.steps.foldr
    (fun step tails =>
      let heads :=
        if step.part = .variable name then replacements.map (·.inPlaceOf step)
        else [⟨[step], 0⟩]
      heads.flatMap fun head => tails.map head.append)
    [⟨[], phrase.weight⟩]

/-- The definitions with the phrases of a variable in its place. -/
def inlineVariable (definitions : List (String × List Phrase)) (name : String) :
    List (String × List Phrase) :=
  let replacements := (definitions.lookup name).getD []
  definitions.map fun (owner, phrases) => (owner, phrases.flatMap (·.replace name replacements))

/-- The variables of a grammar with their phrases, of which no two are the same. -/
def Grammar.phrases (grammar : Grammar) : List (String × List Phrase) :=
  let plain :=
    (nameRepetitions grammar.definitions).map fun (name, rule) => (name, rule.phrases {} true)
  let inlined :=
    (grammar.inlined.foldl inlineVariable plain).filter fun (name, _) =>
      !grammar.inlined.contains name
  inlined.map fun (name, phrases) => (name, phrases.eraseDups)

end Segmentation.Lr
