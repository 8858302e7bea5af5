import Segmentation.Toml.Value

/-!
# TOML documents

A document is a table that is built up member by member. Names with dots and headers open tables on
the way; which tables may still be opened or changed is kept beside the members: a table that was
declared may not be declared again, and a value that was written as a whole may not be changed.
-/

namespace Segmentation.Toml

/-- The names that lead from the root of a document to a value. -/
abbrev Key := List Text

/-- A key as it is shown in messages. -/
def Key.shown (key : Key) : Text :=
  let names := joined ", " (key.map Text.quoted)
  '(' :: (if key.length = 1 then names ++ [','] else names) ++ [')']

/-- What is wrong with a document. -/
inductive Problem where
  | invalidStatement
  | expectedLineEnd
  | unclosedHeader
  | unclosedArrayHeader
  | declaredTwice (key : Key)
  | immutable (key : Key)
  | redefined (key : Key)
  | overwritten
  | duplicateInline (name : Text)
  | expectedEquals
  | invalidKey
  | unclosedArray
  | unclosedTable
  | strayBackslash
  | invalidHex
  | notScalar
  | unterminated
  | expectedMark (mark : String)
  | illegalCharacter (character : Char)
  | invalidCharacter (character : Char)
  | invalidMoment
  | invalidValue
  /-- An integer has so many digits. -/
  | tooLong (digits : Nat)
  deriving DecidableEq, Repr

/-- The wording of a problem. -/
def Problem.message : Problem → Text
  | invalidStatement => "Invalid statement".toList
  | expectedLineEnd => "Expected newline or end of document after a statement".toList
  | unclosedHeader => "Expected ']' at the end of a table declaration".toList
  | unclosedArrayHeader => "Expected ']]' at the end of an array declaration".toList
  | declaredTwice key => "Cannot declare ".toList ++ key.shown ++ " twice".toList
  | immutable key => "Cannot mutate immutable namespace ".toList ++ key.shown
  | redefined key => "Cannot redefine namespace ".toList ++ key.shown
  | overwritten => "Cannot overwrite a value".toList
  | duplicateInline name => "Duplicate inline table key ".toList ++ name.quoted
  | expectedEquals => "Expected '=' after a key in a key/value pair".toList
  | invalidKey => "Invalid initial character for a key part".toList
  | unclosedArray => "Unclosed array".toList
  | unclosedTable => "Unclosed inline table".toList
  | strayBackslash => "Unescaped '\\' in a string".toList
  | invalidHex => "Invalid hex value".toList
  | notScalar => "Escaped character is not a Unicode scalar value".toList
  | unterminated => "Unterminated string".toList
  | expectedMark mark => "Expected ".toList ++ Text.quoted mark.toList
  | illegalCharacter character => "Illegal character ".toList ++ Text.quoted [character]
  | invalidCharacter character => "Found invalid character ".toList ++ Text.quoted [character]
  | invalidMoment => "Invalid date or datetime".toList
  | invalidValue => "Invalid value".toList
  | tooLong digits => tooLongMessage digits

namespace Members

/-- The members with the value of one replaced, which keeps its place. -/
def replace (name : Text) (value : Value) (members : Members) : Members :=
  members.map fun member => if member.1 == name then (name, value) else member

/-- Changes the table to which names lead. Tables that are missing on the way are made; with
`throughArrays`, an array of tables stands for its last one. -/
def change (throughArrays : Bool) (update : Members → Except Problem Members) :
    Key → Members → Except Problem Members
  | [], members => update members
  | name :: path, members =>
      match members.lookup name with
      | none => do
          let inner ← change throughArrays update path []
          return members ++ [(name, .table inner)]
      | some (.table inner) => do
          let inner ← change throughArrays update path inner
          return replace name (.table inner) members
      | some (.array items) =>
          match throughArrays, items.getLast? with
          | true, some (.table inner) => do
              let inner ← change throughArrays update path inner
              return replace name (.array (items.dropLast ++ [.table inner])) members
          | _, _ => .error .overwritten
      | some _ => .error .overwritten

/-- The members with one more; a name that is taken is a problem. -/
def add (name : Text) (value : Value) (taken : Problem) (members : Members) :
    Except Problem Members :=
  if (members.lookup name).isSome then .error taken else .ok (members ++ [(name, value)])

/-- The members with an empty table added to the array of the given name. -/
def addTable (name : Text) (members : Members) : Except Problem Members :=
  match members.lookup name with
  | none => .ok (members ++ [(name, .array [.table []])])
  | some (.array items) => .ok (replace name (.array (items ++ [.table []])) members)
  | some _ => .error .overwritten

end Members

/-- Whether a value was written as a whole, in brackets or braces. -/
def Value.isCompound : Value → Bool
  | .array _ | .table _ => true
  | _ => false

/-- A document while it is read. -/
structure Document where
  members : Members := []
  /-- The tables that may not be declared by a header any more. -/
  declared : List Key := []
  /-- The values that may not be changed, nor anything in them. -/
  frozen : List Key := []
  /-- The tables that count as declared from the next header on. -/
  pending : List Key := []

namespace Document

/-- Whether a key leads to or into a value that may not be changed. -/
def isFrozen (document : Document) (key : Key) : Bool :=
  document.frozen.any (·.isPrefixOf key)

/-- Whether the table of a key was declared. -/
def isDeclared (document : Document) (key : Key) : Bool :=
  document.declared.contains key

/-- The document in front of a header: what was opened by names with dots counts as declared. -/
def closeSection (document : Document) : Document :=
  { document with declared := document.pending ++ document.declared, pending := [] }

/-- Opens the table of a header. -/
def openTable (document : Document) (key : Key) : Except Problem Document := do
  if document.isDeclared key || document.isFrozen key then throw (.declaredTwice key)
  let members ← Members.change true .ok key document.members
  return { document with members, declared := key :: document.declared }

/-- Adds a table to the array of a header. What was declared inside the table before may be declared
again. -/
def openArrayTable (document : Document) (key : Key) : Except Problem Document := do
  if document.isFrozen key then throw (.immutable key)
  let outside (other : Key) : Bool := !key.isPrefixOf other
  let members ←
    Members.change true (Members.addTable (key.getLastD [])) key.dropLast document.members
  return { document with
    members
    declared := key :: document.declared.filter outside
    frozen := document.frozen.filter outside }

/-- The keys of the tables that the names of a member open on their way. -/
def openedBy (header key : Key) : List Key :=
  (List.range key.length).tail.map fun count => header ++ key.take count

/-- Adds a member to the table of the header. -/
def add (document : Document) (header key : Key) (value : Value) : Except Problem Document := do
  let opened := openedBy header key
  match opened.find? document.isDeclared with
  | some clash => throw (.redefined clash)
  | none => pure ()
  let parent := header ++ key.dropLast
  if document.isFrozen parent then throw (.immutable parent)
  let members ←
    Members.change true (Members.add (key.getLastD []) value .overwritten) parent document.members
  return { document with
    members
    pending := opened ++ document.pending
    frozen := if value.isCompound then (header ++ key) :: document.frozen else document.frozen }

/-- Adds a member to a table that is written in braces. Arrays in it do not stand for their last
tables. -/
def addInline (document : Document) (key : Key) (value : Value) : Except Problem Document := do
  if document.isFrozen key then throw (.immutable key)
  let name := key.getLastD []
  let members ←
    Members.change false (Members.add name value (.duplicateInline name)) key.dropLast
      document.members
  return { document with
    members
    frozen := if value.isCompound then key :: document.frozen else document.frozen }

end Document

end Segmentation.Toml
