import Segmentation.Text.Basic

/-!
# Languages

How a source is cut depends on how its language delimits blocks, and the language is known from the
suffix of the file's path alone. The registry lists the suffixes in alphabetical order.
-/

namespace Segmentation

/-- How a language delimits its blocks. -/
inductive Family where
  | brace
  | indentation
  | unknown
  deriving DecidableEq, Repr

namespace Family

/-- The name of a family in answers. -/
def label : Family → String
  | brace => "brace-delimited"
  | indentation => "indentation-delimited"
  | unknown => "unknown"

/-- The family with the given name. -/
def ofLabel? (label : String) : Option Family :=
  [brace, indentation, unknown].find? (·.label == label)

/-- The words that open a comment line in languages of the family. -/
def commentMarkers : Family → List String
  | brace => ["//", "/*", "*"]
  | indentation => ["#"]
  | unknown => ["//", "#", "/*", "*"]

end Family

/-- The grammars of script sources. They share their statements and expressions; the typed ones add
type annotations, and `tsx` and `javascript` read an opening angle bracket as the start of
markup. -/
inductive Grammar where
  | javascript
  | typescript
  | tsx
  deriving DecidableEq, Repr

namespace Grammar

/-- The name of a grammar in answers. -/
def label : Grammar → String
  | javascript => "javascript"
  | typescript => "typescript"
  | tsx => "tsx"

/-- The grammar with the given name. -/
def ofLabel? (label : String) : Option Grammar :=
  [javascript, typescript, tsx].find? (·.label == label)

end Grammar

/-- How the blocks of a language are found: by a grammar, by indentation, or not at all. -/
inductive Strategy where
  | braces (grammar : Grammar)
  | indented
  | none
  deriving DecidableEq, Repr

/-- A language as far as cutting its sources is concerned. -/
structure Language where
  name : String
  strategy : Strategy
  deriving DecidableEq, Repr

namespace Language

/-- The family that the language belongs to. -/
def family (language : Language) : Family :=
  match language.strategy with
  | .braces _ => .brace
  | .indented => .indentation
  | .none => .unknown

/-- The grammar that reads sources of the language, for a language with braces. -/
def grammar? (language : Language) : Option Grammar :=
  match language.strategy with
  | .braces grammar => some grammar
  | _ => Option.none

/-- The words that open a comment line in the language. -/
def commentMarkers (language : Language) : List String :=
  language.family.commentMarkers

/-- The language of files whose suffix is not registered. -/
def unknown : Language := ⟨"unknown", .none⟩

/-- The registered suffixes with their languages, in alphabetical order. -/
def registry : List (String × Language) :=
  let script : Language := ⟨"javascript", .braces .javascript⟩
  let typed : Language := ⟨"typescript", .braces .typescript⟩
  let python : Language := ⟨"python", .indented⟩
  [(".cjs", script), (".cts", typed), (".js", script), (".jsx", script), (".mjs", script),
    (".mts", typed), (".py", python), (".pyi", python), (".pyw", python), (".ts", typed),
    (".tsx", ⟨"typescript", .braces .tsx⟩)]

/-- The language of files with the given suffix. Case is ignored for ASCII letters, which decides
every case: no other character has a registered suffix among its lower-case forms. -/
def ofSuffix (suffix : Text) : Language :=
  match registry.find? fun entry => entry.1.toList == suffix.map Char.toLower with
  | some (_, language) => language
  | Option.none => unknown

end Language

end Segmentation
