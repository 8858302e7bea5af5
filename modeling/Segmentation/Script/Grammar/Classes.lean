import Segmentation.Script.Dialect

/-!
# Classes

Classes as declarations and as values, their members, and decorators.
-/

namespace Segmentation.Script.Dialect

open Lr.Rule

variable (dialect : Dialect)

/-! ## Members -/

/-- How a member may be marked in front of its name as one that does something of its own. -/
def accessMark : Rule :=
  optional (oneOf ["get", "set", "*"])

/-- The members of a class in an untyped grammar. -/
def plainMembers : Definitions :=
  let decorators := many (field "decorator" (the "decorator"))
  let fixedMark := optional (any ["static", .renamed ⟨"static get", false⟩ (token "_static_get")])
  let member (name : String) := field "member" (the name)
  [("class_body", all ["\x7b", many (any [
      all [member "method_definition", optional ";"],
      all [member "field_definition", semicolon], member "class_static_block", ";"]), "\x7d"]),
    ("field_definition", all [decorators, fixedMark, field "property" (the "_property_name"),
      optional (the "_initializer")]),
    ("method_definition", all [decorators, fixedMark, optional "async", accessMark,
      field "name" (the "_property_name"), field "parameters" (the "formal_parameters"),
      field "body" (the "statement_block")])]

/-- The members of a class in a typed grammar. -/
def typedMembers : Definitions :=
  let decorators := many (field "decorator" (the "decorator"))
  let access := the "accessibility_modifier"
  let override_ := optional (the "override_modifier")
  let readonly := optional "readonly"
  let name := all [field "name" (the "_property_name"), optional "?", the "_call_signature"]
  let marks := all [optional access, optional "static", override_, readonly, optional "async",
    accessMark]
  [("class_body", all ["\x7b", many (any [
      all [decorators, the "method_definition", optional semicolon],
      all [the "method_signature",
        any [token "_function_signature_automatic_semicolon", ","]],
      the "class_static_block",
      all [any [the "abstract_method_signature", the "index_signature", the "method_signature",
        the "public_field_definition"], any [insertedSemicolon, ";", ","]],
      ";"]), "\x7d"]),
    ("public_field_definition", all [decorators,
      optional (any [all ["declare", optional access], all [access, optional "declare"]]),
      any [all [optional "static", override_, readonly], all [optional "abstract", readonly],
        all [readonly, optional "abstract"], optional "accessor"],
      field "name" (the "_property_name"), optional (oneOf ["?", "!"]),
      field "type" (optional (the "type_annotation")), optional (the "_initializer")]),
    ("method_definition",
      leftward (all [marks, name, field "body" (the "statement_block")])),
    ("method_signature", all [marks, name]),
    ("abstract_method_signature", all [optional access, "abstract", override_, accessMark, name]),
    ("accessibility_modifier", oneOf ["public", "private", "protected"]),
    ("override_modifier", "override")]

/-! ## Classes -/

/-- Classes. -/
def classes : Definitions :=
  let decorators := many (field "decorator" (the "decorator"))
  let name := if dialect.isTyped then the "_type_identifier" else identifier
  let type := if dialect.isTyped then field "type_parameters" (optional (the "type_parameters"))
    else nothing
  let rest := all [type, optional (the "class_heritage"), field "body" (the "class_body")]
  let named := all [decorators, "class", field "name" name, rest, optional insertedSemicolon]
  let heritage := if dialect.isTyped then
      any [all [the "extends_clause", optional (the "implements_clause")], the "implements_clause"]
    else all ["extends", the "expression"]
  [("class", ranked "literal" (all [decorators, "class", field "name" (optional name), rest])),
    ("class_declaration", if dialect.isTyped then grouped .left (ranked "declare" named)
      else ranked "declare" named),
    ("abstract_class_declaration", ranked "declare" (all [decorators, "abstract", "class",
      field "name" name, rest])),
    ("class_heritage", heritage),
    ("extends_clause", all ["extends", listed (the "_extends_clause_single")]),
    ("_extends_clause_single", ranked "extends" (all [field "value" (the "expression"),
      field "type_arguments" (optional (the "type_arguments"))])),
    ("implements_clause", all ["implements", listed (the "type")]),
    ("class_static_block", all ["static", optional insertedSemicolon,
      field "body" (the "statement_block")])]

/-- Decorators: a name, perhaps of a member, and perhaps called. -/
def decorators : Definitions :=
  let base := any [identifier, shownAs "member_expression" (the "decorator_member_expression")]
  let called := shownAs "call_expression" (the "decorator_call_expression")
  let closed := if dialect.isTyped
    then [shownAs "parenthesized_expression" (the "decorator_parenthesized_expression")] else []
  let type := if dialect.isTyped
    then field "type_arguments" (optional (the "type_arguments")) else nothing
  [("decorator", all ["@", any ([base, called] ++ closed)]),
    ("decorator_member_expression", ranked "member" (all [field "object" base, ".",
      field "property" (shownAs "property_identifier" identifier)])),
    ("decorator_call_expression", ranked "call" (all [field "function" base, type,
      field "arguments" (the "arguments")])),
    ("decorator_parenthesized_expression", all ["(", any [base, called], ")"])]

end Segmentation.Script.Dialect
