import Segmentation.Script.Grammar.Classes
import Segmentation.Script.Grammar.Expressions
import Segmentation.Script.Grammar.Markup
import Segmentation.Script.Grammar.Statements
import Segmentation.Script.Grammar.Types

/-!
# The script grammars

The grammar of each dialect: the definitions of its variables, and the orders that say which of two
rules is the stronger one where a text could be read by both.
-/

namespace Segmentation.Script.Dialect

open Lr (Strength)

variable (dialect : Dialect)

/-- The parameters of functions without types. -/
def plainParameters : Definitions :=
  [("_call_signature", .field "parameters" (the "formal_parameters")),
    ("_formal_parameter", .either (the "pattern") (the "assignment_pattern"))]

/-- All definitions. A whole source comes first. -/
def definitions : Definitions :=
  statements ++ simpleStatements ++ dialect.variableDeclarations ++ functionDeclarations ++
    dialect.declarations ++ control ++ dialect.leaving ++ dialect.exchangedNames ++
    dialect.imports ++ dialect.exports ++ dialect.expressionKinds ++ dialect.names ++ literals ++
    collections ++ dialect.patterns ++ functionValues ++ parameters ++ dialect.access ++
    dialect.operators ++ dialect.classes ++ dialect.decorators ++
    (if dialect.isTyped then typedMembers ++ types else plainMembers ++ plainParameters) ++
    (if dialect.hasMarkup then dialect.markup else markupNames)

/-- The variables that are replaced by what they stand for. -/
def inlined : List String :=
  let signatures := if dialect.isTyped then ["_type_identifier", "_jsx_start_opening_element"]
    else ["_call_signature", "_formal_parameter"]
  ["_expressions", "_identifier", "_reserved_identifier", "_jsx_attribute", "_jsx_element_name",
    "_jsx_child", "_jsx_element", "_jsx_attribute_name", "_jsx_attribute_value",
    "_jsx_identifier", "_lhs_expression"] ++ signatures

/-- The variables that only sort others. -/
def kinds : List String :=
  ["statement", "declaration", "expression", "primary_expression", "pattern", "type",
    "primary_type"]

/-- Orders between expressions, in every dialect. -/
def plainOrders : List (List Strength) :=
  [[.rank "member", .rank "template_call", .rank "call", .variable "update_expression",
      .rank "unary_void", .rank "binary_exp", .rank "binary_times", .rank "binary_plus",
      .rank "binary_shift", .rank "binary_compare", .rank "binary_relation",
      .rank "binary_equality", .rank "bitwise_and", .rank "bitwise_xor", .rank "bitwise_or",
      .rank "logical_and", .rank "logical_or", .rank "ternary", .variable "sequence_expression",
      .variable "arrow_function"],
    [.rank "assign", .variable "primary_expression"],
    [.rank "member", .rank "template_call", .rank "new", .rank "call", .variable "expression"],
    [.rank "declare", .rank "literal"],
    [.variable "primary_expression", .variable "statement_block", .rank "object"],
    [.variable "meta_property", .variable "import"],
    [.variable "import_statement", .variable "import"],
    [.variable "export_statement", .variable "primary_expression"],
    [.variable "lexical_declaration", .variable "primary_expression"]]

/-- Orders between types and expressions. -/
def typedOrders : List (List Strength) :=
  let pair (stronger weaker : String) := [Strength.variable stronger, .variable weaker]
  [[.rank "call", .rank "instantiation", .rank "unary", .rank "binary",
      .variable "await_expression", .variable "arrow_function"],
    [.rank "extends", .rank "instantiation"],
    [.variable "intersection_type", .variable "union_type", .variable "conditional_type",
      .variable "function_type", .rank "binary", .variable "type_predicate",
      .variable "readonly_type"],
    pair "mapped_type_clause" "primary_expression",
    pair "accessibility_modifier" "primary_expression",
    [.rank "unary_void", .variable "expression"],
    pair "extends_clause" "primary_expression",
    [.rank "unary", .rank "assign"],
    [.rank "declare", .variable "expression"],
    pair "predefined_type" "unary_expression",
    pair "type" "flow_maybe_type",
    [.variable "tuple_type", .variable "array_type", .variable "pattern", .variable "type"],
    pair "readonly_type" "pattern",
    pair "readonly_type" "primary_expression",
    [.variable "type_query", .variable "subscript_expression", .variable "expression"],
    pair "type_query" "_type_query_subscript_expression",
    [.variable "nested_type_identifier", .variable "generic_type", .variable "primary_type",
      .variable "lookup_type", .variable "index_type_query", .variable "type"],
    [.variable "as_expression", .variable "satisfies_expression", .variable "primary_type"],
    pair "_type_query_member_expression" "member_expression",
    pair "_type_query_member_expression" "primary_expression",
    pair "_type_query_subscript_expression" "subscript_expression",
    pair "_type_query_subscript_expression" "primary_expression",
    pair "_type_query_call_expression" "primary_expression",
    pair "_type_query_instantiation_expression" "primary_expression",
    pair "type_query" "primary_expression",
    pair "override_modifier" "primary_expression",
    pair "decorator_call_expression" "decorator",
    pair "literal_type" "pattern",
    pair "predefined_type" "pattern",
    pair "call_expression" "_type_query_call_expression",
    pair "call_expression" "_type_query_call_expression_in_type_annotation",
    pair "new_expression" "primary_expression",
    pair "meta_property" "primary_expression",
    pair "construct_signature" "_property_name"]

/-- The grammar of a dialect. -/
def grammar : Lr.Grammar where
  definitions := dialect.definitions
  inlined := dialect.inlined
  kinds
  extras := ["comment", "html_comment"]
  orders := if dialect.isTyped then plainOrders ++ typedOrders else plainOrders

end Segmentation.Script.Dialect
