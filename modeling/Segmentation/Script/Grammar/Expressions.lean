import Segmentation.Script.Dialect

/-!
# Expressions

Values, the operators between them, and the patterns that take values apart.
-/

namespace Segmentation.Script.Dialect

open Lr.Rule

variable (dialect : Dialect)

/-! ## Kinds of expressions -/

/-- The kinds of expressions. In a typed grammar without markup, an angle bracket in the place of a
value opens a type. -/
def expressionKinds : Definitions :=
  let typed := if dialect.isTyped then
      ["as_expression", "satisfies_expression", "instantiation_expression", "internal_module"]
    else []
  let angled := if dialect.hasMarkup then ["_jsx_element"] else ["type_assertion"]
  let plain := ["primary_expression", "assignment_expression", "augmented_assignment_expression",
    "await_expression", "unary_expression", "binary_expression", "ternary_expression",
    "update_expression", "new_expression", "yield_expression"]
  let primary := ["subscript_expression", "member_expression", "parenthesized_expression",
    "_identifier", "this", "super", "string", "template_string", "regex", "true", "false", "null",
    "object", "array", "function_expression", "arrow_function", "generator_function", "class",
    "meta_property", "call_expression"]
  let asserted := if dialect.isTyped then ["non_null_expression"] else []
  [("expression", any ((typed ++ angled ++ plain).map the)),
    ("primary_expression", any ((primary ++ asserted).map the ++
      [token "number", shownAs "identifier" (the "_reserved_identifier")])),
    ("_expressions", any [the "expression", the "sequence_expression"]),
    ("sequence_expression", rightward (listed (the "expression")))]

/-! ## Names and literals -/

/-- Words that are names where they do not open something else. -/
def nameWords : List String :=
  let plain := ["get", "set", "async", "static", "export", "let"]
  if dialect.isTyped then
    ["declare", "namespace", "type", "public", "private", "protected", "override", "readonly",
      "module", "any", "number", "boolean", "string", "symbol", "object", "new"] ++ plain
  else "await" :: plain

/-- Names. -/
def names : Definitions :=
  let plain := any [identifier, the "_reserved_identifier"]
  [("_identifier", any [the "undefined", identifier]),
    ("_reserved_identifier", oneOf dialect.nameWords),
    ("undefined", "undefined"),
    ("this", "this"),
    ("super", "super"),
    ("true", "true"),
    ("false", "false"),
    ("null", "null"),
    ("_property_name", unreserved (any [shownAs "property_identifier" plain,
      token "private_property_identifier", the "string", token "number",
      the "computed_property_name"])),
    ("computed_property_name", all ["[", the "expression", "]"]),
    ("meta_property", any [all ["new", ".", "target"], all ["import", ".", "meta"]])]

/-- Strings, templates, patterns and numbers. -/
def literals : Definitions :=
  let quoted (mark fragment : String) := all [.literal mark,
    many (any [shownAs "string_fragment" (token fragment), token "escape_sequence"]),
    .literal mark]
  [("string", any [quoted "\"" "unescaped_double_string_fragment",
      quoted "'" "unescaped_single_string_fragment"]),
    ("template_string", all ["\x60",
      many (any [shownAs "string_fragment" (token "_template_chars"), token "escape_sequence",
        the "template_substitution"]), "\x60"]),
    ("template_substitution", all ["$\x7b", the "_expressions", "\x7d"]),
    ("regex", all ["/", field "pattern" (token "regex_pattern"), token "_regex_end",
      optional (field "flags" (token "regex_flags"))])]

/-! ## Objects and arrays -/

/-- Objects and arrays as values. -/
def collections : Definitions :=
  let plainName := any [identifier, the "_reserved_identifier"]
  let member := any [the "pair", the "spread_element", the "method_definition",
    shownAs "shorthand_property_identifier" plainName]
  let item := any [the "expression", the "spread_element"]
  [("object", ranked "object" (all ["\x7b", perhapsListed (optional member), "\x7d"])),
    ("pair", all [field "key" (the "_property_name"), ":", field "value" (the "expression")]),
    ("array", all ["[", perhapsListed (optional item), "]"]),
    ("arguments", all ["(", perhapsListed (optional item), ")"]),
    ("spread_element", all ["...", the "expression"])]

/-- Patterns that take objects and arrays apart. -/
def patterns : Definitions :=
  let plainName := any [identifier, the "_reserved_identifier"]
  let shorthand := shownAs "shorthand_property_identifier_pattern" plainName
  let member := any [the "pair_pattern", the "rest_pattern", the "object_assignment_pattern",
    shorthand]
  let valued := all ["=", field "right" (the "expression")]
  let asserted := if dialect.isTyped then [the "non_null_expression"] else []
  [("object_pattern", ranked "object" (all ["\x7b", perhapsListed (optional member), "\x7d"])),
    ("pair_pattern", all [field "key" (the "_property_name"), ":",
      field "value" (any [the "pattern", the "assignment_pattern"])]),
    ("object_assignment_pattern",
      all [field "left" (any [shorthand, the "_destructuring_pattern"]), valued]),
    ("array_pattern", all ["[",
      perhapsListed (optional (any [the "pattern", the "assignment_pattern"])), "]"]),
    ("assignment_pattern", all [field "left" (the "pattern"), valued]),
    ("rest_pattern", rightward (all ["...", the "_lhs_expression"])),
    ("_destructuring_pattern", any [the "object_pattern", the "array_pattern"]),
    ("_lhs_expression", any ([the "member_expression", the "subscript_expression",
      the "_identifier", shownAs "identifier" (the "_reserved_identifier"),
      the "_destructuring_pattern"] ++ asserted)),
    ("pattern", weighed (-1) (any [the "_lhs_expression", the "rest_pattern"]))]

/-! ## Functions -/

/-- Functions as values. -/
def functionValues : Definitions :=
  let body := field "body" (the "statement_block")
  let start := all [optional "async", "function"]
  let rest := all [field "name" (optional identifier), the "_call_signature", body]
  let parameter := any [shownAs "identifier" (the "_reserved_identifier"), identifier]
  [("function_expression", ranked "literal" (all [start, rest])),
    ("generator_function", ranked "literal" (all [start, "*", rest])),
    ("arrow_function", all [optional "async",
      any [field "parameter" parameter, the "_call_signature"], "=>",
      field "body" (any [the "expression", the "statement_block"])])]

/-- Parameters in their brackets. -/
def parameters : Definitions :=
  [("formal_parameters",
    all ["(", optional (all [listed (the "_formal_parameter"), optional ","]), ")"])]

/-! ## Calls and members -/

/-- Calls, members and new objects. -/
def access : Definitions :=
  let chain := field "optional_chain" (the "optional_chain")
  let typeArguments := field "type_arguments" (optional (the "type_arguments"))
  let callArguments := if dialect.isTyped
    then all [typeArguments, field "arguments" (the "arguments")]
    else field "arguments" (the "arguments")
  let mark : Rule := if dialect.isTyped then "?." else chain
  let object := any [the "expression", the "primary_expression"]
  let callee := any [the "primary_expression", the "new_expression"]
  let constructed := if dialect.isTyped
    then all [field "constructor" (the "primary_expression"), typeArguments,
      field "arguments" (optional (the "arguments"))]
    else all [field "constructor" callee,
      field "arguments" (optional (weighed 1 (the "arguments")))]
  [("call_expression", any [
      ranked "call" (all [field "function" (any [the "expression", the "import"]),
        callArguments]),
      ranked "template_call" (all [field "function" callee,
        field "arguments" (the "template_string")]),
      ranked "member" (all [field "function" (the "primary_expression"), mark, callArguments])]),
    ("optional_chain", "?."),
    ("new_expression", grouped .right (ranked "new" (all ["new", constructed]))),
    ("member_expression", ranked "member" (all [
      field "object" (any [the "expression", the "primary_expression", the "import"]),
      any [".", chain],
      field "property" (any [token "private_property_identifier",
        unreserved (shownAs "property_identifier" identifier)])])),
    ("subscript_expression", grouped .right (ranked "member" (all [field "object" object,
      optional chain, "[", field "index" (the "_expressions"), "]"])))]

/-! ## Operators -/

/-- The signs and words between two operands, with the rank of each, and the side to which it
groups. -/
def binaryOperators : List (String × String × Lr.Side) :=
  let left (operator rank : String) := (operator, rank, Lr.Side.left)
  [left "&&" "logical_and", left "||" "logical_or", left ">>" "binary_shift",
    left ">>>" "binary_shift", left "<<" "binary_shift", left "&" "bitwise_and",
    left "^" "bitwise_xor", left "|" "bitwise_or", left "+" "binary_plus",
    left "-" "binary_plus", left "*" "binary_times", left "/" "binary_times",
    left "%" "binary_times", ("**", "binary_exp", .right), left "<" "binary_relation",
    left "<=" "binary_relation", left "==" "binary_equality", left "===" "binary_equality",
    left "!=" "binary_equality", left "!==" "binary_equality", left ">=" "binary_relation",
    left ">" "binary_relation", left "??" "ternary", left "instanceof" "binary_relation",
    left "in" "binary_relation"]

/-- An operator with its operands. -/
def binary : String × String × Lr.Side → Rule
  | (operator, rank, side) =>
      let left := if operator = "in"
        then any [the "expression", token "private_property_identifier"]
        else the "expression"
      grouped side (ranked rank (all [field "left" left, field "operator" (.literal operator),
        field "right" (the "expression")]))

/-- The signs that assign the result of an operator. -/
def assignmentSigns : List String :=
  ["+=", "-=", "*=", "/=", "%=", "^=", "&=", "|=", ">>=", ">>>=", "<<=", "**=", "&&=", "||=",
    "??="]

/-- Operators, and the words that stand in front of a value. -/
def operators : Definitions :=
  let argument := field "argument" (the "expression")
  let step := field "operator" (oneOf ["++", "--"])
  let asserted := if dialect.isTyped then [the "non_null_expression"] else []
  let using_ := if dialect.isTyped then optional "using" else nothing
  [("binary_expression", any (binaryOperators.map binary)),
    ("unary_expression", grouped .left (ranked "unary_void" (all [
      field "operator" (oneOf ["!", "~", "-", "+", "typeof", "void", "delete"]), argument]))),
    ("update_expression", leftward (any [all [argument, step], all [step, argument]])),
    ("await_expression", ranked "unary_void" (all ["await", the "expression"])),
    ("yield_expression", rightward (all ["yield",
      any [all ["*", the "expression"], optional (the "expression")]])),
    ("ternary_expression", grouped .right (ranked "ternary" (all [
      field "condition" (the "expression"), .renamed ⟨"?", false⟩ (token "_ternary_qmark"),
      field "consequence" (the "expression"), ":", field "alternative" (the "expression")]))),
    ("assignment_expression", grouped .right (ranked "assign" (all [using_,
      field "left" (any [the "parenthesized_expression", the "_lhs_expression"]), "=",
      field "right" (the "expression")]))),
    ("_augmented_assignment_lhs", any ([the "member_expression", the "subscript_expression",
      shownAs "identifier" (the "_reserved_identifier"), identifier,
      the "parenthesized_expression"] ++ asserted)),
    ("augmented_assignment_expression", grouped .right (ranked "assign" (all [
      field "left" (the "_augmented_assignment_lhs"), field "operator" (oneOf assignmentSigns),
      field "right" (the "expression")]))),
    ("parenthesized_expression", if dialect.isTyped then
        all ["(", any [all [the "expression", field "type" (optional (the "type_annotation"))],
          the "sequence_expression"], ")"]
      else all ["(", the "_expressions", ")"])]

end Segmentation.Script.Dialect
