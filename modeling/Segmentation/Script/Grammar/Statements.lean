import Segmentation.Script.Dialect

/-!
# Statements

Declarations of variables and functions, the statements that steer a program, and what modules
exchange.
-/

namespace Segmentation.Script.Dialect

open Lr.Rule

variable (dialect : Dialect)

/-! ## Modules -/

/-- The names that modules exchange. -/
def exchangedNames : Definitions :=
  let name := if dialect.isTyped then any [identifier, the "string"]
    else any [identifier, the "string", "default"]
  let exported := all [field "name" (the "_module_export_name"),
    optional (all ["as", field "alias" (the "_module_export_name")])]
  let importName := if dialect.isTyped then the "_import_identifier" else identifier
  let outerName := if dialect.isTyped
    then any [the "_module_export_name", shownAs "identifier" "type"]
    else the "_module_export_name"
  let imported := any [field "name" importName,
    all [field "name" outerName, "as", field "alias" importName]]
  let mark := optional (oneOf ["type", "typeof"])
  [("_module_export_name", name),
    ("export_specifier", if dialect.isTyped then all [mark, exported] else exported),
    ("_import_identifier", any [identifier, shownAs "identifier" "type"]),
    ("import_specifier", if dialect.isTyped then all [mark, imported] else imported)]

/-- Imports. -/
def imports : Definitions :=
  let importName := if dialect.isTyped then the "_import_identifier" else identifier
  let listing := any [the "namespace_import", the "named_imports"]
  let plain := [all [the "import_clause", the "_from_clause"], field "source" (the "string")]
  let typed := if dialect.isTyped then [the "import_require_clause"] else []
  let mark := if dialect.isTyped then optional (oneOf ["type", "typeof"]) else nothing
  [("import", "import"),
    ("import_statement", all ["import", mark, any (plain ++ typed),
      optional (the "import_attribute"), semicolon]),
    ("import_clause", any [the "namespace_import", the "named_imports",
      all [importName, optional (all [",", listing])]]),
    ("_from_clause", all ["from", field "source" (the "string")]),
    ("namespace_import", all ["*", "as", identifier]),
    ("named_imports",
      all ["\x7b", perhapsListed (the "import_specifier"), optional ",", "\x7d"]),
    ("import_attribute", all ["with", the "object"]),
    ("import_require_clause",
      all [identifier, "=", "require", "(", field "source" (the "string"), ")"])]

/-- Exports. -/
def exports : Definitions :=
  let listing := any [all ["*", the "_from_clause"],
    all [the "namespace_export", the "_from_clause"],
    all [the "export_clause", the "_from_clause"], the "export_clause"]
  let declared := field "declaration" (the "declaration")
  let default_ := all ["default",
    any [declared, all [field "value" (the "expression"), semicolon]]]
  let plain := [all ["export", listing, semicolon],
    all [many (field "decorator" (the "decorator")), "export", any [declared, default_]]]
  let typed := if dialect.isTyped then
    [all ["export", "type", the "export_clause", optional (the "_from_clause"), semicolon],
      all ["export", "=", the "expression", semicolon],
      all ["export", "as", "namespace", identifier, semicolon]]
    else []
  [("export_statement", any (plain ++ typed)),
    ("namespace_export", all ["*", "as", the "_module_export_name"]),
    ("export_clause",
      all ["\x7b", perhapsListed (the "export_specifier"), optional ",", "\x7d"])]

/-! ## Declarations -/

/-- Declarations of variables. -/
def variableDeclarations : Definitions :=
  let name := field "name" (any [identifier, the "_destructuring_pattern"])
  let type := field "type" (optional (the "type_annotation"))
  let declarator := if dialect.isTyped then
      any [all [name, type, optional (the "_initializer")],
        ranked "declare" (all [field "name" identifier, "!",
          field "type" (the "type_annotation")])]
    else all [name, optional (the "_initializer")]
  let declarators := listed (the "variable_declarator")
  [("variable_declaration", all ["var", declarators, semicolon]),
    ("lexical_declaration",
      all [field "kind" (oneOf ["let", "const"]), declarators, semicolon]),
    ("using_declaration",
      all [field "kind" (any ["using", all ["await", "using"]]), declarators, semicolon]),
    ("variable_declarator", declarator),
    ("_initializer", all ["=", field "value" (the "expression")])]

/-- Functions and classes with a name. -/
def functionDeclarations : Definitions :=
  let ending := all [the "_call_signature", field "body" (the "statement_block"),
    optional insertedSemicolon]
  let start := all [optional "async", "function"]
  [("function_declaration",
      grouped .right (ranked "declare" (all [start, field "name" identifier, ending]))),
    ("generator_function_declaration",
      grouped .right (ranked "declare" (all [start, "*", field "name" identifier, ending])))]

/-- What declares something. -/
def declarations : Definitions :=
  let plain := ["function_declaration", "generator_function_declaration", "class_declaration",
    "lexical_declaration", "variable_declaration"].map the
  let further := if dialect.isTyped then
      ["function_signature", "abstract_class_declaration", "module", "type_alias_declaration",
        "enum_declaration", "interface_declaration", "import_alias", "ambient_declaration"].map the
        ++ [ranked "declare" (the "internal_module")]
    else [the "using_declaration"]
  [("declaration", any (plain ++ further))]

/-! ## Control -/

/-- The head of a loop over the members of something. -/
def memberLoopHead : Rule :=
  let name := field "left" (any [identifier, the "_destructuring_pattern"])
  let left := any [field "left" (any [the "_lhs_expression", the "parenthesized_expression"]),
    all [field "kind" "var", name, optional (the "_initializer")],
    all [field "kind" (oneOf ["let", "const"]), name, optional insertedSemicolon]]
  all ["(", left, field "operator" (oneOf ["in", "of"]), field "right" (the "_expressions"), ")"]

/-- The statements that choose and repeat. -/
def control : Definitions :=
  let condition := field "condition" (the "parenthesized_expression")
  let body := field "body" (the "statement")
  let started := any [
    field "initializer" (any [the "lexical_declaration", the "variable_declaration"]),
    all [field "initializer" (the "_expressions"), ";"],
    field "initializer" (the "empty_statement")]
  let tested := field "condition" (any [all [the "_expressions", ";"], the "empty_statement"])
  [("if_statement", rightward (all ["if", condition, field "consequence" (the "statement"),
      optional (field "alternative" (the "else_clause"))])),
    ("else_clause", all ["else", the "statement"]),
    ("switch_statement",
      all ["switch", field "value" (the "parenthesized_expression"),
        field "body" (the "switch_body")]),
    ("switch_body",
      all ["\x7b", many (any [the "switch_case", the "switch_default"]), "\x7d"]),
    ("switch_case", all ["case", field "value" (the "_expressions"), ":",
      field "body" (many (the "statement"))]),
    ("switch_default", all ["default", ":", field "body" (many (the "statement"))]),
    ("for_statement", all ["for", "(", started, tested,
      field "increment" (optional (the "_expressions")), ")", body]),
    ("for_in_statement", all ["for", optional "await", the "_for_header", body]),
    ("_for_header", memberLoopHead),
    ("while_statement", all ["while", condition, body]),
    ("do_statement", rightward (all ["do", body, "while", condition, optional semicolon])),
    ("with_statement", all ["with", field "object" (the "parenthesized_expression"), body])]

/-- The statements that leave something, and those that catch what was thrown. -/
def leaving : Definitions :=
  let label := field "label" (optional (shownAs "statement_identifier" identifier))
  let block := field "body" (the "statement_block")
  let type := if dialect.isTyped then optional (field "type" (the "type_annotation")) else nothing
  let caught := all ["(", field "parameter" (any [identifier, the "_destructuring_pattern"]), type,
    ")"]
  [("break_statement", all ["break", label, semicolon]),
    ("continue_statement", all ["continue", label, semicolon]),
    ("debugger_statement", all ["debugger", semicolon]),
    ("return_statement", all ["return", optional (the "_expressions"), semicolon]),
    ("throw_statement", all ["throw", the "_expressions", semicolon]),
    ("try_statement", all ["try", block, optional (field "handler" (the "catch_clause")),
      optional (field "finalizer" (the "finally_clause"))]),
    ("catch_clause", all ["catch", optional caught, block]),
    ("finally_clause", all ["finally", block])]

/-- Blocks, and statements around a statement or an expression. -/
def simpleStatements : Definitions :=
  let label := shownAs "statement_identifier" (any [identifier, the "_reserved_identifier"])
  [("statement_block",
      rightward (all ["\x7b", many (the "statement"), "\x7d", optional insertedSemicolon])),
    ("expression_statement", all [the "_expressions", semicolon]),
    ("empty_statement", ";"),
    ("labeled_statement",
      weighed (-1) (all [field "label" label, ":", field "body" (the "statement")]))]

/-- A whole source, and the kinds of statements in it. -/
def statements : Definitions :=
  [("program", all [optional (token "hash_bang_line"), many (the "statement")]),
    ("statement", any (["export_statement", "import_statement", "debugger_statement",
      "expression_statement", "declaration", "statement_block", "if_statement",
      "switch_statement", "for_statement", "for_in_statement", "while_statement", "do_statement",
      "try_statement", "with_statement", "break_statement", "continue_statement",
      "return_statement", "throw_statement", "empty_statement", "labeled_statement"].map the))]

end Segmentation.Script.Dialect
