import Segmentation.Script.Dialect

/-!
# Types

The types of the typed grammars, and the declarations that only they have.
-/

namespace Segmentation.Script.Dialect

open Lr.Rule

/-! ## Annotations -/

/-- What stands after a colon. -/
def annotations : Definitions :=
  let imported := [
    shownAs "member_expression" (the "_type_query_member_expression_in_type_annotation"),
    shownAs "call_expression" (the "_type_query_call_expression_in_type_annotation")]
  let member := field "property" (any [token "private_property_identifier",
    shownAs "property_identifier" identifier])
  [("type_annotation", all [":", any (the "type" :: imported)]),
    ("omitting_type_annotation", all ["-?:", the "type"]),
    ("adding_type_annotation", all ["+?:", the "type"]),
    ("opting_type_annotation", all ["?:", the "type"]),
    ("_type_query_member_expression_in_type_annotation",
      all [field "object" (any (the "import" :: imported)), ".", member]),
    ("_type_query_call_expression_in_type_annotation",
      all [field "function" (any ([the "import"] ++ imported.take 1)),
        field "arguments" (the "arguments")]),
    ("asserts", all ["asserts", any [the "type_predicate", identifier, the "this"]]),
    ("asserts_annotation", all [":", the "asserts"]),
    ("type_predicate", all [
      field "name" (any [identifier, the "this",
        shownAs "identifier" (the "predefined_type")]), "is", field "type" (the "type")]),
    ("type_predicate_annotation", all [":", the "type_predicate"])]

/-- The parameters of functions with their types. -/
def typedParameters : Definitions :=
  let type := field "type" (optional (the "type_annotation"))
  [("_call_signature", all [field "type_parameters" (optional (the "type_parameters")),
      field "parameters" (the "formal_parameters"),
      field "return_type" (optional (any [the "type_annotation", the "asserts_annotation",
        the "type_predicate_annotation"]))]),
    ("_formal_parameter", any [the "required_parameter", the "optional_parameter"]),
    ("required_parameter", all [the "_parameter_name", type, optional (the "_initializer")]),
    ("optional_parameter",
      all [the "_parameter_name", "?", type, optional (the "_initializer")]),
    ("_parameter_name", all [many (field "decorator" (the "decorator")),
      optional (the "accessibility_modifier"), optional (the "override_modifier"),
      optional "readonly", field "pattern" (any [the "pattern", the "this"])]),
    ("type_arguments", all ["<", listed (the "type"), optional ",", ">"]),
    ("type_parameters", all ["<", listed (the "type_parameter"), optional ",", ">"]),
    ("type_parameter", all [optional "const", field "name" (the "_type_identifier"),
      field "constraint" (optional (the "constraint")),
      field "value" (optional (the "default_type"))]),
    ("default_type", all ["=", the "type"]),
    ("constraint", all [oneOf ["extends", ":"], the "type"])]

/-! ## Kinds of types -/

/-- The kinds of types. -/
def typeKinds : Definitions :=
  let primary := ["parenthesized_type", "predefined_type", "_type_identifier",
    "nested_type_identifier", "generic_type", "object_type", "array_type", "tuple_type",
    "flow_maybe_type", "type_query", "index_type_query", "existential_type", "literal_type",
    "lookup_type", "conditional_type", "template_literal_type", "intersection_type", "union_type"]
  let weak (rule : Rule) := Lr.Rule.ranked (.level (-1)) rule
  [("type", any [the "primary_type", the "function_type", the "readonly_type",
      the "constructor_type", the "infer_type",
      weak (shownAs "member_expression"
        (the "_type_query_member_expression_in_type_annotation")),
      weak (shownAs "call_expression" (the "_type_query_call_expression_in_type_annotation"))]),
    ("primary_type", any (primary.map the ++ [shownAs "this_type" (the "this"), "const"])),
    ("_type_identifier", shownAs "type_identifier" identifier),
    ("nested_type_identifier", ranked "member" (all [
      field "module" (any [identifier, the "nested_identifier"]), ".",
      field "name" (the "_type_identifier")])),
    ("generic_type", ranked "call" (all [
      field "name" (any [the "_type_identifier", the "nested_type_identifier"]),
      field "type_arguments" (the "type_arguments")])),
    ("predefined_type", any ((["any", "number", "boolean", "string", "symbol", "void", "unknown",
      "never", "object"].map literal) ++
        [.renamed ⟨"unique symbol", false⟩ (all ["unique", "symbol"])])),
    ("literal_type", any ([shownAs "unary_expression" (the "_number"), token "number",
      the "string"] ++ ["true", "false", "null", "undefined"].map the)),
    ("_number", .ranked (.level 1) (grouped .left (all [field "operator" (oneOf ["-", "+"]),
      field "argument" (token "number")]))),
    ("existential_type", "*")]

/-- Types that are built from others. -/
def builtTypes : Definitions :=
  let type := the "type"
  let primary := the "primary_type"
  let generic := field "type_parameters" (optional (the "type_parameters"))
  let parameters := field "parameters" (the "formal_parameters")
  [("parenthesized_type", all ["(", type, ")"]),
    ("flow_maybe_type", rightward (all ["?", primary])),
    ("readonly_type", all ["readonly", type]),
    ("array_type", all [primary, "[", "]"]),
    ("lookup_type", all [primary, "[", type, "]"]),
    ("index_type_query", all ["keyof", primary]),
    ("union_type", leftward (all [optional type, "|", type])),
    ("intersection_type", leftward (all [optional type, "&", type])),
    ("conditional_type", rightward (all [field "left" type, "extends", field "right" type, "?",
      field "consequence" type, ":", field "alternative" type])),
    ("infer_type", rightward (all ["infer", the "_type_identifier",
      optional (all ["extends", type])])),
    ("function_type", leftward (all [generic, parameters, "=>",
      field "return_type" (any [type, the "asserts", the "type_predicate"])])),
    ("constructor_type", leftward (all [optional "abstract", "new", generic, parameters, "=>",
      field "type" type])),
    ("template_literal_type", all ["\x60",
      many (any [shownAs "string_fragment" (token "_template_chars"), the "template_type"]),
      "\x60"]),
    ("template_type", all ["$\x7b", any [primary, the "infer_type"], "\x7d"])]

/-- Types of values. -/
def valueTypes : Definitions :=
  let subscript := shownAs "subscript_expression" (the "_type_query_subscript_expression")
  let member := shownAs "member_expression" (the "_type_query_member_expression")
  let call := shownAs "call_expression" (the "_type_query_call_expression")
  let instance_ :=
    shownAs "instantiation_expression" (the "_type_query_instantiation_expression")
  let object := field "object" (any [identifier, the "this", subscript, member, call])
  let function := field "function" (any [the "import", identifier, member, subscript])
  [("type_query", rightward (all ["typeof",
      any [subscript, member, call, instance_, identifier, the "this"]])),
    ("_type_query_member_expression", all [object, oneOf [".", "?."],
      field "property" (any [token "private_property_identifier",
        shownAs "property_identifier" identifier])]),
    ("_type_query_subscript_expression", all [object, optional "?.", "[",
      field "index" (any [the "predefined_type", the "string", token "number"]), "]"]),
    ("_type_query_call_expression", all [function, field "arguments" (the "arguments")]),
    ("_type_query_instantiation_expression",
      all [function, field "type_arguments" (the "type_arguments")])]

/-- Tuples. -/
def tuples : Definitions :=
  let type := the "type"
  let annotated := field "type" (the "type_annotation")
  [("tuple_type", all ["[", perhapsListed (the "_tuple_type_member"), optional ",", "]"]),
    ("_tuple_type_member", any [shownAs "required_parameter" (the "tuple_parameter"),
      shownAs "optional_parameter" (the "optional_tuple_parameter"), the "optional_type",
      the "rest_type", type]),
    ("tuple_parameter", all [field "name" (any [identifier, the "rest_pattern"]), annotated]),
    ("optional_tuple_parameter", all [field "name" identifier, "?", annotated]),
    ("optional_type", all [type, "?"]),
    ("rest_type", all ["...", type])]

/-- Types of objects. -/
def objectTypes : Definitions :=
  let separator := any [",", insertedSemicolon, ";"]
  let member := any (["export_statement", "property_signature", "call_signature",
    "construct_signature", "index_signature", "method_signature"].map the)
  let key := field "name" (any [identifier, shownAs "identifier" (the "_reserved_identifier")])
  [("object_type", all [oneOf ["\x7b", "\x7b|"],
      optional (all [optional (oneOf [",", ";"]), .separated separator member,
        optional separator]),
      oneOf ["\x7d", "|\x7d"]]),
    ("call_signature", the "_call_signature"),
    ("property_signature", all [optional (the "accessibility_modifier"), optional "static",
      optional (the "override_modifier"), optional "readonly",
      field "name" (the "_property_name"), optional "?",
      field "type" (optional (the "type_annotation"))]),
    ("construct_signature", all [optional "abstract", "new",
      field "type_parameters" (optional (the "type_parameters")),
      field "parameters" (the "formal_parameters"),
      field "type" (optional (the "type_annotation"))]),
    ("index_signature", all [
      optional (all [field "sign" (optional (oneOf ["-", "+"])), "readonly"]), "[",
      any [all [key, ":", field "index_type" (the "type")], the "mapped_type_clause"], "]",
      field "type" (any (["type_annotation", "omitting_type_annotation",
        "adding_type_annotation", "opting_type_annotation"].map the))]),
    ("mapped_type_clause", all [field "name" (the "_type_identifier"), "in",
      field "type" (the "type"), optional (all ["as", field "alias" (the "type")])])]

/-! ## Values with types -/

/-- Expressions that speak of types. -/
def typedExpressions : Definitions :=
  let value := the "expression"
  [("as_expression",
      grouped .left (ranked "binary" (all [value, "as", any ["const", the "type"]]))),
    ("satisfies_expression",
      grouped .left (ranked "binary" (all [value, "satisfies", the "type"]))),
    ("instantiation_expression",
      ranked "instantiation" (all [value, field "type_arguments" (the "type_arguments")])),
    ("type_assertion", grouped .left (ranked "unary" (all [the "type_arguments", value]))),
    ("non_null_expression", grouped .left (ranked "unary" (all [value, "!"])))]

/-! ## Declarations -/

/-- The declarations that only typed grammars have. -/
def typeDeclarations : Definitions :=
  let typeName := field "name" (the "_type_identifier")
  let generic := field "type_parameters" (optional (the "type_parameters"))
  let base := field "type" (any [the "_type_identifier", the "nested_type_identifier",
    the "generic_type"])
  [("function_signature", all [optional "async", "function", field "name" identifier,
      the "_call_signature",
      any [insertedSemicolon, ";", token "_function_signature_automatic_semicolon"]]),
    ("type_alias_declaration",
      all ["type", typeName, generic, "=", field "value" (the "type"), semicolon]),
    ("interface_declaration", all ["interface", typeName, generic,
      optional (the "extends_type_clause"),
      field "body" (shownAs "interface_body" (the "object_type"))]),
    ("extends_type_clause", all ["extends", listed base]),
    ("enum_declaration", all [optional "const", "enum", field "name" identifier,
      field "body" (the "enum_body")]),
    ("enum_body", all ["\x7b", optional (all [
      listed (any [field "name" (the "_property_name"), the "enum_assignment"]), optional ","]),
      "\x7d"]),
    ("enum_assignment", all [field "name" (the "_property_name"), the "_initializer"]),
    ("module", all ["module", the "_module"]),
    ("internal_module", all ["namespace", the "_module"]),
    ("_module", rightward (all [
      field "name" (any [the "string", identifier, the "nested_identifier"]),
      field "body" (optional (the "statement_block"))])),
    ("import_alias",
      all ["import", identifier, "=", any [identifier, the "nested_identifier"], semicolon]),
    ("ambient_declaration", all ["declare", any [the "declaration",
      all ["global", the "statement_block"],
      all ["module", ".", shownAs "property_identifier" identifier, ":", the "type",
        semicolon]]])]

/-- Types. -/
def types : Definitions :=
  annotations ++ typedParameters ++ typeKinds ++ builtTypes ++ valueTypes ++ tuples ++
    objectTypes ++ typedExpressions ++ typeDeclarations

end Segmentation.Script.Dialect
