import Segmentation.Script.Dialect

/-!
# Markup

Elements of markup in the place of a value.
-/

namespace Segmentation.Script.Dialect

open Lr.Rule

variable (dialect : Dialect)

/-- The names of elements and attributes. -/
def markupNames : Definitions :=
  let name := the "_jsx_identifier"
  let object := any [identifier, shownAs "member_expression" (the "nested_identifier")]
  [("_jsx_identifier", any [shownAs "identifier" (token "jsx_identifier"), identifier]),
    ("nested_identifier", ranked "member" (all [field "object" object, ".",
      field "property" (shownAs "property_identifier" identifier)])),
    ("jsx_namespace_name", all [name, ":", name]),
    ("_jsx_element_name", any [name, shownAs "member_expression" (the "nested_identifier"),
      the "jsx_namespace_name"]),
    ("_jsx_attribute_name", any [shownAs "property_identifier" name, the "jsx_namespace_name"])]

/-- The attributes of elements. -/
def markupAttributes : Definitions :=
  let quoted (mark fragment : String) := all [.literal mark,
    many (any [shownAs "string_fragment" (token fragment), token "html_character_reference"]),
    .literal mark]
  [("_jsx_attribute", any [the "jsx_attribute", the "jsx_expression"]),
    ("jsx_attribute",
      all [the "_jsx_attribute_name", optional (all ["=", the "_jsx_attribute_value"])]),
    ("_jsx_attribute_value",
      any [shownAs "string" (the "jsx_string"), the "jsx_expression", the "_jsx_element"]),
    ("jsx_string", any [quoted "\"" "unescaped_double_jsx_string_fragment",
      quoted "'" "unescaped_single_jsx_string_fragment"]),
    ("jsx_expression",
      all ["\x7b", optional (any [the "_expressions", the "spread_element"]), "\x7d"])]

/-- Elements. In a typed grammar an element may have type arguments, and one that is closed at once
need not have a name. -/
def markupElements : Definitions :=
  let attributes := many (field "attribute" (the "_jsx_attribute"))
  let element := field "name" (the "_jsx_element_name")
  let plainName := field "name" (any [the "_jsx_identifier", the "jsx_namespace_name"])
  let typedName := all [
    field "name" (any [identifier, shownAs "member_expression" (the "nested_identifier")]),
    field "type_arguments" (optional (the "type_arguments"))]
  let opening := all ["<", optional (all [any [plainName, typedName], attributes])]
  [("_jsx_element", any [the "jsx_element", the "jsx_self_closing_element"]),
    ("jsx_element", all [field "open_tag" (the "jsx_opening_element"), many (the "_jsx_child"),
      field "close_tag" (the "jsx_closing_element")]),
    ("_jsx_child", any [token "jsx_text", token "html_character_reference", the "_jsx_element",
      the "jsx_expression"]),
    ("_jsx_start_opening_element", opening),
    ("jsx_opening_element", weighed (-1) (if dialect.isTyped
      then all [the "_jsx_start_opening_element", ">"]
      else all ["<", optional (all [element, attributes]), ">"])),
    ("jsx_self_closing_element", if dialect.isTyped
      then weighed (-1) (all [the "_jsx_start_opening_element", "/>"])
      else all ["<", element, attributes, "/>"]),
    ("jsx_closing_element", all ["</", optional element, ">"])]

/-- Markup. -/
def markup : Definitions :=
  markupNames ++ markupAttributes ++ dialect.markupElements

end Segmentation.Script.Dialect
