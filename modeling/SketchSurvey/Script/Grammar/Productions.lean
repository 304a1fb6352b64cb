import SketchSurvey.Script.Grammar.Rule

/-!
The grammar of scripts. It is wider than the standard in places: markup elements are expressions,
and the comments of old pages are comments.
-/

set_option autoImplicit false

namespace SketchSurvey.Script.Grammar

open Rule

instance : Coe String Rank := ⟨.named⟩

/-- A part named for its production. -/
def the (name : String) : Rule := .symbol name

/-- A part that appears under another name. -/
def shown (name : String) (body : Rule) : Rule := .aliased { name } body

/-- The name of a thing, which may be one of the words that are only sometimes keywords. -/
def nameLike (as : String) : Rule := shown as (oneOf [the "identifier", the "_reserved_identifier"])

/-- A binary operator with its rank. -/
def binary (rank : Rank) (direction : Direction) (operator : String) (left : Rule) : Rule :=
  .ranked rank (some direction) <| all [
    .field "left" left, .field "operator" operator, .field "right" (the "expression")]

/-- `static` and a getter's `get` at the end of a line are one token. -/
def staticGet : Rule :=
  .aliased { name := "static get", named := false } <| shape <| .all [
    "static", .many1 CharSet.plainSpace, "get", .many CharSet.plainSpace, "\n"]

def decorators : Rule := many (.field "decorator" (the "decorator"))

/-- The modules' part: what is imported and exported. -/
def moduleRules : List (String × Rule) := [
  ("export_statement", oneOf [
    all ["export",
      oneOf [
        all ["*", the "_from_clause"],
        all [the "namespace_export", the "_from_clause"],
        all [the "export_clause", the "_from_clause"],
        the "export_clause"],
      the "_semicolon"],
    all [decorators, "export",
      oneOf [
        .field "declaration" (the "declaration"),
        all ["default",
          oneOf [
            .field "declaration" (the "declaration"),
            all [.field "value" (the "expression"), the "_semicolon"]]]]]]),
  ("namespace_export", all ["*", "as", the "_module_export_name"]),
  ("export_clause", all ["\x7b", commaList (the "export_specifier"), opt ",", "\x7d"]),
  ("export_specifier", all [
    .field "name" (the "_module_export_name"),
    opt (all ["as", .field "alias" (the "_module_export_name")])]),
  ("_module_export_name", oneOf [the "identifier", the "string", "default"]),
  ("declaration", oneOf [
    the "function_declaration", the "generator_function_declaration", the "class_declaration",
    the "lexical_declaration", the "variable_declaration", the "using_declaration"]),
  ("import", "import"),
  ("import_statement", all ["import",
    oneOf [
      all [the "import_clause", the "_from_clause"],
      .field "source" (the "string")],
    opt (the "import_attribute"), the "_semicolon"]),
  ("import_clause", oneOf [
    the "namespace_import",
    the "named_imports",
    all [the "identifier", opt (all [",", oneOf [the "namespace_import", the "named_imports"]])]]),
  ("_from_clause", all ["from", .field "source" (the "string")]),
  ("namespace_import", all ["*", "as", the "identifier"]),
  ("named_imports", all ["\x7b", commaList (the "import_specifier"), opt ",", "\x7d"]),
  ("import_specifier", oneOf [
    .field "name" (the "identifier"),
    all [.field "name" (the "_module_export_name"), "as", .field "alias" (the "identifier")]]),
  ("import_attribute", all ["with", the "object"])]

def statementRules : List (String × Rule) := [
  ("statement", oneOf [
    the "export_statement", the "import_statement", the "debugger_statement",
    the "expression_statement", the "declaration", the "statement_block", the "if_statement",
    the "switch_statement", the "for_statement", the "for_in_statement", the "while_statement",
    the "do_statement", the "try_statement", the "with_statement", the "break_statement",
    the "continue_statement", the "return_statement", the "throw_statement",
    the "empty_statement", the "labeled_statement"]),
  ("expression_statement", all [the "_expressions", the "_semicolon"]),
  ("variable_declaration", all ["var", commaList1 (the "variable_declarator"), the "_semicolon"]),
  ("lexical_declaration", all [
    .field "kind" (oneOf ["let", "const"]), commaList1 (the "variable_declarator"),
    the "_semicolon"]),
  ("using_declaration", all [
    .field "kind" (oneOf ["using", all ["await", "using"]]), commaList1 (the "variable_declarator"),
    the "_semicolon"]),
  ("variable_declarator", all [
    .field "name" (oneOf [the "identifier", shown "identifier" "of", the "_destructuring_pattern"]),
    opt (the "_initializer")]),
  ("statement_block", rightOf (.number 0) [
    "\x7b", many (the "statement"), "\x7d", opt (the "_automatic_semicolon")]),
  ("else_clause", all ["else", the "statement"]),
  ("if_statement", rightOf (.number 0) [
    "if", .field "condition" (the "parenthesized_expression"),
    .field "consequence" (the "statement"), opt (.field "alternative" (the "else_clause"))]),
  ("switch_statement", all [
    "switch", .field "value" (the "parenthesized_expression"), .field "body" (the "switch_body")]),
  ("for_statement", all [
    "for", "(",
    oneOf [
      .field "initializer" (oneOf [the "lexical_declaration", the "variable_declaration"]),
      all [.field "initializer" (the "_expressions"), ";"],
      .field "initializer" (the "empty_statement")],
    .field "condition" (oneOf [all [the "_expressions", ";"], the "empty_statement"]),
    .field "increment" (opt (the "_expressions")),
    ")", .field "body" (the "statement")]),
  ("for_in_statement", all [
    "for", opt "await", the "_for_header", .field "body" (the "statement")]),
  ("_for_header", all [
    "(",
    oneOf [
      .field "left" (oneOf [the "_lhs_expression", the "parenthesized_expression"]),
      all [
        .field "kind" "var",
        .field "left" (oneOf [the "identifier", shown "identifier" "of", the "_destructuring_pattern"]),
        opt (the "_initializer")],
      all [
        .field "kind" (oneOf ["let", "const", "using", all ["await", "using"]]),
        .field "left" (oneOf [the "identifier", shown "identifier" "of", the "_destructuring_pattern"]),
        opt (the "_automatic_semicolon")]],
    .field "operator" (oneOf ["in", "of"]),
    .field "right" (the "_expressions"),
    ")"]),
  ("while_statement", all [
    "while", .field "condition" (the "parenthesized_expression"),
    .field "body" (the "statement")]),
  ("do_statement", rightOf (.number 0) [
    "do", .field "body" (the "statement"), "while",
    .field "condition" (the "parenthesized_expression"), opt (the "_semicolon")]),
  ("try_statement", all [
    "try", .field "body" (the "statement_block"), opt (.field "handler" (the "catch_clause")),
    opt (.field "finalizer" (the "finally_clause"))]),
  ("with_statement", all [
    "with", .field "object" (the "parenthesized_expression"), .field "body" (the "statement")]),
  ("break_statement", all [
    "break", .field "label" (opt (shown "statement_identifier" (the "identifier"))),
    the "_semicolon"]),
  ("continue_statement", all [
    "continue", .field "label" (opt (shown "statement_identifier" (the "identifier"))),
    the "_semicolon"]),
  ("debugger_statement", all ["debugger", the "_semicolon"]),
  ("return_statement", all ["return", opt (the "_expressions"), the "_semicolon"]),
  ("throw_statement", all ["throw", the "_expressions", the "_semicolon"]),
  ("empty_statement", ";"),
  ("labeled_statement", .weighted (-1) <| all [
    .field "label" (nameLike "statement_identifier"), ":", .field "body" (the "statement")]),
  ("switch_body", all [
    "\x7b", many (oneOf [the "switch_case", the "switch_default"]), "\x7d"]),
  ("switch_case", all [
    "case", .field "value" (the "_expressions"), ":", .field "body" (many (the "statement"))]),
  ("switch_default", all ["default", ":", .field "body" (many (the "statement"))]),
  ("catch_clause", all [
    "catch",
    opt (all [
      "(", .field "parameter" (oneOf [the "identifier", the "_destructuring_pattern"]), ")"]),
    .field "body" (the "statement_block")]),
  ("finally_clause", all ["finally", .field "body" (the "statement_block")])]

def expressionRules : List (String × Rule) := [
  ("parenthesized_expression", all ["(", the "_expressions", ")"]),
  ("_expressions", oneOf [the "expression", the "sequence_expression"]),
  ("expression", oneOf [
    the "primary_expression", the "_jsx_element", the "assignment_expression",
    the "augmented_assignment_expression", the "await_expression", the "unary_expression",
    the "binary_expression", the "ternary_expression", the "update_expression",
    the "new_expression", the "yield_expression"]),
  ("primary_expression", oneOf [
    the "subscript_expression", the "member_expression", the "parenthesized_expression",
    the "_identifier", shown "identifier" (the "_reserved_identifier"), the "this", the "super",
    the "number", the "string", the "template_string", the "regex", the "true", the "false",
    the "null", the "object", the "array", the "function_expression", the "arrow_function",
    the "generator_function", the "class", the "meta_property", the "call_expression"]),
  ("yield_expression", rightOf (.number 0) [
    "yield", oneOf [all ["*", the "expression"], opt (the "expression")]]),
  ("object", bound "object" [
    "\x7b",
    commaList (opt (oneOf [
      the "pair", the "spread_element", the "method_definition",
      nameLike "shorthand_property_identifier"])),
    "\x7d"]),
  ("object_pattern", bound "object" [
    "\x7b",
    commaList (opt (oneOf [
      the "pair_pattern", the "rest_pattern", the "object_assignment_pattern",
      nameLike "shorthand_property_identifier_pattern"])),
    "\x7d"]),
  ("assignment_pattern", all [
    .field "left" (the "pattern"), "=", .field "right" (the "expression")]),
  ("object_assignment_pattern", all [
    .field "left" (oneOf [
      shown "shorthand_property_identifier_pattern"
        (oneOf [the "_reserved_identifier", the "identifier"]),
      the "_destructuring_pattern"]),
    "=", .field "right" (the "expression")]),
  ("array", all ["[", commaList (opt (oneOf [the "expression", the "spread_element"])), "]"]),
  ("array_pattern", all [
    "[", commaList (opt (oneOf [the "pattern", the "assignment_pattern"])), "]"])]

/-- Elements of markup, written as expressions. -/
def elementRules : List (String × Rule) := [
  ("_jsx_element", oneOf [the "jsx_element", the "jsx_self_closing_element"]),
  ("jsx_element", all [
    .field "open_tag" (the "jsx_opening_element"), many (the "_jsx_child"),
    .field "close_tag" (the "jsx_closing_element")]),
  ("html_character_reference", shape <| .all [
    "&",
    .oneOf [
      .all ["#",
        .oneOf [
          .all [CharSet.ofString "xX", CharSet.hexDigit, .upTo 5 CharSet.hexDigit],
          .all [CharSet.digit, .upTo 4 CharSet.digit]]],
      .all [CharSet.letter, .upTo 29 CharSet.letter]],
    ";"]),
  ("jsx_expression", all [
    "\x7b", opt (oneOf [the "expression", the "sequence_expression", the "spread_element"]),
    "\x7d"]),
  ("_jsx_child", oneOf [
    the "jsx_text", the "html_character_reference", the "_jsx_element", the "jsx_expression"]),
  ("jsx_opening_element", .weighted (-1) <| all [
    "<",
    opt (all [
      .field "name" (the "_jsx_element_name"),
      many (.field "attribute" (the "_jsx_attribute"))]),
    ">"]),
  ("jsx_identifier", shape <| .all [
    CharSet.letter ++ CharSet.ofString "_$",
    .many (CharSet.letter ++ CharSet.digit ++ CharSet.ofString "_$"),
    "-",
    .many (CharSet.letter ++ CharSet.digit ++ CharSet.ofString "_$-")]),
  ("_jsx_identifier", oneOf [
    shown "identifier" (the "jsx_identifier"), the "identifier"]),
  ("nested_identifier", bound "member" [
    .field "object" (oneOf [
      the "identifier", shown "member_expression" (the "nested_identifier")]),
    ".", .field "property" (shown "property_identifier" (the "identifier"))]),
  ("jsx_namespace_name", all [the "_jsx_identifier", ":", the "_jsx_identifier"]),
  ("_jsx_element_name", oneOf [
    the "_jsx_identifier", shown "member_expression" (the "nested_identifier"),
    the "jsx_namespace_name"]),
  ("jsx_closing_element", all ["</", opt (.field "name" (the "_jsx_element_name")), ">"]),
  ("jsx_self_closing_element", all [
    "<", .field "name" (the "_jsx_element_name"),
    many (.field "attribute" (the "_jsx_attribute")), "/>"]),
  ("_jsx_attribute", oneOf [the "jsx_attribute", the "jsx_expression"]),
  ("_jsx_attribute_name", oneOf [
    shown "property_identifier" (the "_jsx_identifier"), the "jsx_namespace_name"]),
  ("jsx_attribute", all [
    the "_jsx_attribute_name", opt (all ["=", the "_jsx_attribute_value"])]),
  ("_jsx_string", oneOf [
    all ["\"",
      many (oneOf [
        shown "string_fragment" (the "unescaped_double_jsx_string_fragment"),
        the "html_character_reference"]),
      "\""],
    all ["'",
      many (oneOf [
        shown "string_fragment" (the "unescaped_single_jsx_string_fragment"),
        the "html_character_reference"]),
      "'"]]),
  ("unescaped_double_jsx_string_fragment", immediateRanked 1 <| .many1 <| .oneOf [
    (CharSet.ofString "\"&").complement,
    .all ["&", (CharSet.letter ++ CharSet.ofString "#").complement]]),
  ("unescaped_single_jsx_string_fragment", immediateRanked 1 <| .many1 <| .oneOf [
    (CharSet.ofString "'&").complement,
    .all ["&", (CharSet.letter ++ CharSet.ofString "#").complement]]),
  ("_jsx_attribute_value", oneOf [
    shown "string" (the "_jsx_string"), the "jsx_expression", the "_jsx_element"])]

def functionRules : List (String × Rule) := [
  ("class", bound "literal" [
    decorators, "class", .field "name" (opt (the "identifier")), opt (the "class_heritage"),
    .field "body" (the "class_body")]),
  ("class_declaration", bound "declare" [
    decorators, "class", .field "name" (the "identifier"), opt (the "class_heritage"),
    .field "body" (the "class_body"), opt (the "_automatic_semicolon")]),
  ("class_heritage", all ["extends", the "expression"]),
  ("function_expression", bound "literal" [
    opt "async", "function", .field "name" (opt (the "identifier")), the "_call_signature",
    .field "body" (the "statement_block")]),
  ("function_declaration", rightOf "declare" [
    opt "async", "function", .field "name" (the "identifier"), the "_call_signature",
    .field "body" (the "statement_block"), opt (the "_automatic_semicolon")]),
  ("generator_function", bound "literal" [
    opt "async", "function", "*", .field "name" (opt (the "identifier")), the "_call_signature",
    .field "body" (the "statement_block")]),
  ("generator_function_declaration", rightOf "declare" [
    opt "async", "function", "*", .field "name" (the "identifier"), the "_call_signature",
    .field "body" (the "statement_block"), opt (the "_automatic_semicolon")]),
  ("arrow_function", all [
    opt "async",
    oneOf [
      .field "parameter"
        (oneOf [shown "identifier" (the "_reserved_identifier"), the "identifier"]),
      the "_call_signature"],
    "=>",
    .field "body" (oneOf [the "expression", the "statement_block"])]),
  ("_call_signature", .field "parameters" (the "formal_parameters")),
  ("_formal_parameter", oneOf [the "pattern", the "assignment_pattern"]),
  ("optional_chain", "?."),
  ("call_expression", oneOf [
    bound "call" [
      .field "function" (oneOf [the "expression", the "import"]),
      .field "arguments" (the "arguments")],
    bound "template_call" [
      .field "function" (oneOf [the "primary_expression", the "new_expression"]),
      .field "arguments" (the "template_string")],
    bound "member" [
      .field "function" (the "primary_expression"),
      .field "optional_chain" (the "optional_chain"),
      .field "arguments" (the "arguments")]]),
  ("new_expression", rightOf "new" [
    "new", .field "constructor" (oneOf [the "primary_expression", the "new_expression"]),
    .field "arguments" (opt (.weighted 1 (the "arguments")))]),
  ("await_expression", bound "unary_void" ["await", the "expression"]),
  ("member_expression", bound "member" [
    .field "object" (oneOf [the "expression", the "primary_expression", the "import"]),
    oneOf [".", .field "optional_chain" (the "optional_chain")],
    .field "property" (oneOf [
      the "private_property_identifier",
      .unreserved (shown "property_identifier" (the "identifier"))])]),
  ("subscript_expression", rightOf "member" [
    .field "object" (oneOf [the "expression", the "primary_expression"]),
    opt (.field "optional_chain" (the "optional_chain")),
    "[", .field "index" (the "_expressions"), "]"]),
  ("_lhs_expression", oneOf [
    the "member_expression", the "subscript_expression", the "_identifier",
    shown "identifier" (the "_reserved_identifier"), the "_destructuring_pattern"]),
  ("assignment_expression", rightOf "assign" [
    .field "left" (oneOf [the "parenthesized_expression", the "_lhs_expression"]),
    "=", .field "right" (the "expression")]),
  ("_augmented_assignment_lhs", oneOf [
    the "member_expression", the "subscript_expression",
    shown "identifier" (the "_reserved_identifier"), the "identifier",
    the "parenthesized_expression"]),
  ("augmented_assignment_expression", rightOf "assign" [
    .field "left" (the "_augmented_assignment_lhs"),
    .field "operator" (oneOf [
      "+=", "-=", "*=", "/=", "%=", "^=", "&=", "|=", ">>=", ">>>=", "<<=", "**=", "&&=", "||=",
      "??="]),
    .field "right" (the "expression")]),
  ("_initializer", all ["=", .field "value" (the "expression")]),
  ("_destructuring_pattern", oneOf [the "object_pattern", the "array_pattern"]),
  ("spread_element", all ["...", the "expression"]),
  ("ternary_expression", rightOf "ternary" [
    .field "condition" (the "expression"),
    .aliased { name := "?", named := false } (the "_ternary_qmark"),
    .field "consequence" (the "expression"), ":", .field "alternative" (the "expression")]),
  ("binary_expression", oneOf [
    binary "logical_and" .left "&&" (the "expression"),
    binary "logical_or" .left "||" (the "expression"),
    binary "binary_shift" .left ">>" (the "expression"),
    binary "binary_shift" .left ">>>" (the "expression"),
    binary "binary_shift" .left "<<" (the "expression"),
    binary "bitwise_and" .left "&" (the "expression"),
    binary "bitwise_xor" .left "^" (the "expression"),
    binary "bitwise_or" .left "|" (the "expression"),
    binary "binary_plus" .left "+" (the "expression"),
    binary "binary_plus" .left "-" (the "expression"),
    binary "binary_times" .left "*" (the "expression"),
    binary "binary_times" .left "/" (the "expression"),
    binary "binary_times" .left "%" (the "expression"),
    binary "binary_exp" .right "**" (the "expression"),
    binary "binary_relation" .left "<" (the "expression"),
    binary "binary_relation" .left "<=" (the "expression"),
    binary "binary_equality" .left "==" (the "expression"),
    binary "binary_equality" .left "===" (the "expression"),
    binary "binary_equality" .left "!=" (the "expression"),
    binary "binary_equality" .left "!==" (the "expression"),
    binary "binary_relation" .left ">=" (the "expression"),
    binary "binary_relation" .left ">" (the "expression"),
    binary "ternary" .left "??" (the "expression"),
    binary "binary_relation" .left "instanceof" (the "expression"),
    binary "binary_relation" .left "in"
      (oneOf [the "expression", the "private_property_identifier"])]),
  ("unary_expression", leftOf "unary_void" [
    .field "operator" (oneOf ["!", "~", "-", "+", "typeof", "void", "delete"]),
    .field "argument" (the "expression")]),
  ("update_expression", leftOf (.number 0) [oneOf [
    all [.field "argument" (the "expression"), .field "operator" (oneOf ["++", "--"])],
    all [.field "operator" (oneOf ["++", "--"]), .field "argument" (the "expression")]]]),
  ("sequence_expression", rightOf (.number 0) [commaList1 (the "expression")])]

/-- The letters that a name may start with; digits may follow. -/
def nameStart : CharSet :=
  CharSet.complement <|
    CharSet.ofRanges [(0, 0x1F)] ++ CharSet.space ++ CharSet.digit ++
    CharSet.ofString ":;`\"'@#.,|^&<=>+-*/\\%?!~()[]\x7b\x7d"

/-- A character of a name written by its code. -/
def nameEscape : Shape := .oneOf [
  .all ["\\u", .exactly 4 CharSet.hexDigit],
  .all ["\\u\x7b", .many1 CharSet.hexDigit, "\x7d"]]

def nameShape : Shape := .all [
  .oneOf [nameStart, nameEscape],
  .many (.oneOf [nameStart ++ CharSet.digit, nameEscape])]

/-- Digits, which single underscores may divide. -/
def digits (first rest : CharSet) : Shape := .all [first, .many (.all [.opt "_", rest])]

def decimalDigits : Shape := digits .digit .digit

def radixLiteral (mark : String) (set : CharSet) : Shape :=
  .all ["0", CharSet.ofString mark, digits set set]

def exponentPart : Shape :=
  .all [CharSet.ofString "eE", .opt (CharSet.ofString "-+"), decimalDigits]

def decimalInteger : Shape := .oneOf [
  "0",
  .all [.opt "0", CharSet.range '1' '9', .opt (.all [.opt "_", decimalDigits])]]

def numberShape : Shape :=
  let hex := radixLiteral "xX" .hexDigit
  let binary := radixLiteral "bB" (.range '0' '1')
  let octal := radixLiteral "oO" (.range '0' '7')
  .oneOf [
    hex,
    .all [decimalInteger, ".", .opt decimalDigits, .opt exponentPart],
    .all [".", decimalDigits, .opt exponentPart],
    .all [decimalInteger, exponentPart],
    decimalDigits,
    binary,
    octal,
    .all [.oneOf [hex, binary, octal, decimalDigits], "n"]]

/-- Any character on the line. -/
def lineChar : CharSet := (CharSet.ofString "\n").complement

def literalRules : List (String × Rule) := [
  ("string", oneOf [
    all ["\"",
      many (oneOf [
        shown "string_fragment" (the "unescaped_double_string_fragment"),
        the "escape_sequence"]),
      "\""],
    all ["'",
      many (oneOf [
        shown "string_fragment" (the "unescaped_single_string_fragment"),
        the "escape_sequence"]),
      "'"]]),
  ("unescaped_double_string_fragment",
    immediateRanked 1 (.many1 (CharSet.ofString "\"\\\r\n").complement)),
  ("unescaped_single_string_fragment",
    immediateRanked 1 (.many1 (CharSet.ofString "'\\\r\n").complement)),
  ("escape_sequence", immediate <| .all [
    "\\",
    .oneOf [
      (CharSet.ofString "xu" ++ CharSet.range '0' '7').complement,
      .all [CharSet.range '0' '7', .upTo 2 (CharSet.range '0' '7')],
      .all ["x", .exactly 2 CharSet.hexDigit],
      .all ["u", .exactly 4 CharSet.hexDigit],
      .all ["u\x7b", .many1 CharSet.hexDigit, "\x7d"],
      .all [CharSet.ofString "\r?", CharSet.ofString "\n" ++ CharSet.lineSeparator]]]),
  ("comment", shape <| .oneOf [
    .all ["//", .many (CharSet.ofString "\r\n" ++ CharSet.lineSeparator).complement],
    .all ["/*",
      .many (CharSet.ofString "*").complement, .many1 "*",
      .many (.all [(CharSet.ofString "/*").complement, .many (CharSet.ofString "*").complement,
        .many1 "*"]),
      "/"]]),
  ("template_string", all ["`",
    many (oneOf [
      shown "string_fragment" (the "_template_chars"), the "escape_sequence",
      the "template_substitution"]),
    "`"]),
  ("template_substitution", all ["$\x7b", the "_expressions", "\x7d"]),
  ("regex", all [
    "/", .field "pattern" (the "regex_pattern"),
    .token { body := .text "/", rank := 1, immediate := true },
    opt (.field "flags" (the "regex_flags"))]),
  ("regex_pattern", immediateRanked (-1) <| .many1 <| .oneOf [
    .all ["[",
      .many (.oneOf [.all ["\\", lineChar], (CharSet.ofString "]\n\\").complement]),
      "]"],
    .all ["\\", lineChar],
    (CharSet.ofString "/\\[\n").complement]),
  ("regex_flags", immediate (.many1 (CharSet.range 'a' 'z'))),
  ("number", shape numberShape),
  ("_identifier", oneOf [the "undefined", the "identifier"]),
  ("identifier", shape nameShape),
  ("private_property_identifier", shape (.all ["#", nameShape])),
  ("meta_property", oneOf [all ["new", ".", "target"], all ["import", ".", "meta"]]),
  ("this", "this"),
  ("super", "super"),
  ("true", "true"),
  ("false", "false"),
  ("null", "null"),
  ("undefined", "undefined")]

def classRules : List (String × Rule) := [
  ("arguments", all [
    "(", commaList (opt (oneOf [the "expression", the "spread_element"])), ")"]),
  ("decorator", all ["@",
    oneOf [
      the "identifier",
      shown "member_expression" (the "decorator_member_expression"),
      shown "call_expression" (the "decorator_call_expression"),
      the "parenthesized_expression"]]),
  ("decorator_member_expression", bound "member" [
    .field "object" (oneOf [
      the "identifier", shown "member_expression" (the "decorator_member_expression")]),
    ".", .field "property" (shown "property_identifier" (the "identifier"))]),
  ("decorator_call_expression", bound "call" [
    .field "function" (oneOf [
      the "identifier", shown "member_expression" (the "decorator_member_expression")]),
    .field "arguments" (the "arguments")]),
  ("class_body", all [
    "\x7b",
    many (oneOf [
      all [.field "member" (the "method_definition"), opt ";"],
      all [.field "member" (the "field_definition"), the "_semicolon"],
      .field "member" (the "class_static_block"),
      ";"]),
    "\x7d"]),
  ("field_definition", all [
    decorators, opt (oneOf ["static", staticGet]), .field "property" (the "_property_name"),
    opt (the "_initializer")]),
  ("formal_parameters", all [
    "(", opt (all [commaList1 (the "_formal_parameter"), opt ","]), ")"]),
  ("class_static_block", all [
    "static", opt (the "_automatic_semicolon"), .field "body" (the "statement_block")]),
  ("pattern", .weighted (-1) (oneOf [the "_lhs_expression", the "rest_pattern"])),
  ("rest_pattern", rightOf (.number 0) ["...", the "_lhs_expression"]),
  ("method_definition", all [
    decorators, opt (oneOf ["static", staticGet]), opt "async", opt (oneOf ["get", "set", "*"]),
    .field "name" (the "_property_name"), .field "parameters" (the "formal_parameters"),
    .field "body" (the "statement_block")]),
  ("pair", all [
    .field "key" (the "_property_name"), ":", .field "value" (the "expression")]),
  ("pair_pattern", all [
    .field "key" (the "_property_name"), ":",
    .field "value" (oneOf [the "pattern", the "assignment_pattern"])]),
  ("_property_name", .unreserved <| oneOf [
    nameLike "property_identifier", the "private_property_identifier", the "string",
    the "number", the "computed_property_name"]),
  ("computed_property_name", all ["[", the "expression", "]"]),
  ("_reserved_identifier", oneOf ["get", "set", "async", "await", "static", "export", "let"]),
  ("_semicolon", oneOf [the "_automatic_semicolon", ";"])]

/-- The grammar of scripts. -/
def scripts : Definition where
  rules :=
    ("program", all [opt (the "hash_bang_line"), many (the "statement")]) ::
    ("hash_bang_line", shape (.all ["#!", .many lineChar])) ::
    (moduleRules ++ statementRules ++ expressionRules ++ elementRules ++ functionRules ++
      literalRules ++ classRules)
  scanned := [
    the "_automatic_semicolon", the "_template_chars", the "_ternary_qmark", the "html_comment",
    "||", the "escape_sequence", the "regex_pattern", the "jsx_text"]
  extras := ["comment", "html_comment"]
  separator := .space
  inlined := [
    "_call_signature", "_formal_parameter", "_expressions", "_semicolon", "_identifier",
    "_reserved_identifier", "_jsx_attribute", "_jsx_element_name", "_jsx_child", "_jsx_element",
    "_jsx_attribute_name", "_jsx_attribute_value", "_jsx_identifier", "_lhs_expression"]
  groups := ["statement", "declaration", "expression", "primary_expression", "pattern"]
  word := "identifier"
  reserved := [
    "break", "case", "catch", "class", "const", "continue", "debugger", "default", "delete", "do",
    "else", "export", "extends", "false", "finally", "for", "function", "if", "import", "in",
    "instanceof", "new", "null", "return", "super", "switch", "this", "throw", "true", "try",
    "typeof", "var", "void", "while", "with"]
  ranks := [
    [.inl "member", .inl "template_call", .inl "call", .inr "update_expression", .inl "unary_void",
      .inl "binary_exp", .inl "binary_times", .inl "binary_plus", .inl "binary_shift",
      .inl "binary_compare", .inl "binary_relation", .inl "binary_equality", .inl "bitwise_and",
      .inl "bitwise_xor", .inl "bitwise_or", .inl "logical_and", .inl "logical_or",
      .inl "ternary", .inr "sequence_expression", .inr "arrow_function"],
    [.inl "assign", .inr "primary_expression"],
    [.inl "member", .inl "template_call", .inl "new", .inl "call", .inr "expression"],
    [.inl "declare", .inl "literal"],
    [.inr "primary_expression", .inr "statement_block", .inl "object"],
    [.inr "meta_property", .inr "import"],
    [.inr "import_statement", .inr "import"],
    [.inr "export_statement", .inr "primary_expression"],
    [.inr "lexical_declaration", .inr "primary_expression"]]

end SketchSurvey.Script.Grammar
