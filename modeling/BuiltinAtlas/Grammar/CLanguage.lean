import BuiltinAtlas.Grammar.Rule
import BuiltinAtlas.Grammar.IdentifierClass

/-!
# The C grammar

A grammar of C source text before preprocessing. Directives are part of the grammar, conditional
groups nest like blocks, and a few liberties let common macro idioms through: a macro call may
stand for a type, a block may be a call argument, names may be glued to string literals.

Binding strengths go from `Strength.declaratorParens` (weakest) to `Strength.subscript`.
-/

namespace BuiltinAtlas.Grammar

open Rule

/-- Binding strengths of the expression forms. -/
inductive Strength where
  | declaratorParens | assignment | conditional | logicalOr | logicalAnd | inclusiveOr
  | exclusiveOr | bitwiseAnd | equal | relational | offsetOf | shift | add | multiply | cast
  | sizeOf | unary | call | member | subscript

/-- The numeric order of the binding strengths; plain rules have strength 0. -/
def Strength.level : Strength → Int
  | declaratorParens => -10
  | assignment => -2
  | conditional => -1
  | logicalOr => 1
  | logicalAnd => 2
  | inclusiveOr => 3
  | exclusiveOr => 4
  | bitwiseAnd => 5
  | equal => 6
  | relational => 7
  | offsetOf => 8
  | shift => 9
  | add => 10
  | multiply => 11
  | cast => 12
  | sizeOf => 13
  | unary => 14
  | call => 15
  | member => 16
  | subscript => 17

namespace CLanguage

/-- A reference to a definition. -/
private def r (name : String) : Rule := .symbol name

/-- A rule of a given strength. -/
private def strong (s : Strength) (body : Rule) : Rule := .prec (some s.level) none body

/-- A rule of a given strength whose chains group to the left. -/
private def leftward (s : Strength) (body : Rule) : Rule :=
  .prec (some s.level) (some .left) body

/-- A rule of a given strength whose chains group to the right. -/
private def rightward (s : Strength) (body : Rule) : Rule :=
  .prec (some s.level) (some .right) body

/-- A rule of no particular strength whose chains group to the right. -/
private def rightward0 (body : Rule) : Rule := .prec (some 0) (some .right) body

/-- A rule of strength 1 whose chains group to the right. -/
private def rightward1 (body : Rule) : Rule := .prec (some 1) (some .right) body

/-- A rule of strength 1. -/
private def strong1 (body : Rule) : Rule := .prec (some 1) none body

/-! ## Lexical parts -/

/-- White space, and the line splice. -/
def separators : Pattern :=
  .many (.alt
    (.one ⟨[(9, 13), (32, 32)], false⟩)
    (.concat [.anyOf "\\", .optional (.anyOf "\r"), .anyOf "\n"]))

/-- Decimal digits. -/
private def digit : CharClass := .range '0' '9'

/-- Letters without accents. -/
private def letter : CharClass := (CharClass.range 'A' 'Z').union (.range 'a' 'z')

/-- Hexadecimal digits. -/
private def hexDigit : CharClass := digit.union ((CharClass.range 'A' 'F').union (.range 'a' 'f'))

/-- What words of directives consist of. -/
private def wordChar : CharClass := (digit.union letter).union (.ofString "_")

/-- A line end. -/
private def newline : Pattern := .seq (.optional (.anyOf "\r")) (.anyOf "\n")

/-- Blanks within a line. -/
private def blanks : Pattern := .many (.anyOf " \t")

/-- `#name`, with blanks allowed after the number sign. -/
private def directive (name : String) : Rule :=
  .shownAs ⟨"#" ++ name, false⟩
    (.token (.ofPattern (.concat [.anyOf "#", blanks, .text name])))

/-- The line end behind a directive. -/
private def endOfLine : Rule := .token (Token.ofPattern newline).directly

/-- A character given by its code. -/
private def universalName : Pattern :=
  .alt (.seq (.text "\\u") (.times (.one hexDigit) 4))
    (.seq (.text "\\U") (.times (.one hexDigit) 8))

/-- A word: letters, digits, underscores and dollar signs, of any script, that do not begin with a
digit. -/
private def identifierToken : Token :=
  .ofPattern (.seq
    (.alt (.one (identifierStart.union (.ofString "$_"))) universalName)
    (.many (.alt (.one (identifierContinue.union (.ofString "$"))) universalName)))

/-- Digits in groups, which quotes may separate. -/
private def digitGroups (d : CharClass) : Pattern :=
  .seq (.many1 (.one d)) (.many (.seq (.anyOf "\x27") (.many1 (.one d))))

/-- Perhaps a sign. -/
private def sign : Pattern := .optional (.anyOf "-+")

/-- A number of any base, with fraction, exponent and suffixes. -/
private def numberToken : Token :=
  .ofPattern (.concat [
    sign,
    .optional (.alt (.seq (.anyOf "0") (.anyOf "xX")) (.seq (.anyOf "0") (.anyOf "bB"))),
    .alt
      (.seq
        (.oneOf [
          digitGroups digit,
          .seq (.seq (.anyOf "0") (.anyOf "bB")) (digitGroups digit),
          .seq (.seq (.anyOf "0") (.anyOf "xX")) (digitGroups hexDigit)])
        (.optional (.seq (.anyOf ".") (.optional (digitGroups hexDigit)))))
      (.seq (.anyOf ".") (digitGroups digit)),
    .optional (.seq (.anyOf "eEpP") (.optional (.seq sign (digitGroups hexDigit)))),
    .many (.anyOf "uUlLwWfFbBdD")])

/-- A character with a backslash. -/
private def escapeToken : Token :=
  (Token.ofPattern (.seq (.anyOf "\\") (.oneOf [
    .noneOf "xuU",
    .seq (.times (.one digit) 2) (.optional (.one digit)),
    .seq (.anyOf "x") (.seq (.one hexDigit) (.upTo (.one hexDigit) 3)),
    .seq (.anyOf "u") (.times (.one hexDigit) 4),
    .seq (.anyOf "U") (.times (.one hexDigit) 8)]))).ranked 1

/-- A comment to the end of the line, which backslashes can continue, or one between marks. -/
private def commentToken : Token :=
  .ofPattern (.alt
    (.seq (.text "//")
      (.many (.alt
        (.seq (.many1 (.anyOf "\\")) (.alt (.noneOf "\n") newline))
        (.noneOf "\\\n"))))
    (.concat [
      .text "/*",
      .many (.noneOf "*"),
      .many1 (.anyOf "*"),
      .many (.concat [.noneOf "/*", .many (.noneOf "*"), .many1 (.anyOf "*")]),
      .anyOf "/"]))

/-! ## Preprocessor directives -/

/-- The five rules of a conditional group whose items are of one sort. -/
private def conditional (suffix : String) (content : Rule) (level : Int) : List Definition :=
  let ranked (body : Rule) : Rule := .prec (some level) none body
  let part (name : String) : Rule :=
    if suffix.isEmpty then r name else symbolAs (name ++ suffix) name
  let alternative : Rule :=
    .field .alternative (optional (oneOf
      [part "preproc_else", part "preproc_elif", part "preproc_elifdef"]))
  [ ⟨"preproc_if" ++ suffix, ranked (sequence [
      directive "if",
      .field .condition (r "_preproc_expression"),
      "\n",
      many content,
      alternative,
      directive "endif"])⟩,
    ⟨"preproc_ifdef" ++ suffix, ranked (sequence [
      .choice (directive "ifdef") (directive "ifndef"),
      .field .name (r "identifier"),
      many content,
      alternative,
      directive "endif"])⟩,
    ⟨"preproc_else" ++ suffix, ranked (sequence [
      directive "else",
      many content])⟩,
    ⟨"preproc_elif" ++ suffix, ranked (sequence [
      directive "elif",
      .field .condition (r "_preproc_expression"),
      "\n",
      many content,
      alternative])⟩,
    ⟨"preproc_elifdef" ++ suffix, ranked (sequence [
      .choice (directive "elifdef") (directive "elifndef"),
      .field .name (r "identifier"),
      many content,
      alternative])⟩]

/-- The binary operators and their strengths. -/
private def binaryOperators : List (String × Strength) :=
  [("+", .add), ("-", .add), ("*", .multiply), ("/", .multiply), ("%", .multiply),
   ("||", .logicalOr), ("&&", .logicalAnd), ("|", .inclusiveOr), ("^", .exclusiveOr),
   ("&", .bitwiseAnd), ("==", .equal), ("!=", .equal), (">", .relational),
   (">=", .relational), ("<=", .relational), ("<", .relational), ("<<", .shift),
   (">>", .shift)]

/-- An operator between two operands of one sort. -/
private def binary (operand : Rule) : Rule :=
  oneOf (binaryOperators.map fun (op, s) ↦ leftward s (sequence [
    .field .left operand,
    .field .operator op,
    .field .right operand]))

/-- The rules of preprocessor directives. -/
private def directives : List Definition :=
  [ ⟨"preproc_include", sequence [
      directive "include",
      .field .path (oneOf [
        r "string_literal",
        r "system_lib_string",
        r "identifier",
        symbolAs "preproc_call_expression" "call_expression"]),
      endOfLine]⟩,
    ⟨"preproc_def", sequence [
      directive "define",
      .field .name (r "identifier"),
      .field .value (optional (r "preproc_arg")),
      endOfLine]⟩,
    ⟨"preproc_function_def", sequence [
      directive "define",
      .field .name (r "identifier"),
      .field .parameters (r "preproc_params"),
      .field .value (optional (r "preproc_arg")),
      endOfLine]⟩,
    ⟨"preproc_params", sequence [
      .token (Token.ofText "(").directly,
      commaSep (.choice (r "identifier") "..."),
      ")"]⟩,
    ⟨"preproc_call", sequence [
      .field .directive (r "preproc_directive"),
      .field .argument (optional (r "preproc_arg")),
      endOfLine]⟩] ++
  conditional "" (r "_block_item") 0 ++
  conditional "_in_field_declaration_list" (r "_field_declaration_list_item") 0 ++
  conditional "_in_enumerator_list" (.seq (r "enumerator") ",") 0 ++
  conditional "_in_enumerator_list_no_comma" (r "enumerator") (-1) ++
  [ ⟨"preproc_arg", .token ((Token.ofPattern (.seq
      (.one (CharClass.except ⟨[(9, 13), (32, 32)], false⟩))
      (.many (.oneOf [
        .noneOf "/\n",
        .seq (.anyOf "/") (.noneOf "*"),
        .seq (.anyOf "\\") newline])))).ranked (-1))⟩,
    ⟨"preproc_directive", .token (.ofPattern (.concat [
      .anyOf "#", blanks, .one (digit.union letter), .many (.one wordChar)]))⟩,
    ⟨"_preproc_expression", oneOf [
      r "identifier",
      symbolAs "preproc_call_expression" "call_expression",
      r "number_literal",
      r "char_literal",
      r "preproc_defined",
      symbolAs "preproc_unary_expression" "unary_expression",
      symbolAs "preproc_binary_expression" "binary_expression",
      symbolAs "preproc_parenthesized_expression" "parenthesized_expression"]⟩,
    ⟨"preproc_parenthesized_expression", sequence ["(", r "_preproc_expression", ")"]⟩,
    ⟨"preproc_defined", .choice
      (strong .call (sequence ["defined", "(", r "identifier", ")"]))
      (.seq "defined" (r "identifier"))⟩,
    ⟨"preproc_unary_expression", leftward .unary (.seq
      (.field .operator (oneOf ["!", "~", "-", "+"]))
      (.field .argument (r "_preproc_expression")))⟩,
    ⟨"preproc_call_expression", strong .call (.seq
      (.field .function (r "identifier"))
      (.field .arguments (symbolAs "preproc_argument_list" "argument_list")))⟩,
    ⟨"preproc_argument_list", sequence ["(", commaSep (r "_preproc_expression"), ")"]⟩,
    ⟨"preproc_binary_expression", binary (r "_preproc_expression")⟩]

/-! ## Declarations -/

/-- What can stand at the top level or in a block, which differ in their statements. -/
private def blockItems (statements : Rule) : Rule :=
  oneOf [
    r "function_definition",
    symbolAs "_old_style_function_definition" "function_definition",
    r "linkage_specification",
    r "declaration",
    statements,
    r "attributed_statement",
    r "type_definition",
    r "_empty_declaration",
    r "preproc_if",
    r "preproc_ifdef",
    r "preproc_include",
    r "preproc_def",
    r "preproc_function_def",
    r "preproc_call"]

/-- The words that make sizes of numbers. -/
private def sizeWords : Rule := oneOf ["signed", "unsigned", "long", "short"]

/-- A declarator of one sort (`""`, `"_field"`, `"_type"`) in parentheses. -/
private def parenthesized (inner : String) : Rule :=
  .dynamic Strength.declaratorParens.level
    (sequence ["(", optional (r "ms_call_modifier"), r inner, ")"])

/-- A declarator with attributes behind it. -/
private def attributed (inner : String) : Rule :=
  rightward0 (.seq (r inner) (.repeat1 (r "attribute_declaration")))

/-- A pointer declarator of one sort. -/
private def pointer (inner : String) : Rule :=
  .dynamic 1 (rightward0 (sequence [
    optional (r "ms_based_modifier"),
    "*",
    many (r "ms_pointer_modifier"),
    many (r "type_qualifier"),
    .field .declarator (r inner)]))

/-- An array declarator around another one. -/
private def arrayOf (inner : Rule) : Rule :=
  strong1 (sequence [
    .field .declarator inner,
    "[",
    many (.choice (r "type_qualifier") "static"),
    .field .size (optional (.choice (r "expression") "*")),
    "]"])

/-- A function declarator around another one. -/
private def functionOf (inner : Rule) : Rule :=
  strong1 (.seq (.field .declarator inner) (.field .parameters (r "parameter_list")))

/-- The rules of declarators. -/
private def declarators : List Definition :=
  [ ⟨"_declarator", oneOf [
      r "attributed_declarator",
      r "pointer_declarator",
      r "function_declarator",
      r "array_declarator",
      r "parenthesized_declarator",
      r "identifier"]⟩,
    ⟨"_declaration_declarator", oneOf [
      r "attributed_declarator",
      r "pointer_declarator",
      symbolAs "_function_declaration_declarator" "function_declarator",
      r "array_declarator",
      r "parenthesized_declarator",
      r "identifier"]⟩,
    ⟨"_field_declarator", oneOf [
      symbolAs "attributed_field_declarator" "attributed_declarator",
      symbolAs "pointer_field_declarator" "pointer_declarator",
      symbolAs "function_field_declarator" "function_declarator",
      symbolAs "array_field_declarator" "array_declarator",
      symbolAs "parenthesized_field_declarator" "parenthesized_declarator",
      r "_field_identifier"]⟩,
    ⟨"_type_declarator", oneOf [
      symbolAs "attributed_type_declarator" "attributed_declarator",
      symbolAs "pointer_type_declarator" "pointer_declarator",
      symbolAs "function_type_declarator" "function_declarator",
      symbolAs "array_type_declarator" "array_declarator",
      symbolAs "parenthesized_type_declarator" "parenthesized_declarator",
      r "_type_identifier",
      shown sizeWords "primitive_type",
      r "primitive_type"]⟩,
    ⟨"_abstract_declarator", oneOf [
      r "abstract_pointer_declarator",
      r "abstract_function_declarator",
      r "abstract_array_declarator",
      r "abstract_parenthesized_declarator"]⟩,
    ⟨"parenthesized_declarator", parenthesized "_declarator"⟩,
    ⟨"parenthesized_field_declarator", parenthesized "_field_declarator"⟩,
    ⟨"parenthesized_type_declarator", parenthesized "_type_declarator"⟩,
    ⟨"abstract_parenthesized_declarator", strong1 (sequence [
      "(", optional (r "ms_call_modifier"), r "_abstract_declarator", ")"])⟩,
    ⟨"attributed_declarator", attributed "_declarator"⟩,
    ⟨"attributed_field_declarator", attributed "_field_declarator"⟩,
    ⟨"attributed_type_declarator", attributed "_type_declarator"⟩,
    ⟨"pointer_declarator", pointer "_declarator"⟩,
    ⟨"pointer_field_declarator", pointer "_field_declarator"⟩,
    ⟨"pointer_type_declarator", pointer "_type_declarator"⟩,
    ⟨"abstract_pointer_declarator", .dynamic 1 (rightward0 (sequence [
      "*",
      many (r "ms_pointer_modifier"),
      many (r "type_qualifier"),
      .field .declarator (optional (r "_abstract_declarator"))]))⟩,
    ⟨"function_declarator", rightward1 (sequence [
      .field .declarator (r "_declarator"),
      .field .parameters (r "parameter_list"),
      optional (r "gnu_asm_expression"),
      many (oneOf [
        r "attribute_specifier",
        r "identifier",
        symbolAs "preproc_call_expression" "call_expression"])])⟩,
    ⟨"_function_declaration_declarator", rightward1 (sequence [
      .field .declarator (r "_declarator"),
      .field .parameters (r "parameter_list"),
      optional (r "gnu_asm_expression"),
      many (r "attribute_specifier")])⟩,
    ⟨"function_field_declarator", functionOf (r "_field_declarator")⟩,
    ⟨"function_type_declarator", functionOf (r "_type_declarator")⟩,
    ⟨"abstract_function_declarator", functionOf (optional (r "_abstract_declarator"))⟩,
    ⟨"_old_style_function_declarator", .seq
      (.field .declarator (r "_declarator"))
      (.field .parameters (symbolAs "_old_style_parameter_list" "parameter_list"))⟩,
    ⟨"array_declarator", arrayOf (r "_declarator")⟩,
    ⟨"array_field_declarator", arrayOf (r "_field_declarator")⟩,
    ⟨"array_type_declarator", arrayOf (r "_type_declarator")⟩,
    ⟨"abstract_array_declarator", arrayOf (optional (r "_abstract_declarator"))⟩,
    ⟨"init_declarator", sequence [
      .field .declarator (r "_declarator"),
      "=",
      .field .value (.choice (r "initializer_list") (r "expression"))]⟩]

/-- The rules of declarations. -/
private def declarations : List Definition :=
  [ ⟨"function_definition", sequence [
      optional (r "ms_call_modifier"),
      r "_declaration_specifiers",
      optional (r "ms_call_modifier"),
      .field .declarator (r "_declarator"),
      .field .body (r "compound_statement")]⟩,
    ⟨"_old_style_function_definition", sequence [
      optional (r "ms_call_modifier"),
      r "_declaration_specifiers",
      .field .declarator (symbolAs "_old_style_function_declarator" "function_declarator"),
      many (r "declaration"),
      .field .body (r "compound_statement")]⟩,
    ⟨"declaration", sequence [
      r "_declaration_specifiers",
      commaSep1 (.field .declarator (.choice
        (sequence [
          optional (r "ms_call_modifier"),
          r "_declaration_declarator",
          optional (r "gnu_asm_expression")])
        (r "init_declarator"))),
      ";"]⟩,
    ⟨"type_definition", sequence [
      optional "__extension__",
      "typedef",
      r "_type_definition_type",
      r "_type_definition_declarators",
      many (r "attribute_specifier"),
      ";"]⟩,
    ⟨"_type_definition_type", sequence [
      many (r "type_qualifier"),
      .field .typed (r "type_specifier"),
      many (r "type_qualifier")]⟩,
    ⟨"_type_definition_declarators", commaSep1 (.field .declarator (r "_type_declarator"))⟩,
    ⟨"_declaration_modifiers", oneOf [
      r "storage_class_specifier",
      r "type_qualifier",
      r "attribute_specifier",
      r "attribute_declaration",
      r "ms_declspec_modifier"]⟩,
    ⟨"_declaration_specifiers", rightward0 (sequence [
      many (r "_declaration_modifiers"),
      .field .typed (r "type_specifier"),
      many (r "_declaration_modifiers")])⟩,
    ⟨"linkage_specification", sequence [
      "extern",
      .field .value (r "string_literal"),
      .field .body (oneOf [
        r "function_definition",
        r "declaration",
        r "declaration_list"])]⟩,
    ⟨"attribute_specifier", sequence [
      .choice "__attribute__" "__attribute", "(", r "argument_list", ")"]⟩,
    ⟨"attribute", sequence [
      optional (.seq (.field .scope (r "identifier")) "::"),
      .field .name (r "identifier"),
      optional (r "argument_list")]⟩,
    ⟨"attribute_declaration", sequence ["[[", commaSep1 (r "attribute"), "]]"]⟩,
    ⟨"ms_declspec_modifier", sequence ["__declspec", "(", r "identifier", ")"]⟩,
    ⟨"ms_based_modifier", .seq "__based" (r "argument_list")⟩,
    ⟨"ms_call_modifier", oneOf [
      "__cdecl", "__clrcall", "__stdcall", "__fastcall", "__thiscall", "__vectorcall"]⟩,
    ⟨"ms_restrict_modifier", "__restrict"⟩,
    ⟨"ms_unsigned_ptr_modifier", "__uptr"⟩,
    ⟨"ms_signed_ptr_modifier", "__sptr"⟩,
    ⟨"ms_unaligned_ptr_modifier", .choice "_unaligned" "__unaligned"⟩,
    ⟨"ms_pointer_modifier", oneOf [
      r "ms_unaligned_ptr_modifier",
      r "ms_restrict_modifier",
      r "ms_unsigned_ptr_modifier",
      r "ms_signed_ptr_modifier"]⟩,
    ⟨"declaration_list", sequence ["\x7b", many (r "_block_item"), "\x7d"]⟩] ++
  declarators ++
  [ ⟨"compound_statement", sequence ["\x7b", many (r "_block_item"), "\x7d"]⟩,
    ⟨"storage_class_specifier", oneOf [
      "extern", "static", "auto", "register", "inline", "__inline", "__inline__",
      "__forceinline", "thread_local", "__thread"]⟩,
    ⟨"type_qualifier", oneOf [
      "const", "constexpr", "volatile", "restrict", "__restrict__", "__extension__",
      "_Atomic", "_Noreturn", "noreturn", "_Nonnull", r "alignas_qualifier"]⟩,
    ⟨"alignas_qualifier", sequence [
      .choice "alignas" "_Alignas",
      "(",
      .choice (r "expression") (r "type_descriptor"),
      ")"]⟩]

/-! ## Types -/

/-- The conditional groups of enumerators of one sort. -/
private def enumeratorGroup (suffix : String) : List Rule :=
  [ symbolAs ("preproc_if" ++ suffix) "preproc_if",
    symbolAs ("preproc_ifdef" ++ suffix) "preproc_ifdef"]

/-- A structure or union. -/
private def aggregate (word : String) (attributes : List Rule) : Rule :=
  rightward0 (sequence ([(word : Rule)] ++ attributes ++ [
    .choice
      (.seq
        (.field .name (r "_type_identifier"))
        (.field .body (optional (r "field_declaration_list"))))
      (.field .body (r "field_declaration_list")),
    optional (r "attribute_specifier")]))

/-- The rules of types. -/
private def types : List Definition :=
  [ ⟨"type_specifier", oneOf [
      r "struct_specifier",
      r "union_specifier",
      r "enum_specifier",
      r "macro_type_specifier",
      r "sized_type_specifier",
      r "primitive_type",
      r "_type_identifier"]⟩,
    ⟨"sized_type_specifier",
      let base : Rule := .field .typed (optional (.choice
        (.dynamic (-1) (r "_type_identifier"))
        (r "primitive_type")))
      .choice
        (sequence [many sizeWords, base, .repeat1 sizeWords])
        (sequence [.repeat1 sizeWords, many (r "type_qualifier"), base, many sizeWords])⟩,
    ⟨"primitive_type", .token (.ofWords (
      ["bool", "char", "int", "float", "double", "void", "size_t", "ssize_t", "ptrdiff_t",
       "intptr_t", "uintptr_t", "charptr_t", "nullptr_t", "max_align_t"] ++
      ["8", "16", "32", "64"].flatMap fun n ↦
        ["int" ++ n ++ "_t", "uint" ++ n ++ "_t", "char" ++ n ++ "_t"]))⟩,
    ⟨"enum_specifier", sequence [
      "enum",
      .choice
        (sequence [
          .field .name (r "_type_identifier"),
          optional (.seq ":" (.field .underlyingType (r "primitive_type"))),
          .field .body (optional (r "enumerator_list"))])
        (.field .body (r "enumerator_list")),
      optional (r "attribute_specifier")]⟩,
    ⟨"enumerator_list", sequence [
      "\x7b",
      many (oneOf (
        [.seq (r "enumerator") ","] ++
        enumeratorGroup "_in_enumerator_list" ++
        [.seq (r "preproc_call") ","])),
      optional (oneOf (
        [r "enumerator"] ++
        enumeratorGroup "_in_enumerator_list_no_comma" ++
        [r "preproc_call"])),
      "\x7d"]⟩,
    ⟨"struct_specifier", aggregate "struct"
      [optional (r "attribute_specifier"), optional (r "ms_declspec_modifier")]⟩,
    ⟨"union_specifier", aggregate "union" [optional (r "ms_declspec_modifier")]⟩,
    ⟨"field_declaration_list",
      sequence ["\x7b", many (r "_field_declaration_list_item"), "\x7d"]⟩,
    ⟨"_field_declaration_list_item", oneOf [
      r "field_declaration",
      r "preproc_def",
      r "preproc_function_def",
      r "preproc_call",
      symbolAs "preproc_if_in_field_declaration_list" "preproc_if",
      symbolAs "preproc_ifdef_in_field_declaration_list" "preproc_ifdef"]⟩,
    ⟨"field_declaration", sequence [
      r "_declaration_specifiers",
      optional (r "_field_declaration_declarator"),
      optional (r "attribute_specifier"),
      ";"]⟩,
    ⟨"_field_declaration_declarator", commaSep1 (.seq
      (.field .declarator (r "_field_declarator"))
      (optional (r "bitfield_clause")))⟩,
    ⟨"bitfield_clause", .seq ":" (r "expression")⟩,
    ⟨"enumerator", .seq
      (.field .name (r "identifier"))
      (optional (.seq "=" (.field .value (r "expression"))))⟩,
    ⟨"variadic_parameter", .seq "..." .blank⟩,
    ⟨"parameter_list", sequence [
      "(",
      .choice
        (commaSep (.choice (r "parameter_declaration") (r "variadic_parameter")))
        (r "compound_statement"),
      ")"]⟩,
    ⟨"_old_style_parameter_list", sequence [
      "(",
      commaSep (.choice (r "identifier") (r "variadic_parameter")),
      ")"]⟩,
    ⟨"parameter_declaration", sequence [
      r "_declaration_specifiers",
      optional (.field .declarator (.choice (r "_declarator") (r "_abstract_declarator"))),
      many (r "attribute_specifier")]⟩]

/-! ## Statements -/

/-- An expression, or several ones with commas. -/
private def anyValue : Rule := .choice (r "expression") (r "comma_expression")

/-- The statements that can also stand at the top level. -/
private def plainStatements : List Rule :=
  [ r "if_statement",
    r "switch_statement",
    r "do_statement",
    r "while_statement",
    r "for_statement",
    r "return_statement",
    r "break_statement",
    r "continue_statement",
    r "goto_statement"]

/-- The rules of statements. -/
private def statements : List Definition :=
  [ ⟨"attributed_statement", .seq (.repeat1 (r "attribute_declaration")) (r "statement")⟩,
    ⟨"statement", .choice (r "case_statement") (r "_non_case_statement")⟩,
    ⟨"_non_case_statement", oneOf (
      [ r "attributed_statement",
        r "labeled_statement",
        r "compound_statement",
        r "expression_statement"] ++
      plainStatements ++
      [r "seh_try_statement", r "seh_leave_statement"])⟩,
    ⟨"_top_level_statement", oneOf (
      [ r "case_statement",
        r "attributed_statement",
        r "labeled_statement",
        r "compound_statement",
        symbolAs "_top_level_expression_statement" "expression_statement"] ++
      plainStatements)⟩,
    ⟨"labeled_statement", sequence [
      .field .label (r "_statement_identifier"),
      ":",
      .choice (r "declaration") (r "statement")]⟩,
    ⟨"_top_level_expression_statement",
      .seq (optional (r "_expression_not_binary")) ";"⟩,
    ⟨"expression_statement", .seq (optional anyValue) ";"⟩,
    ⟨"if_statement", rightward0 (sequence [
      "if",
      .field .condition (r "parenthesized_expression"),
      .field .consequence (r "statement"),
      optional (.field .alternative (r "else_clause"))])⟩,
    ⟨"else_clause", .seq "else" (r "statement")⟩,
    ⟨"switch_statement", sequence [
      "switch",
      .field .condition (r "parenthesized_expression"),
      .field .body (r "compound_statement")]⟩,
    ⟨"case_statement", rightward0 (sequence [
      .choice (.seq "case" (.field .value (r "expression"))) "default",
      ":",
      many (oneOf [r "_non_case_statement", r "declaration", r "type_definition"])])⟩,
    ⟨"while_statement", sequence [
      "while",
      .field .condition (r "parenthesized_expression"),
      .field .body (r "statement")]⟩,
    ⟨"do_statement", sequence [
      "do",
      .field .body (r "statement"),
      "while",
      .field .condition (r "parenthesized_expression"),
      ";"]⟩,
    ⟨"for_statement", sequence [
      "for", "(", r "_for_statement_body", ")", .field .body (r "statement")]⟩,
    ⟨"_for_statement_body", sequence [
      .choice
        (.field .initializer (r "declaration"))
        (.seq (.field .initializer (optional anyValue)) ";"),
      .field .condition (optional anyValue),
      ";",
      .field .update (optional anyValue)]⟩,
    ⟨"return_statement", sequence ["return", optional anyValue, ";"]⟩,
    ⟨"break_statement", .seq "break" ";"⟩,
    ⟨"continue_statement", .seq "continue" ";"⟩,
    ⟨"goto_statement", sequence ["goto", .field .label (r "_statement_identifier"), ";"]⟩,
    ⟨"seh_try_statement", sequence [
      "__try",
      .field .body (r "compound_statement"),
      .choice (r "seh_except_clause") (r "seh_finally_clause")]⟩,
    ⟨"seh_except_clause", sequence [
      "__except",
      .field .filter (r "parenthesized_expression"),
      .field .body (r "compound_statement")]⟩,
    ⟨"seh_finally_clause", .seq "__finally" (.field .body (r "compound_statement"))⟩,
    ⟨"seh_leave_statement", .seq "__leave" ";"⟩]

/-! ## Expressions -/

/-- Operands behind a colon. -/
private def asmOperands (operand : String) : Rule :=
  .seq ":" (commaSep (.field .operand (r operand)))

/-- An operand: perhaps a name, a constraint and a value. -/
private def asmOperand : Rule :=
  sequence [
    optional (sequence ["[", .field .symbol (r "identifier"), "]"]),
    .field .constraint (r "string_literal"),
    "(",
    .field .value (r "expression"),
    ")"]

/-- A type in parentheses, with something behind it. -/
private def typeInParens (tail : List Rule) : Rule :=
  sequence [("(" : Rule), .field .typed (r "type_descriptor"), sequence tail, ")"]

/-- The rules of inline assembly. -/
private def inlineAssembly : List Definition :=
  [ ⟨"gnu_asm_expression", strong .call (sequence [
      oneOf ["asm", "__asm__", "__asm"],
      many (r "gnu_asm_qualifier"),
      "(",
      .field .assemblyCode (r "_string"),
      optional (.seq
        (.field .outputOperands (r "gnu_asm_output_operand_list"))
        (optional (.seq
          (.field .inputOperands (r "gnu_asm_input_operand_list"))
          (optional (.seq
            (.field .clobbers (r "gnu_asm_clobber_list"))
            (optional (.field .gotoLabels (r "gnu_asm_goto_list")))))))),
      ")"])⟩,
    ⟨"gnu_asm_qualifier", oneOf ["volatile", "__volatile__", "inline", "goto"]⟩,
    ⟨"gnu_asm_output_operand_list", asmOperands "gnu_asm_output_operand"⟩,
    ⟨"gnu_asm_output_operand", asmOperand⟩,
    ⟨"gnu_asm_input_operand_list", asmOperands "gnu_asm_input_operand"⟩,
    ⟨"gnu_asm_input_operand", asmOperand⟩,
    ⟨"gnu_asm_clobber_list", .seq ":" (commaSep (.field .register (r "_string")))⟩,
    ⟨"gnu_asm_goto_list", .seq ":" (commaSep (.field .label (r "identifier")))⟩]

/-- The rules of expressions. -/
private def expressions : List Definition :=
  [ ⟨"expression", .choice (r "_expression_not_binary") (r "binary_expression")⟩,
    ⟨"_expression_not_binary", oneOf (["conditional_expression", "assignment_expression",
      "unary_expression", "update_expression", "cast_expression", "pointer_expression",
      "sizeof_expression", "alignof_expression", "offsetof_expression", "generic_expression",
      "subscript_expression", "call_expression", "field_expression",
      "compound_literal_expression", "identifier", "number_literal", "_string", "true",
      "false", "null", "char_literal", "parenthesized_expression", "gnu_asm_expression",
      "extension_expression"].map .symbol)⟩,
    ⟨"_string", .prec (some 0) (some .left)
      (.choice (r "string_literal") (r "concatenated_string"))⟩,
    ⟨"comma_expression", sequence [
      .field .left (r "expression"),
      ",",
      .field .right anyValue]⟩,
    ⟨"conditional_expression", rightward .conditional (sequence [
      .field .condition (r "expression"),
      "?",
      optional (.field .consequence anyValue),
      ":",
      .field .alternative (r "expression")])⟩,
    ⟨"_assignment_left_expression", oneOf [
      r "identifier",
      r "call_expression",
      r "field_expression",
      r "pointer_expression",
      r "subscript_expression",
      r "parenthesized_expression"]⟩,
    ⟨"assignment_expression", rightward .assignment (sequence [
      .field .left (r "_assignment_left_expression"),
      .field .operator (oneOf [
        "=", "*=", "/=", "%=", "+=", "-=", "<<=", ">>=", "&=", "^=", "|="]),
      .field .right (r "expression")])⟩,
    ⟨"pointer_expression", leftward .cast (.seq
      (.field .operator (.choice "*" "&"))
      (.field .argument (r "expression")))⟩,
    ⟨"unary_expression", leftward .unary (.seq
      (.field .operator (oneOf ["!", "~", "-", "+"]))
      (.field .argument (r "expression")))⟩,
    ⟨"binary_expression", binary (r "expression")⟩,
    ⟨"update_expression",
      let argument : Rule := .field .argument (r "expression")
      let operator : Rule := .field .operator (.choice "--" "++")
      rightward .unary (.choice (.seq operator argument) (.seq argument operator))⟩,
    ⟨"cast_expression", strong .cast (sequence [
      "(",
      .field .typed (r "type_descriptor"),
      ")",
      .field .value (r "expression")])⟩,
    ⟨"type_descriptor", sequence [
      many (r "type_qualifier"),
      .field .typed (r "type_specifier"),
      many (r "type_qualifier"),
      .field .declarator (optional (r "_abstract_declarator"))]⟩,
    ⟨"sizeof_expression", strong .sizeOf (.seq "sizeof" (.choice
      (.field .value (r "expression"))
      (typeInParens [])))⟩,
    ⟨"alignof_expression", strong .sizeOf (.seq
      (oneOf ["__alignof__", "__alignof", "_alignof", "alignof", "_Alignof"])
      (typeInParens []))⟩,
    ⟨"offsetof_expression", strong .offsetOf (.seq
      "offsetof"
      (typeInParens [(",": Rule), .field .member (r "_field_identifier")]))⟩,
    ⟨"generic_expression", strong .call (sequence [
      "_Generic",
      "(",
      r "expression",
      ",",
      commaSep1 (sequence [r "type_descriptor", ":", r "expression"]),
      ")"])⟩,
    ⟨"subscript_expression", strong .subscript (sequence [
      .field .argument (r "expression"),
      "[",
      .field .index (r "expression"),
      "]"])⟩,
    ⟨"call_expression", strong .call (.seq
      (.field .function (r "expression"))
      (.field .arguments (r "argument_list")))⟩] ++
  inlineAssembly ++
  [ ⟨"extension_expression", .seq "__extension__" (r "expression")⟩,
    ⟨"argument_list", sequence [
      "(", commaSep (.choice (r "expression") (r "compound_statement")), ")"]⟩,
    ⟨"field_expression", .seq
      (strong .member (.seq
        (.field .argument (r "expression"))
        (.field .operator (.choice "." "->"))))
      (.field .member (r "_field_identifier"))⟩,
    ⟨"compound_literal_expression", sequence [
      "(",
      .field .typed (r "type_descriptor"),
      ")",
      .field .value (r "initializer_list")]⟩,
    ⟨"parenthesized_expression", sequence [
      "(",
      oneOf [r "expression", r "comma_expression", r "compound_statement"],
      ")"]⟩,
    ⟨"initializer_list", sequence [
      "\x7b",
      commaSep (oneOf [r "initializer_pair", r "expression", r "initializer_list"]),
      optional ",",
      "\x7d"]⟩,
    ⟨"initializer_pair",
      let value : Rule := .field .value (.choice (r "expression") (r "initializer_list"))
      .choice
        (sequence [
          .field .designator (.repeat1 (oneOf [
            r "subscript_designator",
            r "field_designator",
            r "subscript_range_designator"])),
          "=",
          value])
        (sequence [.field .designator (r "_field_identifier"), ":", value])⟩,
    ⟨"subscript_designator", sequence ["[", r "expression", "]"]⟩,
    ⟨"subscript_range_designator", sequence [
      "[", .field .start (r "expression"), "...", .field .finish (r "expression"), "]"]⟩,
    ⟨"field_designator", .seq "." (r "_field_identifier")⟩,
    ⟨"number_literal", .token numberToken⟩,
    ⟨"char_literal", sequence [
      oneOf ["L\x27", "u\x27", "U\x27", "u8\x27", "\x27"],
      .repeat1 (.choice
        (r "escape_sequence")
        (shown (.token (Token.ofPattern (.noneOf "\n\x27")).directly) "character")),
      "\x27"]⟩,
    ⟨"concatenated_string", rightward0 (.seq
      (oneOf [
        .seq (r "identifier") (r "string_literal"),
        .seq (r "string_literal") (r "string_literal"),
        .seq (r "string_literal") (r "identifier")])
      (many (.choice (r "string_literal") (r "identifier"))))⟩,
    ⟨"string_literal", sequence [
      oneOf ["L\"", "u\"", "U\"", "u8\"", "\""],
      many (.choice
        (shown (.token ((Token.ofPattern (.many1 (.noneOf "\\\"\n"))).directly.ranked 1))
          "string_content")
        (r "escape_sequence")),
      "\""]⟩,
    ⟨"escape_sequence", .token escapeToken⟩,
    ⟨"system_lib_string", .token (.ofPattern (.concat [
      .anyOf "<", .many (.alt (.noneOf ">\n") (.text "\\>")), .anyOf ">"]))⟩,
    ⟨"true", .token (.ofWords ["TRUE", "true"])⟩,
    ⟨"false", .token (.ofWords ["FALSE", "false"])⟩,
    ⟨"null", .choice "NULL" "nullptr"⟩,
    ⟨"identifier", .token identifierToken⟩,
    ⟨"_type_identifier", symbolAs "identifier" "type_identifier"⟩,
    ⟨"_field_identifier", symbolAs "identifier" "field_identifier"⟩,
    ⟨"_statement_identifier", symbolAs "identifier" "statement_identifier"⟩,
    ⟨"_empty_declaration", .seq (r "type_specifier") ";"⟩,
    ⟨"macro_type_specifier", .dynamic (-1) (sequence [
      .field .name (r "identifier"),
      "(",
      .field .typed (r "type_descriptor"),
      ")"])⟩,
    ⟨"comment", .token commentToken⟩]

end CLanguage

/-- The grammar of C source files. -/
def cLanguage : Description where
  definitions :=
    [ ⟨"source_file", Rule.many (.symbol "_top_level_item")⟩,
      ⟨"_top_level_item", CLanguage.blockItems (.symbol "_top_level_statement")⟩,
      ⟨"_block_item", CLanguage.blockItems (.symbol "statement")⟩] ++
    CLanguage.directives ++ CLanguage.declarations ++ CLanguage.types ++
    CLanguage.statements ++ CLanguage.expressions
  word := "identifier"
  extra := "comment"
  separators := CLanguage.separators
  inline :=
    ["_type_identifier", "_field_identifier", "_statement_identifier", "_non_case_statement",
     "_assignment_left_expression", "_expression_not_binary"]
  supertypes :=
    ["expression", "statement", "type_specifier", "_declarator", "_field_declarator",
     "_type_declarator", "_abstract_declarator"]

end BuiltinAtlas.Grammar
