/-
# HookAudit.Query.Vocabulary — the words that queries for a grammar may use.

A grammar has named kinds of nodes, unnamed ones that stand for their own text, and roles.  A family
is a name for several kinds.  Queries with other words are refused.
-/
import HookAudit.Language.Basic

namespace HookAudit.Query

/-- The words of a grammar. -/
structure Vocabulary where
  /-- The named kinds. -/
  kinds : List Text
  /-- The texts of unnamed nodes. -/
  tokens : List Text
  /-- The roles. -/
  fields : List Text
  /-- Names for several kinds. -/
  families : List (Text × List Text)

namespace Vocabulary

/-- Words between blanks. -/
def listed (words : String) : List Text := Text.words words

/-- A family with its kinds. -/
def family (name : Text) (kinds : String) : Text × List Text := (name, listed kinds)

/-- The kinds that a name stands for.  A beginning of two reserved words stands for nodes that no
sound source has. -/
def test? (v : Vocabulary) (name : Text) : Option (List String) :=
  if ["ERROR", "MISSING"].any fun word => name.isPrefixOf (Text.ofString word) then some ["ERROR"]
  else match v.families.lookup name with
    | some kinds => some (kinds.map Text.toString)
    | none => if v.kinds.contains name then some [Text.toString name] else none

/-- The words of two vocabularies. -/
def join (a b : Vocabulary) : Vocabulary where
  kinds := a.kinds ++ b.kinds
  tokens := a.tokens ++ b.tokens
  fields := a.fields ++ b.fields
  families := a.families ++ b.families

/-! ## Python -/

/-- The words of the Python grammar. -/
def python : Vocabulary where
  kinds := listed "aliased_import argument_list as_pattern as_pattern_target assert_statement assignment
    attribute augmented_assignment await binary_operator block boolean_operator break_statement
    call case_clause case_pattern chevron class_definition class_pattern comment
    comparison_operator complex_pattern concatenated_string conditional_expression
    constrained_type continue_statement decorated_definition decorator default_parameter
    delete_statement dict_pattern dictionary dictionary_comprehension dictionary_splat
    dictionary_splat_pattern dotted_name elif_clause ellipsis else_clause escape_interpolation
    escape_sequence except_clause exec_statement expression_list expression_statement false
    finally_clause float for_in_clause for_statement format_expression format_specifier
    function_definition future_import_statement generator_expression generic_type
    global_statement identifier if_clause if_statement import_from_statement import_prefix
    import_statement integer interpolation keyword_argument keyword_pattern keyword_separator
    lambda lambda_parameters line_continuation list list_comprehension list_pattern list_splat
    list_splat_pattern match_statement member_type module named_expression none
    nonlocal_statement not_operator pair parameters parenthesized_expression
    parenthesized_list_splat pass_statement pattern_list positional_separator print_statement
    raise_statement relative_import return_statement set set_comprehension slice splat_pattern
    splat_type string string_content string_end string_start subscript true try_statement tuple
    tuple_pattern type type_alias_statement type_conversion type_parameter
    typed_default_parameter typed_parameter unary_operator union_pattern union_type
    while_statement wildcard_import with_clause with_item with_statement yield"
  tokens := Text.ofString "is not" :: Text.ofString "not in" :: listed "( ) [ ] \x7b \x7d , : . ; = -> := @ * ** + - / // % | & ^ << >> ~ < <= == != >= > <> += -= *= /=
    @= //= %= **= >>= <<= &= ^= |= _ __future__ and as assert async await break case class
    continue def del elif else except except* exec finally for from global if import in is
    lambda match nonlocal not or pass print raise return try type while with yield"
  fields := listed "alias alternative argument arguments attribute body cause code condition consequence
    definition expression format_specifier function guard key left module_name name object
    operator operators parameters return_type right subject subscript superclasses type
    type_conversion type_parameters value"
  families := [
    family "primary_expression" "attribute await binary_operator call concatenated_string dictionary
      dictionary_comprehension ellipsis false float generator_expression identifier integer list
      list_comprehension list_splat none parenthesized_expression set set_comprehension string
      subscript true tuple unary_operator",
    family "expression" "attribute await binary_operator call concatenated_string dictionary
      dictionary_comprehension ellipsis false float generator_expression identifier integer list
      list_comprehension list_splat none parenthesized_expression set set_comprehension string
      subscript true tuple unary_operator as_pattern boolean_operator comparison_operator
      conditional_expression lambda named_expression not_operator",
    family "pattern" "attribute identifier list_pattern list_splat_pattern subscript tuple_pattern",
    family "parameter" "default_parameter dictionary_splat_pattern identifier keyword_separator list_splat_pattern
      positional_separator tuple_pattern typed_default_parameter typed_parameter",
    family "_compound_statement" "class_definition decorated_definition for_statement function_definition if_statement
      match_statement try_statement while_statement with_statement",
    family "_simple_statement" "assert_statement break_statement continue_statement delete_statement exec_statement
      expression_statement future_import_statement global_statement import_from_statement
      import_statement nonlocal_statement pass_statement print_statement raise_statement
      return_statement type_alias_statement"]

/-! ## Shell -/

/-- The words of the shell grammar. -/
def bash : Vocabulary where
  kinds := listed "ansi_c_string arithmetic_expansion array binary_expression brace_expression
    c_style_for_statement case_item case_statement command command_name command_substitution
    comment compound_statement concatenation declaration_command do_group elif_clause
    else_clause expansion extglob_pattern file_descriptor file_redirect for_statement
    function_definition heredoc_body heredoc_content heredoc_end heredoc_redirect heredoc_start
    herestring_redirect if_statement list negated_command number parenthesized_expression
    pipeline postfix_expression process_substitution program raw_string redirected_statement
    regex simple_expansion special_variable_name string string_content subscript subshell
    ternary_expression test_command test_operator translated_string unary_expression
    unset_command variable_assignment variable_assignments variable_name while_statement word"
  tokens := Text.ofString "\n" :: listed "! != # ## $ $( $(( $[ $\x7b % %% %= & && &= &> &>> ( (( ) )) * ** **= *= + ++ += , ,, - -- -=
    -a -o .. / /# /% // /= : :+ :- := :? ; ;& ;; ;;& < <& <&- <( << <<- <<< <<= <= = == =~ > >&
    >&- >( >= >> >>= >| ? @ [ [[ ] ]] ^ ^= ^^ _ ` `` case declare do done elif else esac export
    fi for function if in local readonly select then typeset unset unsetenv until while \x7b | |&
    |= || \x7d ~ \""
  fields := listed "argument body condition descriptor destination fallthrough index initializer left name
    operator redirect right termination update value variable"
  families := [
    family "_primary_expression" "ansi_c_string arithmetic_expansion brace_expression command_substitution expansion number
      process_substitution raw_string simple_expansion string translated_string word",
    family "_expression" "ansi_c_string arithmetic_expansion brace_expression command_substitution expansion number
      process_substitution raw_string simple_expansion string translated_string word
      binary_expression concatenation parenthesized_expression postfix_expression
      ternary_expression unary_expression",
    family "_statement" "c_style_for_statement case_statement command compound_statement declaration_command
      for_statement function_definition if_statement list negated_command pipeline
      redirected_statement subshell test_command unset_command variable_assignment
      variable_assignments while_statement"]

/-! ## JavaScript and TypeScript -/

/-- The words that both grammars have. -/
def script : Vocabulary where
  kinds := listed "arguments array array_pattern arrow_function assignment_expression assignment_pattern
    augmented_assignment_expression await_expression binary_expression break_statement
    call_expression catch_clause class class_body class_declaration class_heritage
    class_static_block comment computed_property_name continue_statement debugger_statement
    decorator do_statement else_clause empty_statement escape_sequence export_clause
    export_specifier export_statement expression_statement false finally_clause for_in_statement
    for_statement formal_parameters function_declaration function_expression generator_function
    generator_function_declaration hash_bang_line html_comment identifier if_statement import
    import_attribute import_clause import_specifier import_statement labeled_statement
    lexical_declaration member_expression meta_property method_definition named_imports
    namespace_export namespace_import new_expression null number object
    object_assignment_pattern object_pattern optional_chain pair pair_pattern
    parenthesized_expression private_property_identifier program property_identifier regex
    regex_flags regex_pattern rest_pattern return_statement sequence_expression
    shorthand_property_identifier shorthand_property_identifier_pattern spread_element
    statement_block statement_identifier string string_fragment subscript_expression super
    switch_body switch_case switch_default switch_statement template_string
    template_substitution ternary_expression this throw_statement true try_statement
    unary_expression undefined update_expression variable_declaration variable_declarator
    while_statement with_statement yield_expression"
  tokens := listed "! != !== % %= & && &&= &= ( ) * ** **= *= + ++ += , - -- -= . ... / /= : ; < << <<= <= = ==
    === => > >= >> >>= >>> >>>= ? ?. ?? ??= @ [ ] ^ ^= ` $\x7b as async await break case catch
    class const continue debugger default delete do else export extends finally for from
    function get if import in instanceof let meta new of return set static switch target throw
    try typeof using var void while with yield \x7b | |= || ||= \x7d ~ \" '"
  fields := listed "alias alternative argument arguments body condition consequence constructor declaration
    decorator finalizer flags function handler increment index initializer key kind label left
    name object operator optional_chain parameter parameters pattern property right source value"
  families := [
    family "primary_expression" "array arrow_function call_expression class false function_expression generator_function
      identifier member_expression meta_property null number object parenthesized_expression
      regex string subscript_expression super template_string this true undefined",
    family "expression" "array arrow_function call_expression class false function_expression generator_function
      identifier member_expression meta_property null number object parenthesized_expression
      regex string subscript_expression super template_string this true undefined
      assignment_expression augmented_assignment_expression await_expression binary_expression
      new_expression ternary_expression unary_expression update_expression yield_expression",
    family "declaration" "class_declaration function_declaration generator_function_declaration lexical_declaration
      variable_declaration",
    family "statement" "class_declaration function_declaration generator_function_declaration lexical_declaration
      variable_declaration break_statement continue_statement debugger_statement do_statement
      empty_statement export_statement expression_statement for_in_statement for_statement
      if_statement import_statement labeled_statement return_statement statement_block
      switch_statement throw_statement try_statement while_statement with_statement",
    family "pattern" "array_pattern identifier member_expression object_pattern rest_pattern
      subscript_expression undefined"]

/-- The words that only the JavaScript grammar has. -/
def javascriptOnly : Vocabulary where
  kinds := listed "field_definition html_character_reference jsx_attribute jsx_closing_element jsx_element
    jsx_expression jsx_namespace_name jsx_opening_element jsx_self_closing_element jsx_text
    using_declaration"
  tokens := listed "/> </"
  fields := listed "attribute close_tag member open_tag template"
  families := []

/-- The words that only the TypeScript grammar has. -/
def typescriptOnly : Vocabulary where
  kinds := listed "abstract_class_declaration abstract_method_signature accessibility_modifier
    adding_type_annotation ambient_declaration array_type as_expression asserts
    asserts_annotation call_signature conditional_type constraint construct_signature
    constructor_type default_type enum_assignment enum_body enum_declaration existential_type
    extends_clause extends_type_clause flow_maybe_type function_signature function_type
    generic_type implements_clause import_alias import_require_clause index_signature
    index_type_query infer_type instantiation_expression interface_body interface_declaration
    internal_module intersection_type literal_type lookup_type mapped_type_clause
    method_signature module nested_identifier nested_type_identifier non_null_expression
    object_type omitting_type_annotation opting_type_annotation optional_parameter optional_type
    override_modifier parenthesized_type predefined_type property_signature
    public_field_definition readonly_type required_parameter rest_type satisfies_expression
    template_literal_type template_type this_type tuple_type type_alias_declaration
    type_annotation type_arguments type_assertion type_identifier type_parameter type_parameters
    type_predicate type_predicate_annotation type_query union_type"
  tokens := listed "+?: -?: ?: \x7b| |\x7d abstract accessor any assert asserts boolean declare enum global implements
    infer interface is keyof module namespace never number object out override private protected
    public readonly require satisfies string symbol type unique unknown"
  fields := listed "constraint index_type module return_type sign type type_arguments type_parameters"
  families := [
    family "primary_type" "array_type conditional_type existential_type flow_maybe_type generic_type index_type_query
      intersection_type literal_type lookup_type nested_type_identifier object_type
      parenthesized_type predefined_type template_literal_type this_type tuple_type
      type_identifier type_query union_type",
    family "type" "array_type conditional_type existential_type flow_maybe_type generic_type index_type_query
      intersection_type literal_type lookup_type nested_type_identifier object_type
      parenthesized_type predefined_type template_literal_type this_type tuple_type
      type_identifier type_query union_type constructor_type function_type infer_type
      readonly_type"]

end Vocabulary

end HookAudit.Query

namespace HookAudit

/-- The words that queries for a language may use. -/
def Language.vocabulary : Language → Query.Vocabulary
  | python => .python
  | bash => .bash
  | javascript => .join .javascriptOnly .script
  | typescript => .join .typescriptOnly .script

end HookAudit
