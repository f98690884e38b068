import OperationClasses.Text.Hex

/-!
# Tokens

The tokens of a GraphQL text. A token knows where in the text it starts and ends, counted in
characters. The end of the text is a token of its own, and so is a place where the text stops
being made of tokens: reading stops there with that token's fault.
-/
namespace OperationClasses.Syntax

/-- The punctuation of the language. -/
inductive Mark where
  | bang | dollar | ampersand | openParen | closeParen | spread | colon | equals | at
  | openBracket | closeBracket | openBrace | bar | closeBrace
  deriving Repr, DecidableEq, Inhabited

/-- How a punctuation mark is written. -/
def Mark.text : Mark → String
  | .bang => "!"
  | .dollar => "$"
  | .ampersand => "&"
  | .openParen => "("
  | .closeParen => ")"
  | .spread => "..."
  | .colon => ":"
  | .equals => "="
  | .at => "@"
  | .openBracket => "["
  | .closeBracket => "]"
  | .openBrace => "\x7b"
  | .bar => "|"
  | .closeBrace => "\x7d"

/-- The punctuation marks of one character. -/
def Mark.ofChar? : Char → Option Mark
  | '!' => some .bang
  | '$' => some .dollar
  | '&' => some .ampersand
  | '(' => some .openParen
  | ')' => some .closeParen
  | ':' => some .colon
  | '=' => some .equals
  | '@' => some .at
  | '[' => some .openBracket
  | ']' => some .closeBracket
  | '\x7b' => some .openBrace
  | '|' => some .bar
  | '\x7d' => some .closeBrace
  | _ => none

/-- Why a text is not made of tokens. A missing character is the end of the text. -/
inductive LexicalFault where
  | unexpectedCharacter (c : Char)
  | singleQuote
  | digitExpected (found : Option Char)
  | digitAfterZero (found : Option Char)
  | unterminatedString
  | badEscape (written : String)
  | badUnicodeEscape (written : String)
  deriving Repr, DecidableEq, Inhabited

/-- What a token says. -/
inductive Lexeme where
  | mark (m : Mark)
  | name (text : String)
  | int (digits : String)
  | float (spelling : String)
  | string (value : String)
  | block (value : String)
  | finish
  | broken (fault : LexicalFault)
  deriving Repr, DecidableEq, Inhabited

/-- A token with the offsets of its first character and of the one after its last. -/
structure Token where
  lexeme : Lexeme
  start : Nat
  stop : Nat
  deriving Repr, DecidableEq, Inhabited

/-- The name of a kind of token, a mark in quotes. -/
def Lexeme.kind : Lexeme → String
  | .mark m => "'" ++ m.text ++ "'"
  | .name _ => "Name"
  | .int _ => "Int"
  | .float _ => "Float"
  | .string _ => "String"
  | .block _ => "BlockString"
  | .finish => "<EOF>"
  | .broken _ => "<INVALID>"

/-- The text that a token carries beside its kind. -/
def Lexeme.value? : Lexeme → Option String
  | .name s | .int s | .float s | .string s | .block s => some s
  | _ => none

/-- How messages show a token: its kind and, between single quotes, what it carries as it is. -/
def Lexeme.describe (l : Lexeme) : String :=
  match l.value? with
  | some v => l.kind ++ " '" ++ v ++ "'"
  | none => l.kind

/-- How messages show a character: in quotes when it is plain, else by its number. -/
def describeChar : Option Char → String
  | none => "<EOF>"
  | some c =>
    if c = '"' then "'\"'"
    else if 0x20 ≤ c.toNat && c.toNat ≤ 0x7e then "'" ++ String.singleton c ++ "'"
    else "U+" ++ String.ofList (Text.hexAtLeast true 4 c.toNat)

/-- The wording of a lexical fault. -/
def LexicalFault.message : LexicalFault → String
  | .unexpectedCharacter c => "Unexpected character: " ++ describeChar (some c) ++ "."
  | .singleQuote =>
    "Unexpected single quote character ('), did you mean to use a double quote (\")?"
  | .digitExpected found =>
    "Invalid number, expected digit but got: " ++ describeChar found ++ "."
  | .digitAfterZero found =>
    "Invalid number, unexpected digit after 0: " ++ describeChar found ++ "."
  | .unterminatedString => "Unterminated string."
  | .badEscape written => "Invalid character escape sequence: '" ++ written ++ "'."
  | .badUnicodeEscape written => "Invalid Unicode escape sequence: '" ++ written ++ "'."

end OperationClasses.Syntax
