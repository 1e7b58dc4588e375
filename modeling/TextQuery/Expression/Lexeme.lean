import TextQuery.Text.Enclosed

set_option autoImplicit false

namespace TextQuery.Expression

inductive Terminal where
  | word
  | leftParen
  | rightParen
  | leftBrace
  | rightBrace
  | colon
  | comma
  | plus
  | star
  | minus
  | caret
  | and
  | or
  | not
deriving DecidableEq, Repr

structure Lexeme where
  terminal : Terminal
  written : List Char
  content : List Char
deriving DecidableEq, Repr

inductive Fault where
  | unexpected (near : String)
  | unterminated
  | overflow
  | noSuchColumn (name : String)
  | badDistance (written : String)
  | phraseNotStored
  | nearNotStored
  | columnsNotStored
  | unknownDirective (word : String)
deriving DecidableEq, Repr

namespace Fault

def message : Fault → String
  | .unexpected near => "fts5: syntax error near \"" ++ near ++ "\""
  | .unterminated => "unterminated string"
  | .overflow => "fts5: parser stack overflow"
  | .noSuchColumn name => "no such column: " ++ name
  | .badDistance written => "expected integer, got \"" ++ written ++ "\""
  | .phraseNotStored => "fts5: phrase queries are not supported (detail!=full)"
  | .nearNotStored => "fts5: NEAR queries are not supported (detail!=full)"
  | .columnsNotStored => "fts5: column queries are not supported (detail=none)"
  | .unknownDirective word => "unknown special query: " ++ word

end Fault

namespace Lexeme

def isSpace (c : Char) : Bool := c == ' ' || c == '\t' || c == '\n' || c == '\r'

def isBare (c : Char) : Bool :=
  c.isAlphanum || c == '_' || c == '\x1a' || c.toNat ≥ 0x80

def punctuation : List (Char × Terminal) := [
  ('(', .leftParen), (')', .rightParen), ('\x7b', .leftBrace), ('\x7d', .rightBrace),
  (':', .colon), (',', .comma), ('+', .plus), ('*', .star), ('-', .minus), ('^', .caret)]

def operators : List (String × Terminal) := [("AND", .and), ("OR", .or), ("NOT", .not)]

def plain (terminal : Terminal) (written : List Char) : Lexeme := ⟨terminal, written, written⟩

def ofBare (run : List Char) : Lexeme :=
  plain ((operators.lookup (String.ofList run)).getD .word) run

def next (text : List Char) : Except Fault (Option (Lexeme × List Char)) :=
  match text.dropWhile isSpace with
  | [] => .ok none
  | c :: rest =>
    match punctuation.lookup c with
    | some terminal => .ok (some (plain terminal [c], rest))
    | none =>
      if c == '"' then
        -- What is written between the quotes is shown as it is written, doubled quotes and all.
        match Text.readEnclosed '"' rest with
        | none => .error .unterminated
        | some (content, after) =>
          .ok (some (⟨.word, c :: rest.take (rest.length - after.length), content⟩, after))
      else if isBare c then
        .ok (some (ofBare (c :: rest.takeWhile isBare), rest.dropWhile isBare))
      else .error (.unexpected (String.singleton c))

end Lexeme

end TextQuery.Expression
