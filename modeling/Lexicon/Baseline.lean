import Lexicon.Taxonomy

/-!
# The baseline vocabulary

The first version of the vocabulary: integers, names, ten operators, six delimiters and seven
reserved words.
-/

namespace Lexicon

/-- The categories of the first version. -/
inductive Baseline where
  | illegal | eof
  | ident | int
  | assign | plus | minus | bang | asterisk | slash | less | greater | equal | notEqual
  | comma | semicolon | leftParen | rightParen | leftBrace | rightBrace
  | fnKeyword | letKeyword | ifKeyword | elseKeyword | returnKeyword | trueKeyword | falseKeyword
  deriving DecidableEq

namespace Baseline

/-- The categories in the order of their declaration. -/
def all : List Baseline :=
  [.illegal, .eof, .ident, .int, .assign, .plus, .minus, .bang, .asterisk, .slash, .less, .greater,
   .equal, .notEqual, .comma, .semicolon, .leftParen, .rightParen, .leftBrace, .rightBrace,
   .fnKeyword, .letKeyword, .ifKeyword, .elseKeyword, .returnKeyword, .trueKeyword, .falseKeyword]

/-- What is declared of each category: title, name, label and role. -/
def profile : Baseline → Profile
  | .illegal => ⟨"Illegal", "ILLEGAL", "ILLEGAL", .special⟩
  | .eof => ⟨"Eof", "EOF", "EOF", .special⟩
  | .ident => ⟨"Ident", "IDENT", "IDENT", .literal⟩
  | .int => ⟨"Int", "INT", "INT", .literal⟩
  | .assign => ⟨"Assign", "ASSIGN", "=", .operator⟩
  | .plus => ⟨"Plus", "PLUS", "+", .operator⟩
  | .minus => ⟨"Minus", "MINUS", "-", .operator⟩
  | .bang => ⟨"Bang", "BANG", "!", .operator⟩
  | .asterisk => ⟨"Asterisk", "ASTERISK", "*", .operator⟩
  | .slash => ⟨"Slash", "SLASH", "/", .operator⟩
  | .less => ⟨"Lt", "LT", "<", .operator⟩
  | .greater => ⟨"Gt", "GT", ">", .operator⟩
  | .equal => ⟨"Eq", "EQ", "==", .operator⟩
  | .notEqual => ⟨"NotEq", "NOT_EQ", "!=", .operator⟩
  | .comma => ⟨"Comma", "COMMA", ",", .delimiter⟩
  | .semicolon => ⟨"Semicolon", "SEMICOLON", ";", .delimiter⟩
  | .leftParen => ⟨"LParen", "LPAREN", "(", .delimiter⟩
  | .rightParen => ⟨"RParen", "RPAREN", ")", .delimiter⟩
  | .leftBrace => ⟨"LBrace", "LBRACE", String.singleton '{', .delimiter⟩
  | .rightBrace => ⟨"RBrace", "RBRACE", String.singleton '}', .delimiter⟩
  | .fnKeyword => ⟨"Function", "FUNCTION", "FUNCTION", .keyword "fn"⟩
  | .letKeyword => ⟨"Let", "LET", "LET", .keyword "let"⟩
  | .ifKeyword => ⟨"If", "IF", "if", .keyword "if"⟩
  | .elseKeyword => ⟨"Else", "ELSE", "else", .keyword "else"⟩
  | .returnKeyword => ⟨"Return", "RETURN", "return", .keyword "return"⟩
  | .trueKeyword => ⟨"True", "TRUE", "true", .keyword "true"⟩
  | .falseKeyword => ⟨"False", "FALSE", "false", .keyword "false"⟩

instance : Taxonomy Baseline where
  version := .baseline
  all := all
  profile := profile
  ident := .ident
  illegal := .illegal
  eof := .eof
  mem_all c := by cases c <;> decide

end Baseline

end Lexicon
