import Lexicon.Taxonomy

/-!
# The extended vocabulary

The second version of the vocabulary: the first with strings, the colon and square brackets, each
placed within its group.
-/

namespace Lexicon

/-- The categories of the second version. -/
inductive Extended where
  | illegal | eof
  | ident | int | string
  | assign | plus | minus | bang | asterisk | slash | less | greater | equal | notEqual
  | comma | semicolon | colon
  | leftParen | rightParen | leftBrace | rightBrace | leftBracket | rightBracket
  | fnKeyword | letKeyword | ifKeyword | elseKeyword | returnKeyword | trueKeyword | falseKeyword
  deriving DecidableEq

namespace Extended

/-- The categories in the order of their declaration. -/
def all : List Extended :=
  [.illegal, .eof, .ident, .int, .string, .assign, .plus, .minus, .bang, .asterisk, .slash, .less,
   .greater, .equal, .notEqual, .comma, .semicolon, .colon, .leftParen, .rightParen, .leftBrace,
   .rightBrace, .leftBracket, .rightBracket, .fnKeyword, .letKeyword, .ifKeyword, .elseKeyword,
   .returnKeyword, .trueKeyword, .falseKeyword]

/-- What is declared of each category: title, name, label and role. -/
def profile : Extended → Profile
  | .illegal => ⟨"Illegal", "ILLEGAL", "ILLEGAL", .special⟩
  | .eof => ⟨"Eof", "EOF", "EOF", .special⟩
  | .ident => ⟨"Ident", "IDENT", "IDENT", .literal⟩
  | .int => ⟨"Int", "INT", "INT", .literal⟩
  | .string => ⟨"String", "STRING", "STRING", .literal⟩
  | .assign => ⟨"Assign", "ASSIGN", "=", .operator⟩
  | .plus => ⟨"Plus", "PLUS", "+", .operator⟩
  | .minus => ⟨"Minus", "MINUS", "-", .operator⟩
  | .bang => ⟨"Bang", "BANG", "!", .operator⟩
  | .asterisk => ⟨"Asterisk", "ASTERISK", "*", .operator⟩
  | .slash => ⟨"Slash", "SLASH", "/", .operator⟩
  | .less => ⟨"Lt", "LT", "<", .operator⟩
  | .greater => ⟨"Gt", "GT", ">", .operator⟩
  | .equal => ⟨"Eq", "EQ", "==", .operator⟩
  | .notEqual => ⟨"NotEq", "NOT_EQ", "!=", .operator⟩
  | .comma => ⟨"Comma", "COMMA", ",", .delimiter⟩
  | .semicolon => ⟨"Semicolon", "SEMICOLON", ";", .delimiter⟩
  | .colon => ⟨"Colon", "COLON", ":", .delimiter⟩
  | .leftParen => ⟨"LParen", "LPAREN", "(", .delimiter⟩
  | .rightParen => ⟨"RParen", "RPAREN", ")", .delimiter⟩
  | .leftBrace => ⟨"LBrace", "LBRACE", String.singleton '{', .delimiter⟩
  | .rightBrace => ⟨"RBrace", "RBRACE", String.singleton '}', .delimiter⟩
  | .leftBracket => ⟨"LBracket", "LBRACKET", "[", .delimiter⟩
  | .rightBracket => ⟨"RBracket", "RBRACKET", "]", .delimiter⟩
  | .fnKeyword => ⟨"Function", "FUNCTION", "FUNCTION", .keyword "fn"⟩
  | .letKeyword => ⟨"Let", "LET", "LET", .keyword "let"⟩
  | .ifKeyword => ⟨"If", "IF", "if", .keyword "if"⟩
  | .elseKeyword => ⟨"Else", "ELSE", "else", .keyword "else"⟩
  | .returnKeyword => ⟨"Return", "RETURN", "return", .keyword "return"⟩
  | .trueKeyword => ⟨"True", "TRUE", "true", .keyword "true"⟩
  | .falseKeyword => ⟨"False", "FALSE", "false", .keyword "false"⟩

instance : Taxonomy Extended where
  version := .extended
  all := all
  profile := profile
  ident := .ident
  illegal := .illegal
  eof := .eof
  mem_all c := by cases c <;> decide

end Extended

end Lexicon
