import Rulebook.Value.Printer

/-!
# Tokens of templates

What a template consists of: data outside of tags, the marks around statements and placeholders, and the
names, literals and symbols inside them.
-/

namespace Rulebook.Template

/-- A symbol inside a tag. -/
inductive Symbol where
  | add | sub | mul | div | floorDiv | mod | pow | tilde
  | leftBracket | rightBracket | leftParen | rightParen | leftBrace | rightBrace
  | eq | ne | gt | ge | lt | le
  | assign | dot | colon | pipe | comma | semicolon
  deriving Repr, DecidableEq, Inhabited

/-- The spelling of a symbol. -/
def Symbol.spelling : Symbol → String
  | add => "+"
  | sub => "-"
  | mul => "*"
  | div => "/"
  | floorDiv => "//"
  | mod => "%"
  | pow => "**"
  | tilde => "~"
  | leftBracket => "["
  | rightBracket => "]"
  | leftParen => "("
  | rightParen => ")"
  | leftBrace => "\x7b"
  | rightBrace => "\x7d"
  | eq => "=="
  | ne => "!="
  | gt => ">"
  | ge => ">="
  | lt => "<"
  | le => "<="
  | assign => "="
  | dot => "."
  | colon => ":"
  | pipe => "|"
  | comma => ","
  | semicolon => ";"

/-- The symbols, those of two characters first. -/
def Symbol.all : List Symbol :=
  [.floorDiv, .pow, .eq, .ne, .ge, .le, .add, .sub, .mul, .div, .mod, .tilde, .leftBracket, .rightBracket,
    .leftParen, .rightParen, .leftBrace, .rightBrace, .gt, .lt, .assign, .dot, .colon, .pipe, .comma, .semicolon]

/-- A token. -/
inductive Token where
  | data (t : Text)
  | variableBegin
  | variableEnd
  | blockBegin
  | blockEnd
  | name (n : Text)
  | string (t : Text)
  | integer (n : Nat)
  | float (x : Double)
  | symbol (s : Symbol)
  | stop
  deriving Repr, DecidableEq, Inhabited

/-- What messages call a token: a name by itself, others by their kind. -/
def Token.describe : Token → Text
  | data _ => "template data / text"
  | variableBegin => "begin of print statement"
  | variableEnd => "end of print statement"
  | blockBegin => "begin of statement block"
  | blockEnd => "end of statement block"
  | name n => n
  | string _ => "string"
  | integer _ => "integer"
  | float _ => "float"
  | symbol s => s.spelling
  | stop => "end of template"

/-- The token is this name. -/
def Token.isName (t : Token) (n : String) : Bool :=
  match t with
  | name m => Text.same m (Text.ofString n)
  | _ => false

/-- A token with the line it starts on. -/
structure Placed where
  token : Token
  line : Nat
  deriving Repr, DecidableEq, Inhabited

/-- The tokens of a template up to its end or to the first offence. -/
structure Stream where
  tokens : List Placed
  offence : Option Fault
  /-- The line of the end. -/
  lastLine : Nat

/-- An offence against the syntax of templates. -/
def syntaxFault (message : Text) : Fault := ⟨.templateSyntax, message⟩

end Rulebook.Template
