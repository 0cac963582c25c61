import Rulebook.Fault

/-!
# Tokens of expressions

The words of an expression text with the lines they stand on, and how the text ends: at its end, or at a place
where no token can be read.
-/

namespace Rulebook.Expression

/-- The kinds of tokens. -/
inductive TokenKind where
  | name
  | number
  | string
  /-- A keyword or an operator, which is spelled out. -/
  | word
  | newline
  | indent
  | dedent
  | finish
  deriving Repr, DecidableEq, Inhabited

/-- A token: its kind, its spelling as a word, its text, its line, and how many brackets are open behind it. -/
structure Token where
  kind : TokenKind
  spelling : String
  text : Text
  line : Nat
  depth : Nat
  deriving Repr, Inhabited

/-- The sort of an offence in a text. -/
inductive OffenceKind where
  | form
  | indentation
  | tabs
  deriving Repr, DecidableEq, Inhabited

/-- What is wrong with a text, and on which line. -/
structure Offence where
  kind : OffenceKind
  message : Text
  line : Nat
  deriving Repr, DecidableEq, Inhabited

/-- How the tokens of a text end. -/
inductive Ending where
  /-- All of the text is read. -/
  | complete
  /-- Something that is no token. -/
  | broken (o : Offence)
  /-- The text or its layout stops; the bracket that is open, with its line. -/
  | stopped (o : Offence) (bracket : Option (CodePoint × Nat))
  deriving Repr, Inhabited

/-- The tokens of a text and how they end. -/
structure TokenStream where
  tokens : Array Token
  ending : Ending
  deriving Inhabited

/-- A bracket that nothing closes. -/
def unclosed (bracket : CodePoint) (line : Nat) : Offence := ⟨.form, "'" ++ bracket :: "' was never closed", line⟩

/-- The offence that meets a reader who asks for a token behind the last. -/
def Ending.offence : Ending → Option Offence
  | .complete => none
  | .broken o => some o
  | .stopped o _ => some o

/-- Words that are no names. -/
def keywords : List String :=
  ["False", "None", "True", "and", "as", "assert", "async", "await", "break", "class", "continue", "def", "del",
    "elif", "else", "except", "finally", "for", "from", "global", "if", "import", "in", "is", "lambda", "nonlocal",
    "not", "or", "pass", "raise", "return", "try", "while", "with", "yield"]

/-- Names that some statements start with. -/
def softKeywords : List String := ["_", "case", "match"]

end Rulebook.Expression
