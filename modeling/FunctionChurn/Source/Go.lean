import FunctionChurn.Source.Forest

/-!
# Functions and methods of Go

Functions and methods are declared at the top level of a file and nowhere else, so the search looks
at the top row of the forest only.

* `Go.lexis` are the lexical rules: strings in quotes and in backquotes, runes, numbers, operators, and
  two kinds of comments, which do not nest.
* `Go.declared` finds the declarations.  A function gives its name; a method gives its receiver
  list as it is written, and then its name.

The word `func` also begins function types and function literals.  It declares a function if a name
follows, and a method if a bracketed list, a name and another list follow and a statement may begin
there: at the start, behind a semicolon, or on a new line behind something that can end a statement.
-/

namespace FunctionChurn.Source.Go

/-! ## Lexical rules -/

/-- The operators of more than one character, the longer ones first. -/
def longOperators : List String :=
  ["<<=", ">>=", "&^=", "...", "<<", ">>", "&^", "+=", "-=", "*=", "/=", "%=", "&=", "|=", "^=", "&&",
    "||", "<-", "++", "--", "==", "!=", "<=", ">=", ":="]

/-- How many characters belong to an operator behind its first one.  The longest operator is read. -/
def operatorLength (c : Char) (rest : List Char) : Nat :=
  match longOperators.find? fun o => o.toList.isPrefixOf (c :: rest) with
  | some o => o.toList.length - 1
  | none => 0

/-- Whether a number begins: with a digit, or with a point before a digit. -/
def startsNumber (c : Char) (rest : List Char) : Bool :=
  c.isDigit || (c == '.' && rest.head?.any Char.isDigit)

/-- Whether a number is hexadecimal. -/
def isHex (c : Char) (rest : List Char) : Bool :=
  c == '0' && rest.head?.any fun x => x == 'x' || x == 'X'

/-- Whether a sign behind a character of a number belongs to its exponent. -/
def takesSign (hex : Bool) (c : Char) : Bool :=
  if hex then c == 'p' || c == 'P' else c == 'e' || c == 'E'

/-- How many characters belong to a number behind one of its characters. -/
def numberLength (hex : Bool) (previous : Char) : List Char → Nat
  | [] => 0
  | c :: rest =>
      if isWordChar c || c == '.' || ((c == '+' || c == '-') && takesSign hex previous) then
        1 + numberLength hex c rest
      else 0

/-- The first lexeme of a text. -/
def first (c : Char) (rest : List Char) : LexemeKind × Nat :=
  if Text.isSpacing c then (.blank, runLength Text.isSpacing rest)
  else if startsNumber c rest then (.literal, numberLength (isHex c rest) c rest)
  else if isWordChar c then (.word, runLength isWordChar rest)
  else match c, rest with
    | '/', '/' :: _ => (.comment, lineLength rest)
    | '/', '*' :: more => (.comment, 1 + throughLength ['*', '/'] more)
    | '"', _ => (.literal, quotedLength '"' rest)
    | '\'', _ => (.literal, quotedLength '\'' rest)
    | '\x60', _ => (.literal, throughLength ['\x60'] rest)
    | _, _ => (.mark, operatorLength c rest)

/-- **The lexical rules of Go.**  Nothing stands only at the start of a file. -/
def lexis : Lexis := ⟨fun _ => 0, first⟩

/-! ## Declarations -/

/-- The group of a receiver list. -/
def receiverGroup : Int := 0

/-- The group of a name. -/
def nameGroup : Int := 1

/-- The keywords behind which a statement goes on in the next line. -/
def openKeywords : List String :=
  ["case", "chan", "const", "default", "defer", "else", "for", "func", "go", "goto", "if", "import",
    "interface", "map", "package", "range", "select", "struct", "switch", "type", "var"]

/-- The keywords with which a statement can end. -/
def finalKeywords : List String := ["break", "continue", "fallthrough", "return"]

/-- Whether a token is a name. -/
def isName (t : Token) : Bool :=
  t.isWord && !(openKeywords ++ finalKeywords).any fun k => t.text == k.toList

/-- Whether a statement can end with a token when the line ends behind it. -/
def endsStatement (t : Token) : Bool :=
  match t.kind with
  | .word => !openKeywords.any fun k => t.text == k.toList
  | .literal => true
  | _ => Forest.closes t || t.isMark "++" || t.isMark "--"

/-- Whether a statement can begin with a token, given the one before it. -/
def beginsStatement (previous : Option Token) (t : Token) : Bool :=
  match previous with
  | none => true
  | some p => p.isMark ";" || (t.startsLine && endsStatement p)

/-- A bracketed group as one occurrence: its text as it is written, at its opening bracket. -/
def groupText (o : Token) (inner : Forest) (c : Token) : List Char :=
  o.text ++ inner.written ++ c.written

/-- **What a `func` declares**, given whether a statement begins with it and what follows it. -/
def declaredBy (begins : Bool) : Forest → List Occurrence
  | .leaf name _ => if isName name then [name.occurrence nameGroup] else []
  | .group o inner c (.leaf name (.group params _ _ _)) =>
      if begins && o.isMark "(" && isName name && params.isMark "(" then
        [⟨receiverGroup, groupText o inner c, o.offset, o.line⟩, name.occurrence nameGroup]
      else []
  | _ => []

/-- The declarations of a row, given the token before it. -/
def declaredAfter (previous : Option Token) : Forest → List Occurrence
  | .nil => []
  | .leaf t rest =>
      (if t.isTheWord "func" then declaredBy (beginsStatement previous t) rest else [])
        ++ declaredAfter (some t) rest
  | .group _ _ c rest => declaredAfter (some c) rest

/-- **The declarations of a file.** -/
def declared (source : List Char) : List Occurrence :=
  declaredAfter none (Forest.ofTokens (Token.ofLexemes (lexis.lexemes source)))

end FunctionChurn.Source.Go
