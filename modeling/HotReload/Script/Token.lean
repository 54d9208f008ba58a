/-
# Tokens of a script

A script is read as a list of tokens. A word that means something to the
grammar, reserved or only in places, is told apart from all other names, so
that the grammar never looks at the spelling of a name. A text that cannot be
read any further ends in a token that holds the fault.

Key definitions: `Operator`, `Mark`, `Mark.startingWith`, `Word`,
`Word.ofText?`, `Token`, `Lexeme`, `Token.describe`.
-/
import HotReload.Script.Fault
import HotReload.Tree.Label

namespace HotReload

namespace Script

/-- Binary operators written with punctuation. -/
inductive Operator where
  | nullish
  | or
  | and
  | bitOr
  | bitXor
  | bitAnd
  | eq
  | ne
  | strictEq
  | strictNe
  | lt
  | gt
  | le
  | ge
  | shiftLeft
  | shiftRight
  | shiftRightUnsigned
  | add
  | sub
  | mul
  | div
  | mod
  | power
deriving DecidableEq

namespace Operator

/-- The spelling of an operator. -/
def text : Operator → String
  | nullish => "??"
  | or => "||"
  | and => "&&"
  | bitOr => "|"
  | bitXor => "^"
  | bitAnd => "&"
  | eq => "=="
  | ne => "!="
  | strictEq => "==="
  | strictNe => "!=="
  | lt => "<"
  | gt => ">"
  | le => "<="
  | ge => ">="
  | shiftLeft => "<<"
  | shiftRight => ">>"
  | shiftRightUnsigned => ">>>"
  | add => "+"
  | sub => "-"
  | mul => "*"
  | div => "/"
  | mod => "%"
  | power => "**"

/-- How tightly an operator binds. -/
def precedence : Operator → Nat
  | nullish => 1
  | or => 1
  | and => 2
  | bitOr => 3
  | bitXor => 4
  | bitAnd => 5
  | eq | ne | strictEq | strictNe => 6
  | lt | gt | le | ge => 7
  | shiftLeft | shiftRight | shiftRightUnsigned => 8
  | add | sub => 9
  | mul | div | mod => 10
  | power => 11

end Operator

/-- Punctuation. -/
inductive Mark where
  | leftParen
  | rightParen
  | leftBrace
  | rightBrace
  | leftBracket
  | rightBracket
  | semicolon
  | comma
  | dot
  | ellipsis
  | question
  | optionalDot
  | colon
  | arrow
  | backquote
  | templateBrace
  | tilde
  | bang
  | increment
  | decrement
  | atSign
  | assign
  | compound (operator : Operator)
  | operator (operator : Operator)
deriving DecidableEq

namespace Mark

/-- The spelling of a mark. -/
def text : Mark → String
  | leftParen => "("
  | rightParen => ")"
  | leftBrace => "\x7b"
  | rightBrace => "\x7d"
  | leftBracket => "["
  | rightBracket => "]"
  | semicolon => ";"
  | comma => ","
  | dot => "."
  | ellipsis => "..."
  | question => "?"
  | optionalDot => "?."
  | colon => ":"
  | arrow => "=>"
  | backquote => "\x60"
  | templateBrace => "$\x7b"
  | tilde => "~"
  | bang => "!"
  | increment => "++"
  | decrement => "--"
  | atSign => "@"
  | assign => "="
  | compound o => o.text ++ "="
  | operator o => o.text

/-- The marks that begin with each character, longer spellings first, with the
characters that follow the first one. Marks inside templates are not among
them. -/
def startingWith : Char → List (List Char × Mark)
  | '(' => [([], leftParen)]
  | ')' => [([], rightParen)]
  | '\x7b' => [([], leftBrace)]
  | '\x7d' => [([], rightBrace)]
  | '[' => [([], leftBracket)]
  | ']' => [([], rightBracket)]
  | ';' => [([], semicolon)]
  | ',' => [([], comma)]
  | '.' => [(['.', '.'], ellipsis), ([], dot)]
  | '?' => [(['?', '='], compound .nullish), (['?'], operator .nullish), (['.'], optionalDot),
      ([], question)]
  | ':' => [([], colon)]
  | '~' => [([], tilde)]
  | '@' => [([], atSign)]
  | '\x60' => [([], backquote)]
  | '=' => [(['=', '='], operator .strictEq), (['='], operator .eq), (['>'], arrow), ([], assign)]
  | '!' => [(['=', '='], operator .strictNe), (['='], operator .ne), ([], bang)]
  | '+' => [(['+'], increment), (['='], compound .add), ([], operator .add)]
  | '-' => [(['-'], decrement), (['='], compound .sub), ([], operator .sub)]
  | '*' => [(['*', '='], compound .power), (['*'], operator .power), (['='], compound .mul),
      ([], operator .mul)]
  | '/' => [(['='], compound .div), ([], operator .div)]
  | '%' => [(['='], compound .mod), ([], operator .mod)]
  | '&' => [(['&', '='], compound .and), (['&'], operator .and), (['='], compound .bitAnd),
      ([], operator .bitAnd)]
  | '|' => [(['|', '='], compound .or), (['|'], operator .or), (['='], compound .bitOr),
      ([], operator .bitOr)]
  | '^' => [(['='], compound .bitXor), ([], operator .bitXor)]
  | '<' => [(['<', '='], compound .shiftLeft), (['<'], operator .shiftLeft), (['='], operator .le),
      ([], operator .lt)]
  | '>' => [(['>', '>', '='], compound .shiftRightUnsigned),
      (['>', '>'], operator .shiftRightUnsigned), (['>', '='], compound .shiftRight), (['>'], operator .shiftRight), (['='], operator .ge),
      ([], operator .gt)]
  | _ => []

end Mark

/-- Words that the grammar knows. -/
inductive Word where
  | breakWord
  | caseWord
  | catchWord
  | classWord
  | constWord
  | continueWord
  | debuggerWord
  | defaultWord
  | deleteWord
  | doWord
  | elseWord
  | enumWord
  | exportWord
  | extendsWord
  | falseWord
  | finallyWord
  | forWord
  | functionWord
  | ifWord
  | importWord
  | inWord
  | instanceofWord
  | newWord
  | nullWord
  | returnWord
  | superWord
  | switchWord
  | thisWord
  | throwWord
  | trueWord
  | tryWord
  | typeofWord
  | varWord
  | voidWord
  | whileWord
  | withWord
  | implementsWord
  | interfaceWord
  | letWord
  | packageWord
  | privateWord
  | protectedWord
  | publicWord
  | staticWord
  | yieldWord
  | awaitWord
  | asyncWord
  | ofWord
  | getWord
  | setWord
deriving DecidableEq

namespace Word

/-- The spelling of a word. -/
def text : Word → String
  | breakWord => "break"
  | caseWord => "case"
  | catchWord => "catch"
  | classWord => "class"
  | constWord => "const"
  | continueWord => "continue"
  | debuggerWord => "debugger"
  | defaultWord => "default"
  | deleteWord => "delete"
  | doWord => "do"
  | elseWord => "else"
  | enumWord => "enum"
  | exportWord => "export"
  | extendsWord => "extends"
  | falseWord => "false"
  | finallyWord => "finally"
  | forWord => "for"
  | functionWord => "function"
  | ifWord => "if"
  | importWord => "import"
  | inWord => "in"
  | instanceofWord => "instanceof"
  | newWord => "new"
  | nullWord => "null"
  | returnWord => "return"
  | superWord => "super"
  | switchWord => "switch"
  | thisWord => "this"
  | throwWord => "throw"
  | trueWord => "true"
  | tryWord => "try"
  | typeofWord => "typeof"
  | varWord => "var"
  | voidWord => "void"
  | whileWord => "while"
  | withWord => "with"
  | implementsWord => "implements"
  | interfaceWord => "interface"
  | letWord => "let"
  | packageWord => "package"
  | privateWord => "private"
  | protectedWord => "protected"
  | publicWord => "public"
  | staticWord => "static"
  | yieldWord => "yield"
  | awaitWord => "await"
  | asyncWord => "async"
  | ofWord => "of"
  | getWord => "get"
  | setWord => "set"

/-- All words. -/
def all : List Word :=
  [breakWord, caseWord, catchWord, classWord, constWord, continueWord, debuggerWord,
   defaultWord, deleteWord, doWord, elseWord, enumWord, exportWord, extendsWord, falseWord,
   finallyWord, forWord, functionWord, ifWord, importWord, inWord, instanceofWord, newWord,
   nullWord, returnWord, superWord, switchWord, thisWord, throwWord, trueWord, tryWord,
   typeofWord, varWord, voidWord, whileWord, withWord, implementsWord, interfaceWord, letWord,
   packageWord, privateWord, protectedWord, publicWord, staticWord, yieldWord, awaitWord,
   asyncWord, ofWord, getWord, setWord]

/-- The word with the given spelling. -/
def ofText? (s : String) : Option Word := all.find? (·.text == s)

/-- Words that may be names outside strict code only. -/
def reservedInStrictCode : Word → Bool
  | implementsWord | interfaceWord | letWord | packageWord | privateWord | protectedWord
  | publicWord | staticWord | yieldWord => true
  | _ => false

/-- Words that may be names in strict code too. -/
def contextual : Word → Bool
  | awaitWord | asyncWord | ofWord | getWord | setWord => true
  | _ => false

/-- Words that are never names. -/
def reserved (w : Word) : Bool := !(w.reservedInStrictCode || w.contextual)

end Word

/-- A token. Literals keep their source text beside their value; `octal` tells
that a string or number is written in a way that strict code forbids. -/
inductive Token where
  | mark (m : Mark)
  | word (w : Word)
  | name (text : String)
  | privateName (text : String)
  | string (value raw : String) (octal : Bool)
  | number (value : Option Numeral) (raw : String) (octal : Bool)
  | bigInt (value : Nat) (raw : String)
  | regExp (pattern flags : String)
  | templateText (cooked : Option String) (raw : String)
  | invalid (fault : Fault)
deriving DecidableEq

/-- How a fault names a token. -/
def Token.describe : Token → String
  | mark m => m.text
  | word w => w.text
  | name text => text
  | privateName text => "#" ++ text
  | string _ raw _ => "string literal " ++ raw
  | number _ raw _ => "numeric literal " ++ raw
  | bigInt _ raw => "numeric literal " ++ raw
  | regExp pattern flags => "/" ++ pattern ++ "/" ++ flags
  | templateText _ raw => "template text " ++ raw
  | invalid fault => fault.describe

/-- A token and whether a line ends between it and the one before. -/
structure Lexeme where
  token : Token
  afterLineEnd : Bool
deriving DecidableEq

end Script

end HotReload
