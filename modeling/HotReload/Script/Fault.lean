/-
# Why a text is no script

Faults of the characters, faults of the grammar, and programs that the grammar
allows but the rules of the language forbid.

Key definitions: `Script.Fault`, `Script.Fault.describe`.
-/

namespace HotReload

namespace Script

/-- Why a text is no script. -/
inductive Fault where
  | unexpectedCharacter (c : Char)
  | unterminatedString
  | unterminatedComment
  | unterminatedTemplate
  | unterminatedRegExp
  | malformedEscape
  | malformedNumber
  | keywordWithEscape (name : String)
  | expected (what found : String)
  | unknownFlags (flags : String)
  | octalInStrictCode
  | reservedInStrictCode (name : String)
  | withInStrictCode
  | deletedName
  | invalidTarget
  | misplacedBreak
  | misplacedContinue
  | misplacedReturn
  | unknownLabel (name : String)
  | repeatedLabel (name : String)
  | repeatedDefault
  | repeatedConstructor
  | specialConstructor
  | misplacedSuper
  | misplacedNewTarget
  | misplacedImport
  | misplacedAwait
  | misplacedYield
  | misplacedDeclaration
  | missingInitializer
  | loopInitializer
  | lexicalLet
  | strictWithParameters
  | accessorParameters
  | mixedNullish
  | unaryBeforePower
  | optionalTarget
  | optionalTemplate
  | tooDeep
deriving DecidableEq

/-- The wording of a fault. -/
def Fault.describe : Fault → String
  | unexpectedCharacter c => "unexpected character " ++ c.toString
  | unterminatedString => "unterminated string"
  | unterminatedComment => "unterminated comment"
  | unterminatedTemplate => "unterminated template"
  | unterminatedRegExp => "unterminated regular expression"
  | malformedEscape => "malformed escape"
  | malformedNumber => "malformed number"
  | keywordWithEscape name => "keyword " ++ name ++ " with an escape"
  | expected what found => "expected " ++ what ++ ", found " ++ found
  | unknownFlags flags => "unknown flags " ++ flags
  | octalInStrictCode => "octal number in strict code"
  | reservedInStrictCode name => name ++ " in strict code"
  | withInStrictCode => "with statement in strict code"
  | deletedName => "deletion of a name in strict code"
  | invalidTarget => "invalid assignment target"
  | misplacedBreak => "break outside of a loop or switch"
  | misplacedContinue => "continue outside of a loop"
  | misplacedReturn => "return outside of a function"
  | unknownLabel name => "unknown label " ++ name
  | repeatedLabel name => "repeated label " ++ name
  | repeatedDefault => "more than one default"
  | repeatedConstructor => "more than one constructor"
  | specialConstructor => "constructor that is no plain method"
  | misplacedSuper => "misplaced super"
  | misplacedNewTarget => "new.target outside of a function"
  | misplacedImport => "import or export in a script"
  | misplacedAwait => "await outside of an async function"
  | misplacedYield => "yield outside of a generator"
  | misplacedDeclaration => "declaration in place of a statement"
  | missingInitializer => "missing initializer"
  | loopInitializer => "initializer in the head of a loop"
  | lexicalLet => "let as the name of a block-scoped variable"
  | strictWithParameters => "strict mode with parameters that are not simple"
  | accessorParameters => "wrong number of parameters of an accessor"
  | mixedNullish => "nullish operator mixed with a logical operator"
  | unaryBeforePower => "unary operator before a power"
  | optionalTarget => "optional chain in place of a constructor"
  | optionalTemplate => "optional chain in place of a template tag"
  | tooDeep => "program nested too deep"

end Script

end HotReload
