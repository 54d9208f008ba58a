/-
# Reading a script

The readers of the language are tied together here: every level of nesting
consumes a token, so the number of tokens bounds the depth. A script is read in
sloppy mode, as a whole.

Key definitions: `Script.grammar`, `Script.read`, `Script.readStatement`.
-/
import HotReload.Script.Statement

namespace HotReload

namespace Script

/-- The readers of all goals at one level, made from those one level further
in. -/
def level (nested : Nested) : Nested
  | .statement, p => listedStatement nested p
  | .substatement, p => substatement nested p
  | .branch, p => branchStatement nested p
  | .expression, p => commaExpression nested p
  | .assignment, p => assignmentExpression nested p
  | .unary, p => unaryExpression nested p
  | .operand, p => leftHandSide nested p
  | .binding, p => bindingTarget nested p
  | .target, p => assignmentTarget nested p
  | .constructed, p => constructed nested p

/-- The readers of all goals for programs nested at most as deep as the number
says. -/
def grammar : Nat → Nested
  | 0, _, _ => throw .tooDeep
  | depth + 1, goal, p => level (grammar depth) goal p

/-- Reads all tokens as the statements of a script. -/
def readTokens (tokens : List Lexeme) : Except Fault (List (Tree Node)) :=
  (bodyStatements (grammar (tokens.length + 1)) none true (tokens.length + 1) true .script tokens).map
    (·.1)

/-- The statements of a script. -/
def read (text : String) : Except Fault (List (Tree Node)) := readTokens (tokenize text.toList)

/-- The script as one statement: the only one it has, or a block of all. -/
def readStatement (text : String) : Except Fault (Tree Node) :=
  (read text).map fun
    | [s] => s
    | body => .ofLabel .block (childrenOf body .statements)

end Script

end HotReload
