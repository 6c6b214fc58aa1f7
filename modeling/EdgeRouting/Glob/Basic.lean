import EdgeRouting.CompileError
import EdgeRouting.Expression.Cut
import EdgeRouting.Glob.Token

/-!
# Compiled globs

A glob decides whether a header rule applies to a path.
-/

namespace EdgeRouting

structure Glob where
  text : String
  expression : Expression
  deriving DecidableEq, Repr

namespace Glob

def Fault.compileError (glob : String) : Fault → CompileError
  | .unbalancedBrace position => .unbalancedBrace glob position
  | .invalidAlternation position => .invalidAlternation glob position

def compile (text : String) : Except CompileError Glob := do
  let tokens ← (scan 0 text.toList).mapError (Fault.compileError text)
  let expression := tokens.map Token.part
  if Expression.sizeLimit < Expression.weight expression then
    throw (.expressionTooLarge Expression.sizeLimit)
  return { text, expression }

def pattern (glob : Glob) : String :=
  Expression.text glob.expression

def isMatch (glob : Glob) (path : String) : Bool :=
  Expression.isMatch glob.expression path.toList

end Glob

end EdgeRouting
