import OneFile.Script.Grammar.Statement
import OneFile.Script.Grammar.Tag

/-!
# The grammar of scripts

## Main definitions

* `OneFile.Script.Goal.rule` — what a goal is read by.
* `OneFile.Script.read` — reading goals, up to a depth of nesting.
-/

namespace OneFile.Script

/-- What a goal is read by. -/
def Goal.rule : Goal → Rule Shape
  | .statement alone => Rule.anyStatement alone
  | .expression => Rule.sequenceExpression
  | .assignment arrowType => Rule.assignmentExpression arrowType
  | .binary above => Rule.binaryExpression above
  | .unary => Rule.unaryExpression
  | .leftHand => Rule.leftHandExpression
  | .primary => Rule.primaryExpression
  | .binding => Rule.bindingPattern
  | .type => do
    Rule.anyType
    return .other
  | .typeOperand => do
    Rule.typeOperand
    return .other
  | .tag inner => Rule.tag inner

/-- Reads goals that lie within each other up to `depth` times. -/
def read : Nat → Engine
  | 0 => fun _ _ _ => none
  | depth + 1 => fun g set st => g.rule (read depth) set st

end OneFile.Script
