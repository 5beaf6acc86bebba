import DeckScript.Number.Numeral
import DeckScript.Value.Inspect
import DeckScript.Value.Json

/-!
# Variables and expressions

The variables of a run are kept in the order in which they were first assigned.  Their
names are told apart by letter case.

An expression is, in this order, a quoted literal, a number, the name of a variable, or
operands joined by `||`; any other text stands for itself.  There are no other
operators, so an unknown name evaluates to its own text.
-/

namespace DeckScript.Script

open Text

/-- The variables of a run. -/
abbrev Variables := Table Value

/-- All variables as the log shows them. -/
def Variables.inspect (vars : Variables) : Except NumberError String :=
  (Value.dict vars.entries).inspect.map fun entries => "VariableStore(" ++ entries ++ ")"

namespace Expression

/-- The operator that joins operands. -/
def joinOperator : String := "||"

/-- The text before a quote that ends the expression. -/
def closedBy? (quote : Char) (cs : List Char) : Option (List Char) :=
  if cs.dropWhile (· != quote) = [quote] then some (cs.takeWhile (· != quote)) else none

/-- The content of a quoted literal. -/
def literal? : List Char → Option (List Char)
  | '"' :: cs => closedBy? '"' cs
  | '\x27' :: cs => closedBy? '\x27' cs
  | _ => none

/-- The value of a literal, number or variable. -/
def atom? (vars : Variables) (cs : List Char) : Option Value :=
  match literal? cs with
  | some content => some (.text (String.ofList content))
  | none =>
    match Numeral.ofText? cs with
    | some numeral => some (.number numeral.value)
    | none => vars.get? (String.ofList cs)

/-- The operands of an expression: its text cut at each `||`. -/
def operands : List Char → List (List Char)
  | [] => [[]]
  | '|' :: '|' :: cs => [] :: operands cs
  | c :: cs =>
    match operands cs with
    | [] => [[c]]
    | operand :: rest => (c :: operand) :: rest

/-- The value of one operand. -/
def operandValue (vars : Variables) (operand : List Char) : Value :=
  let cs := trim operand
  (atom? vars cs).getD (.text (String.ofList cs))

/-- The printed operands, one after the other. -/
def joined (vars : Variables) : List (List Char) → Except NumberError String
  | [] => .ok ""
  | operand :: rest => do
    let first ← (operandValue vars operand).display
    let others ← joined vars rest
    return first ++ others

/-- The value of an expression. -/
def evaluate (vars : Variables) (expression : String) : Except NumberError Value :=
  let cs := trim expression.toList
  match atom? vars cs with
  | some value => .ok value
  | none =>
    match operands cs with
    | _ :: _ :: _ => (joined vars (operands cs)).map .text
    | _ => .ok (.text (String.ofList cs))

end Expression

end DeckScript.Script
