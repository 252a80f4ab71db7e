import RouteInventory.Grammar.Types

/-!
# Patterns, parameters and decorators

What may stand on the left of a binding: names, destructuring patterns and the parameters of a
function with their decorators, modifiers, types and defaults.
-/

namespace RouteInventory.Grammar

/-- A default value. -/
def initializer : Rule := seq [sym "=", field .value (sub .expression)]

/-! ## Patterns -/

def restPattern : Rule := node .restPattern (seq [sym "...", sub .pattern])

/-- A pattern, perhaps with a default. -/
def patternWithDefault : Rule := do
  let start ← pos
  let p ← sub .pattern
  if ← atSym "=" then
    let ts ← seq [sym "=", field .right (sub .expression)]
    wrap .assignmentPattern start (p.map (Tree.withRole .left) ++ ts)
  else return p

def shorthandPattern : Rule := do
  let start ← pos
  let name ← identifierAs .shorthandPropertyIdentifierPattern
  if ← atSym "=" then
    let ts ← seq [sym "=", field .right (sub .expression)]
    wrap .objectAssignmentPattern start (name.map (Tree.withRole .left) ++ ts)
  else return name

def pairPattern : Rule :=
  node .pairPattern (seq [field .key propertyName, sym ":", field .value patternWithDefault])

def objectPattern : Rule :=
  node .objectPattern (enclosed "\x7b" (commaList (choice [restPattern, pairPattern,
    shorthandPattern])) "\x7d")

def arrayPattern : Rule :=
  node .arrayPattern (enclosed "[" (commaList patternWithDefault) "]")

/-- What may be bound or assigned to by destructuring. -/
def pattern : Rule :=
  choice [restPattern, objectPattern, arrayPattern,
    memberChain (choice [identifier, keyAs .thisExpression "this"]) (sub .expressions)]

/-! ## Parameters -/

def parameterPattern : Rule := field .pattern (choice [keyAs .thisExpression "this", pattern])

/-- Whether a parameter's name follows, perhaps behind further modifiers. -/
def parameterAhead : Reading Bool := do
  return (← peek).any fun c => isNameStart c || c == '\x7b' || c == '['

/-- A word that qualifies the parameter that follows. -/
def parameterModifier (k : Kind) (w : String) : Rule := seq [keyAs k w, require parameterAhead]

def parameter : Rule := do
  let start ← pos
  let ts ← seq [many (sub .decorator),
    opt (choice [parameterModifier .accessibilityModifier "public",
      parameterModifier .accessibilityModifier "private",
      parameterModifier .accessibilityModifier "protected"]),
    opt (parameterModifier .overrideModifier "override"),
    opt (parameterModifier .token "readonly"), parameterPattern]
  let mark ← opt (sym "?")
  let us ← seq [opt (field .type typeClause), opt initializer]
  wrap (if mark.isEmpty then .requiredParameter else .optionalParameter) start (ts ++ mark ++ us)

def parameters : Rule :=
  node .formalParameters (enclosed "(" (opt (commaList1 parameter)) ")")

/-! ## Decorators -/

def arguments : Rule :=
  node .arguments (enclosed "(" (commaList (choice [
    node .spreadElement (seq [sym "...", sub .expression]), sub .expression])) ")")

/-- A name or qualified name, a call of one, or an expression in parentheses. -/
def decoratorTarget : Rule := do
  let start ← pos
  if ← atSym "(" then
    node .parenthesizedExpression (enclosed "(" (sub .expressions) ")")
  else
    let target ← memberChain identifier failure
    let call : Rule := do
      let ts ← seq [opt (field .typeArguments typeArguments), field .arguments arguments]
      wrap .callExpression start (target.map (Tree.withRole .function) ++ ts)
    call <|> pure target

def decorator : Rule := node .decorator (seq [sym "@", decoratorTarget])

end RouteInventory.Grammar
