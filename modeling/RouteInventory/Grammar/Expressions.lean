import RouteInventory.Grammar.Patterns

/-!
# Expressions

Expressions are read operand by operand.  Binary operators group by their level; a type assertion
(`as`, `satisfies`) or a non-null mark after an operator chain applies to the whole chain before
it, while an awaited operand keeps what follows it.
-/

namespace RouteInventory.Grammar

/-! ## Literals -/

def keywordLiteral : Rule :=
  choice [keyAs .thisExpression "this", keyAs .superExpression "super",
    keyAs .nullLiteral "null", keyAs .undefinedLiteral "undefined", keyAs .trueLiteral "true",
    keyAs .falseLiteral "false"]

def templateString : Rule := template .templateString .templateSubstitution (sub .expressions)

def spread : Rule := node .spreadElement (seq [sym "...", sub .expression])

def arrayLiteral : Rule :=
  node .array (enclosed "[" (commaList (choice [spread, sub .expression])) "]")

/-- A method of an object literal. -/
def objectMethod : Rule :=
  node .methodDefinition (seq [opt (modifier "async"),
    opt (choice [modifier "get", modifier "set", sym "*"]), field .name propertyName,
    signature, field .body (sub .block)])

def pair : Rule :=
  node .pair (seq [field .key propertyName, sym ":", field .value (sub .expression)])

def shorthand : Rule := do
  let name ← anyName .shorthandPropertyIdentifier
  if (← atSym ",") || (← atSym "\x7d") then return name else failure

def objectLiteral : Rule :=
  node .object (enclosed "\x7b" (commaList (choice [spread, pair, shorthand, objectMethod])) "\x7d")

/-! ## Functions and classes as values -/

/-- The body of a function: a block, or a single expression. -/
def arrowBody : Rule := do
  if ← atSym "\x7b" then sub .block else sub .expression

/-- The signature of an arrow function, without a return type where a colon means something else. -/
def arrowSignature : Rule := do
  if (← (read : Base Setting)).arrowResult then signature
  else seq [opt (field .typeParameters typeParameters), field .parameters (sub .parameters)]

def arrowFunction : Rule :=
  node .arrowFunction (choice [
    seq [opt (key "async"), field .parameter identifier, sym "=>", field .body arrowBody],
    seq [opt (key "async"), require atParameters, arrowSignature, sym "=>",
      field .body arrowBody]])

def functionExpression : Rule := do
  let start ← pos
  let ts ← seq [opt (key "async"), key "function"]
  let star ← opt (sym "*")
  let us ← seq [opt (field .name identifier), signature, field .body (sub .block)]
  wrap (if star.isEmpty then .functionExpression else .generatorFunction) start (ts ++ star ++ us)

def extendsClause : Rule :=
  node .extendsClause (seq [key "extends", field .value (sub .baseClass),
    opt (field .typeArguments typeArguments)])

def implementsClause : Rule :=
  node .implementsClause (seq [key "implements", commaList1 (sub .type)])

def classHeritage : Rule :=
  node .classHeritage (choice [seq [extendsClause, opt implementsClause], implementsClause])

/-- What follows a class's name: type parameters, bases and body. -/
def classRest : Rule :=
  seq [opt (field .typeParameters typeParameters), opt classHeritage, field .body (sub .classBody)]

def classExpression : Rule :=
  node .classExpression (seq [many (sub .decorator), key "class",
    opt (seq [require (return !(← atKey "implements")), field .name typeIdentifier]), classRest])

/-! ## Operands -/

def parenthesized : Rule :=
  node .parenthesizedExpression
    (enclosed "(" (seq [sub .expressions, opt (field .type typeClause)]) ")")

/-- A destructuring pattern that is assigned to. -/
def destructuring : Rule :=
  node .assignmentExpression (seq [field .left (choice [objectPattern, arrayPattern]), sym "=",
    field .right (sub .expression)])

/-- An object or array literal, unless it turns out to be a pattern. -/
def bracketLiteral : Rule :=
  choice [
    seq [choice [objectLiteral, arrayLiteral], require (return !(← atSym "="))],
    destructuring]

def importValue : Rule :=
  choice [
    node .metaProperty (seq [key "import", sym ".", key "meta"]),
    seq [keyAs .importKeyword "import", require (atSym "(")]]

/-- Whether an angle bracket begins an element of markup. -/
def hasMarkup : Reading Bool := return (← (read : Base Setting)).markup

/-- A type in front of an operand, where no markup can be meant. -/
def typeAssertion : Rule := do
  if ← hasMarkup then failure
  else node .typeAssertion (seq [typeArguments, sub .operand])

/-- An element of markup, where there may be one. -/
def markup : Rule := do
  if ← hasMarkup then
    let ts ← sub .element
    advance (← pos)
    return ts
  else failure

/-- The simplest operands: names, literals and bracketed expressions. -/
def primary : Rule :=
  choice [keywordLiteral, numberLiteral, stringLiteral, templateString, parenthesized,
    bracketLiteral, functionExpression, classExpression, importValue, identifier, regexLiteral]

/-- Wraps what was read so far as the part `r` of a larger node. -/
def extend (k : Kind) (start : Nat) (r : Role) (acc : List Tree) (rest : Rule) : Rule := do
  let ts ← rest
  wrap k start (acc.map (Tree.withRole r) ++ ts)

def memberName : Rule := field .property (choice [privateName, anyName .propertyIdentifier])

def optionalChain : Rule := do
  if ← atSym "?." then leaf .optionalChain ((← pos) + 2) else failure

def subscript : Rule := enclosed "[" (field .index (sub .expressions)) "]"

/-- A member, an element or a tagged template taken from what stands before. -/
def accessStep (start : Nat) (acc : List Tree) : Rule :=
  choice [
    extend .memberExpression start .object acc (seq [sym ".", memberName]),
    extend .subscriptExpression start .object acc subscript,
    extend .callExpression start .function acc (field .arguments templateString)]

/-- A call, with or without type arguments. -/
def callStep (start : Nat) (acc : List Tree) : Rule :=
  choice [
    extend .callExpression start .function acc (field .arguments arguments),
    extend .callExpression start .function acc
      (seq [field .typeArguments typeArguments,
        field .arguments (choice [arguments, templateString])])]

/-- A step behind `?.`. -/
def optionalStep (start : Nat) (acc : List Tree) : Rule :=
  choice [
    extend .callExpression start .function acc
      (seq [sym "?.", opt (field .typeArguments typeArguments), field .arguments arguments]),
    extend .subscriptExpression start .object acc (seq [optionalChain, subscript]),
    extend .memberExpression start .object acc (seq [optionalChain, memberName])]

/-- Type arguments without a call; they must not be the beginning of a comparison. -/
def instantiationStep (start : Nat) (acc : List Tree) : Rule :=
  extend .instantiationExpression start .function acc
    (seq [field .typeArguments typeArguments, require (do
      return (← get).newline || (← peek).all fun c => ")],;:.?=&|\x7d".toList.contains c)])

def newTarget : Rule := do
  let start ← pos
  let base ← primary
  loop (accessStep start) base

def newExpression : Rule :=
  node .newExpression (seq [key "new", field .constructor newTarget,
    opt (seq [field .typeArguments typeArguments, require (atSym "(")]),
    opt (field .arguments arguments)])

/-- The expression a class extends; type arguments at its end belong to the clause. -/
def baseClass : Rule := do
  let start ← pos
  let base ← choice [newExpression, primary]
  loop (fun acc => choice [accessStep start acc, callStep start acc, optionalStep start acc]) base

/-- Steps that follow an operand directly. -/
def operandSteps (start : Nat) (base : List Tree) : Rule :=
  loop (fun acc => choice [accessStep start acc, callStep start acc, optionalStep start acc,
    instantiationStep start acc]) base

def isAssignable (k : Kind) : Bool :=
  k == .identifier || k == .memberExpression || k == .subscriptExpression
    || k == .nonNullExpression || k == .parenthesizedExpression || k == .undefinedLiteral

/-- Operators that combine and assign. -/
def augmentedOperators : List String :=
  ["+=", "-=", "*=", "/=", "%=", "^=", "&=", "|=", ">>=", ">>>=", "<<=", "**=", "&&=", "||=", "??="]

/-- An increment or an assignment behind an operand. -/
def assignmentStep (start : Nat) (base : List Tree) : Rule := do
  let op ← punctuator
  if (op == "++" || op == "--") && !(← onNewLine) then
    extend .updateExpression start .argument base (field .operator (sym op))
  else if !(base.any fun t => isAssignable t.kind) then return base
  else if op == "=" then
    extend .assignmentExpression start .left base
      (seq [sym "=", field .right (sub .expression)])
  else if augmentedOperators.contains op then
    extend .augmentedAssignmentExpression start .left base
      (seq [field .operator (sym op), field .right (sub .expression)])
  else return base

/-! ## Operators in front -/

def unaryOperator : Rule :=
  field .operator (choice [sym "!", sym "~", sym "-", sym "+", key "typeof", key "void",
    key "delete"])

def unaryExpression : Rule :=
  node .unaryExpression (seq [unaryOperator, field .argument (sub .operand)])

def updateExpression : Rule :=
  node .updateExpression (seq [field .operator (choice [sym "++", sym "--"]),
    field .argument (sub .operand)])

def awaitExpression : Rule := node .awaitExpression (seq [key "await", sub .awaited])

def yieldExpression : Rule :=
  node .yieldExpression (seq [key "yield", choice [
    seq [sym "*", sub .expression],
    seq [require (return !(← operandCut)), sub .expression],
    pure []]])

/-- One operand of a binary operator, with everything that binds closer. -/
def operand : Rule := do
  let start ← pos
  choice [unaryExpression, updateExpression, awaitExpression, yieldExpression,
    seq [privateName, require (atKey "in")],
    do
      let base ← choice [arrowFunction, typeAssertion,
        node .metaProperty (seq [key "new", sym ".", key "target"]), newExpression, primary]
      let full ← operandSteps start base
      assignmentStep start full,
    markup]

/-! ## Binary operators -/

/-- The level of a binary operator; a higher one binds closer. -/
def binaryLevel (op : String) : Option Nat :=
  match op with
  | "??" => some 1
  | "||" => some 2
  | "&&" => some 3
  | "|" => some 4
  | "^" => some 5
  | "&" => some 6
  | "==" | "!=" | "===" | "!==" => some 7
  | "<" | ">" | "<=" | ">=" | "in" | "instanceof" => some 8
  | "<<" | ">>" | ">>>" => some 9
  | "+" | "-" => some 10
  | "*" | "/" | "%" => some 11
  | "**" => some 12
  | _ => none

/-- The binary operator at the next token. -/
def binaryOperator? : Reading (Option String) := do
  let p ← punctuator
  if (binaryLevel p).isSome then return some p
  else if ← atKey "in" then return some "in"
  else if ← atKey "instanceof" then return some "instanceof"
  else return none

/-- The token of a binary operator. -/
def operatorToken (op : String) : Rule := do leaf .token ((← pos) + op.length)

/-- A binary operator of at least the given level and its right operand. -/
def binaryStep (start level : Nat) (acc : List Tree) : Rule := do
  match ← binaryOperator? with
  | none => failure
  | some op =>
    match binaryLevel op with
    | none => failure
    | some l =>
      if l < level then failure
      else
        extend .binaryExpression start .left acc
          (seq [field .operator (operatorToken op),
            field .right (sub (.binaryAbove (if op == "**" then l else l + 1)))])

/-- Binary operators of at least the given level. -/
def binaryAbove (level : Nat) : Rule := do
  let start ← pos
  let first ← sub .operand
  loop (binaryStep start level) first

/-- A type assertion or a non-null mark behind an expression. -/
def assertionStep (start : Nat) (acc : List Tree) : Rule := do
  if ← onNewLine then failure
  choice [
    do
      let ts ← seq [key "as", choice [seq [key "const"], sub .type]]
      wrap .asExpression start (acc ++ ts),
    do
      let ts ← seq [key "satisfies", sub .type]
      wrap .satisfiesExpression start (acc ++ ts),
    do
      let ts ← sym "!"
      let marked ← wrap .nonNullExpression start (acc ++ ts)
      let full ← operandSteps start marked
      assignmentStep start full]

/-- The operand of `await`, with the assertions behind it. -/
def awaited : Rule := do
  let start ← pos
  let first ← sub .operand
  loop (assertionStep start) first

/-- An operator chain with the assertions behind it. -/
def operatorChain : Rule := do
  let start ← pos
  let first ← sub .operand
  loop (fun acc => choice [binaryStep start 0 acc, assertionStep start acc]) first

/-- An expression without commas outside brackets. -/
def expression : Rule := do
  let start ← pos
  let test ← operatorChain
  if ← atSym "?" then
    extend .ternaryExpression start .condition test
      (seq [sym "?", choice [
          seq [withAuto false (field .consequence (sub .expression)), sym ":"],
          seq [withoutArrowResult (field .consequence (sub .expression)), sym ":"]],
        field .alternative (sub .expression)])
  else return test

/-- One expression, or several with commas between them. -/
def expressions : Rule := do
  let start ← pos
  let first ← sub .expression
  if ← atSym "," then
    let rest ← many (seq [sym ",", sub .expression])
    wrap .sequenceExpression start (first ++ rest)
  else return first

end RouteInventory.Grammar
