import RouteInventory.Grammar.Rule

/-!
# Types

The grammar of type syntax: annotations, parameter lists of types, object types and the type
operators.  A union or intersection of several types nests to the left, an intersection binds
closer than a union, and a function type takes everything to its right.
-/

namespace RouteInventory.Grammar

/-! ## Names of properties and modifiers -/

def computedName : Rule := node .computedPropertyName (enclosed "[" (sub .expression) "]")

/-- The name of a property, method or field. -/
def propertyName : Rule :=
  choice [anyName .propertyIdentifier, privateName, stringLiteral, numberLiteral, computedName]

/-- Whether a property name follows, perhaps behind further modifiers. -/
def propertyAhead : Reading Bool := do
  return (← peek).any fun c =>
    isNameStart c || c.isDigit || c == '"' || c == '\'' || c == '[' || c == '#' || c == '*'
      || c == '\\'

/-- A word that qualifies the property that follows, as opposed to being its name. -/
def modifierAs (k : Kind) (w : String) : Rule := seq [keyAs k w, require propertyAhead]

def modifier (w : String) : Rule := modifierAs .token w

def accessibility : Rule :=
  choice [modifierAs .accessibilityModifier "public", modifierAs .accessibilityModifier "private",
    modifierAs .accessibilityModifier "protected"]

/-! ## Annotations and signatures -/

def typeClause : Rule := node .typeClause (seq [sym ":", sub .type])

def typeArguments : Rule :=
  node .typeArguments (seq [sym "<", withAuto false (commaList1 (sub .type)), closeAngle])

def typeParameter : Rule :=
  node .typeParameter (seq [opt (modifier "const"), field .name typeIdentifier,
    opt (node .constraint (seq [key "extends", sub .type])),
    opt (node .defaultType (seq [sym "=", field .type (sub .type)]))])

def typeParameters : Rule :=
  node .typeParameters (seq [sym "<", withAuto false (commaList1 typeParameter), closeAngle])

def typePredicate : Rule :=
  node .typePredicate (seq [field .name (choice [identifier, keyAs .thisExpression "this"]),
    key "is", field .type (sub .type)])

def assertion : Rule :=
  node .asserts (seq [key "asserts",
    choice [typePredicate, identifier, keyAs .thisExpression "this"]])

/-- The declared type of what a function returns. -/
def returnType : Rule :=
  field .returnType (choice [node .assertsClause (seq [sym ":", assertion]),
    node .predicateClause (seq [sym ":", typePredicate]), typeClause])

/-- Type parameters, parameters and return type. -/
def signature : Rule :=
  seq [opt (field .typeParameters typeParameters), field .parameters (sub .parameters),
    opt returnType]

/-! ## Object types -/

def mappedTypeClause : Rule :=
  node .mappedTypeClause (seq [field .name typeIdentifier, key "in", field .type (sub .type),
    opt (seq [key "as", field .localName (sub .type)])])

def indexTypeClause : Rule :=
  field .type (choice [typeClause,
    node .omittingTypeClause (seq [sym "-", sym "?", sym ":", sub .type]),
    node .addingTypeClause (seq [sym "+", sym "?", sym ":", sub .type]),
    node .optingTypeClause (seq [sym "?", sym ":", sub .type])])

/-- An index signature or the clause of a mapped type. -/
def indexSignature : Rule :=
  node .indexSignature (seq [
    opt (seq [opt (choice [sym "-", sym "+"]), key "readonly"]),
    enclosed "[" (choice [seq [field .name (anyName .identifier), sym ":", sub .type],
      mappedTypeClause]) "]",
    opt indexTypeClause])

def constructSignature : Rule :=
  node .constructSignature (seq [opt (modifier "abstract"), key "new",
    opt (field .typeParameters typeParameters), field .parameters (sub .parameters),
    opt (field .type typeClause)])

/-- Whether the parameters of a function, or its type parameters, begin here. -/
def atParameters : Reading Bool := return (← atSym "(") || (← atSym "<")

/-- A property or a method of an object type. -/
def memberSignature : Rule := do
  let start ← pos
  let ts ← seq [opt accessibility, opt (modifier "static"),
    opt (modifierAs .overrideModifier "override"), opt (modifier "readonly"),
    opt (modifier "async"), opt (choice [modifier "get", modifier "set", sym "*"]),
    field .name propertyName, opt (sym "?")]
  if ← atParameters then
    let us ← signature
    wrap .methodSignature start (ts ++ us)
  else
    let us ← opt (field .type typeClause)
    wrap .propertySignature start (ts ++ us)

/-- The mark after a member of an object type. -/
def memberEnd : Rule := choice [sym ",", semicolon]

/-- Braces around the members of an object type or interface. -/
def objectType : Rule :=
  node .objectType (seq [sym "\x7b",
    withAuto true (seq [opt (choice [sym ",", sym ";"]),
      many (seq [choice [indexSignature, node .callSignature (seq [require atParameters, signature]),
        constructSignature, memberSignature], memberEnd])]),
    sym "\x7d"])

/-! ## Simple types -/

/-- Names of types that belong to the language. -/
def predefinedNames : List String :=
  ["any", "number", "boolean", "string", "symbol", "void", "unknown", "never", "object"]

def predefinedType : Rule := do
  match ← word with
  | some w => if predefinedNames.contains w then anyName .predefinedType else failure
  | none => failure

def uniqueSymbol : Rule := node .predefinedType (seq [key "unique", key "symbol"])

def literalType : Rule :=
  node .literalType (choice [stringLiteral, numberLiteral,
    node .unaryExpression (seq [field .operator (choice [sym "-", sym "+"]),
      field .argument numberLiteral]),
    keyAs .trueLiteral "true", keyAs .falseLiteral "false", keyAs .nullLiteral "null",
    keyAs .undefinedLiteral "undefined"])

/-- `import('module')`, a module taken for its types. -/
def importCall : Rule :=
  node .callExpression (seq [field .function (keyAs .importKeyword "import"),
    field .arguments (node .arguments (enclosed "(" (commaList1 stringLiteral) ")"))])

/-- Members taken from a value or module: each step wraps what stands before it. -/
def memberChain (base : Rule) (index : Rule) : Rule := do
  let start ← pos
  let b ← base
  loop (fun acc => do
    if ← atSym "." then
      let ts ← seq [sym ".", field .property (choice [privateName, anyName .propertyIdentifier])]
      wrap .memberExpression start (acc.map (Tree.withRole .object) ++ ts)
    else
      let ts ← seq [sym "[", field .index index, sym "]"]
      wrap .subscriptExpression start (acc.map (Tree.withRole .object) ++ ts)) b

/-- `typeof value`, the type of a value. -/
def typeQuery : Rule :=
  node .typeQuery (seq [key "typeof",
    memberChain (choice [importCall, identifier, keyAs .thisExpression "this"])
      (choice [stringLiteral, numberLiteral, predefinedType]),
    opt (field .typeArguments typeArguments)])

/-- A type taken from a module by `import('module').Name`. -/
def importedType : Rule :=
  seq [memberChain importCall failure, opt typeArguments]

/-- A name, a qualified name, or either applied to type arguments. -/
def namedType : Rule := do
  let start ← pos
  let first ← typeIdentifier
  let path ← loop (fun acc => do
    let ts ← seq [sym ".", field .name typeIdentifier]
    wrap .nestedTypeIdentifier start (acc ++ ts)) first
  let args ← opt (field .typeArguments typeArguments)
  if args.isEmpty then return path
  else wrap .genericType start (path.map (Tree.withRole .name) ++ args)

def tupleMember : Rule :=
  choice [
    node .requiredParameter (seq [opt (sym "..."), field .name identifier,
      field .type typeClause]),
    node .optionalParameter (seq [field .name identifier, sym "?", field .type typeClause]),
    node .restType (seq [sym "...", sub .type]),
    node .optionalType (seq [sub .type, sym "?"]),
    sub .type]

def primaryType : Rule :=
  choice [
    node .parenthesizedType (enclosed "(" (sub .type) ")"),
    sub .objectType,
    node .tupleType (enclosed "[" (commaList tupleMember) "]"),
    literalType,
    template .templateLiteralType .templateType (sub .type),
    typeQuery,
    importedType,
    node .indexTypeQuery (seq [key "keyof", sub .operandType]),
    uniqueSymbol,
    keyAs .thisType "this",
    predefinedType,
    namedType]

/-- A simple type and the array and element brackets behind it. -/
def bracketedType : Rule := do
  let start ← pos
  let base ← primaryType
  loop (fun acc => do
    if ← onNewLine then failure
    let opened ← sym "["
    if ← atSym "]" then
      let closed ← sym "]"
      wrap .arrayType start (acc ++ opened ++ closed)
    else
      let ts ← withAuto false (seq [sub .type, sym "]"])
      wrap .lookupType start (acc ++ opened ++ ts)) base

/-! ## Type operators -/

def functionType : Rule :=
  node .functionType (seq [require atParameters, opt (field .typeParameters typeParameters),
    field .parameters (sub .parameters), sym "=>",
    field .returnType (choice [assertion, typePredicate, sub .type])])

def constructorType : Rule :=
  node .constructorType (seq [opt (key "abstract"), key "new",
    opt (field .typeParameters typeParameters), field .parameters (sub .parameters), sym "=>",
    field .type (sub .type)])

def inferType : Rule :=
  node .inferType (seq [key "infer", typeIdentifier, opt (seq [key "extends", sub .unionType])])

/-- One operand of a union or an intersection. -/
def operandType : Rule :=
  choice [functionType, constructorType, node .readonlyType (seq [key "readonly", sub .type]),
    inferType, bracketedType]

/-- Operands joined by one operator, nested to the left; the operator may also stand in front. -/
def joinedType (k : Kind) (op : String) (operand : Rule) : Rule := do
  let start ← pos
  let first ← choice [node k (seq [sym op, operand]), operand]
  loop (fun acc => do
    let ts ← seq [sym op, operand]
    wrap k start (acc ++ ts)) first

def intersectionType : Rule := joinedType .intersectionType "&" (sub .operandType)

def unionType : Rule := joinedType .unionType "|" intersectionType

/-- A union, or a conditional type that tests one. -/
def typeRule : Rule := do
  let start ← pos
  let left ← sub .unionType
  let conditional : Rule := do
    if ← onNewLine then failure
    let ts ← seq [key "extends", sub .unionType, sym "?", sub .type, sym ":", sub .type]
    wrap .conditionalType start (left ++ ts)
  conditional <|> pure left

end RouteInventory.Grammar
