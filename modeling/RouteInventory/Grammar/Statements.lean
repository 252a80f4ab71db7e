import RouteInventory.Grammar.Expressions

/-!
# Statements and declarations

Statements, declarations, classes, imports and exports.  A decorator in front of a method stands
beside it in the class body, one in front of a field belongs to the field, and one in front of
`export` belongs to the export.
-/

namespace RouteInventory.Grammar

/-! ## Class bodies -/

def staticBlock : Rule :=
  node .classStaticBlock (seq [key "static", field .body (sub .block)])

/-- Words that may qualify a class member. -/
def memberModifier : Rule :=
  choice [accessibility, modifierAs .overrideModifier "override", modifier "static",
    modifier "readonly", modifier "abstract", modifier "declare", modifier "accessor",
    modifier "async"]

/-- The kind of a method-like class member: without a body it is only a signature. -/
def methodKind (modifiers : List Tree) (hasBody : Bool) : Kind :=
  if hasBody then .methodDefinition
  else if modifiers.any fun t => t.text == "abstract" then .abstractMethodSignature
  else .methodSignature

/-- A method or field with its decorators. -/
def classMember : Rule := do
  let start ← pos
  let decorators ← many (sub .decorator)
  let memberStart ← pos
  let indexed : Rule := seq [pure decorators,
    seq [opt (modifier "static"), indexSignature, memberEnd]]
  let other : Rule := do
    let modifiers ← many memberModifier
    let ts ← seq [opt (choice [modifier "get", modifier "set", sym "*"]),
      field .name propertyName, opt (choice [sym "?", sym "!"])]
    if ← atParameters then
      let us ← signature
      if ← atSym "\x7b" then
        let body ← field .body (sub .block)
        let m ← wrap (methodKind modifiers true) memberStart (modifiers ++ ts ++ us ++ body)
        return decorators ++ m ++ (← opt (sym ";"))
      else
        let m ← wrap (methodKind modifiers false) memberStart (modifiers ++ ts ++ us)
        return decorators ++ m ++ (← memberEnd)
    else
      let us ← seq [opt (field .type typeClause), opt initializer]
      let f ← wrap .publicFieldDefinition start (decorators ++ modifiers ++ ts ++ us)
      return f ++ (← memberEnd)
  indexed <|> other

def classBody : Rule :=
  node .classBody (seq [sym "\x7b",
    withAuto true (many (choice [sym ";", staticBlock, classMember])), sym "\x7d"])

/-! ## Declarations -/

def variableDeclarator : Rule :=
  node .variableDeclarator (seq [field .name (choice [objectPattern, arrayPattern, identifier]),
    opt (sym "!"), opt (field .type typeClause), opt initializer])

def variableDeclaration : Rule :=
  choice [
    node .variableDeclaration (seq [key "var", commaList1 variableDeclarator, semicolon]),
    node .lexicalDeclaration (seq [choice [key "let", key "const"], commaList1 variableDeclarator,
      semicolon])]

/-- A function with a body, or the signature of one. -/
def functionDeclaration : Rule := do
  let start ← pos
  let ts ← seq [opt (key "async"), key "function"]
  let star ← opt (sym "*")
  let us ← seq [field .name identifier, signature]
  if ← atSym "\x7b" then
    let body ← field .body (sub .block)
    wrap (if star.isEmpty then .functionDeclaration else .generatorFunctionDeclaration) start
      (ts ++ star ++ us ++ body)
  else
    let stop ← semicolon
    wrap .functionSignature start (ts ++ star ++ us ++ stop)

/-- A class whose decorators were already read, from index `start` on. -/
def classDeclarationFrom (start : Nat) (decorators : List Tree) : Rule := do
  let mark ← opt (key "abstract")
  let ts ← seq [key "class", field .name typeIdentifier, classRest]
  wrap (if mark.isEmpty then .classDeclaration else .abstractClassDeclaration) start
    (decorators ++ mark ++ ts)

def classDeclaration : Rule := do
  let start ← pos
  let decorators ← many (sub .decorator)
  classDeclarationFrom start decorators

def extendsTypes : Rule :=
  node .extendsTypeClause (seq [key "extends", commaList1 (field .type namedType)])

/-- The members of an interface. -/
def interfaceBody : Rule := return (← sub .objectType).map (Tree.withKind .interfaceBody)

def interfaceDeclaration : Rule :=
  node .interfaceDeclaration (seq [key "interface", field .name typeIdentifier,
    opt (field .typeParameters typeParameters), opt extendsTypes, field .body interfaceBody])

def typeAliasDeclaration : Rule :=
  node .typeAliasDeclaration (seq [key "type", field .name typeIdentifier,
    opt (field .typeParameters typeParameters), sym "=", field .value (withAuto true (sub .type)),
    semicolon])

def enumMember : Rule := do
  let start ← pos
  let name ← field .name propertyName
  if ← atSym "=" then
    let ts ← initializer
    wrap .enumAssignment start (name ++ ts)
  else return name

def enumDeclaration : Rule :=
  node .enumDeclaration (seq [opt (key "const"), key "enum", field .name identifier,
    field .body (node .enumBody (enclosed "\x7b" (opt (commaList1 enumMember)) "\x7d"))])

def nestedName : Rule := do
  let start ← pos
  let first ← identifier
  loop (fun acc => do
    let ts ← seq [sym ".", field .property (anyName .propertyIdentifier)]
    wrap .nestedIdentifier start (acc.map (Tree.withRole .object) ++ ts)) first

/-- What follows `namespace` or `module`. -/
def moduleRest : Rule :=
  seq [field .name (choice [stringLiteral, nestedName]), field .body (sub .block)]

def namespaceDeclaration : Rule := node .internalModule (seq [key "namespace", moduleRest])

def moduleDeclaration : Rule :=
  node .moduleDeclaration (seq [key "module", field .name (choice [stringLiteral, nestedName]),
    choice [field .body (sub .block), semicolon]])

def importAlias : Rule :=
  node .importAlias (seq [key "import", identifier, sym "=", nestedName, semicolon])

/-- Declarations that may also be exported. -/
def plainDeclaration : Rule :=
  choice [enumDeclaration, variableDeclaration, functionDeclaration, classDeclaration,
    interfaceDeclaration, typeAliasDeclaration, moduleDeclaration, namespaceDeclaration,
    importAlias]

def ambientDeclaration : Rule :=
  node .ambientDeclaration (seq [key "declare", choice [plainDeclaration,
    seq [key "global", sub .block]]])

def declaration : Rule := choice [ambientDeclaration, plainDeclaration]

/-! ## Imports and exports -/

def fromClause : Rule := seq [key "from", field .source stringLiteral]

def moduleName : Rule := choice [stringLiteral, key "default", anyName .identifier]

def importSpecifier : Rule :=
  node .importSpecifier (choice [
    seq [opt (seq [choice [key "type", key "typeof"], require (return !(← atKey "as"))]),
      field .name moduleName, key "as", field .localName (anyName .identifier)],
    seq [choice [key "type", key "typeof"], field .name (anyName .identifier)],
    field .name (anyName .identifier)])

def namedImports : Rule :=
  node .namedImports (enclosed "\x7b" (opt (commaList1 importSpecifier)) "\x7d")

def namespaceImport : Rule := node .namespaceImport (seq [sym "*", key "as", identifier])

def importClause : Rule :=
  node .importClause (choice [namespaceImport, namedImports,
    seq [identifier, opt (seq [sym ",", choice [namespaceImport, namedImports]])]])

def importRequire : Rule :=
  node .importRequireClause (seq [identifier, sym "=", key "require",
    enclosed "(" (field .source stringLiteral) ")"])

def importAttribute : Rule :=
  node .importAttribute (seq [choice [key "with", key "assert"], objectLiteral])

def importStatement : Rule :=
  node .importStatement (seq [key "import", choice [
      seq [importClause, fromClause],
      seq [choice [key "type", key "typeof"], importClause, fromClause],
      seq [opt (key "type"), importRequire],
      field .source stringLiteral],
    opt importAttribute, semicolon])

def exportSpecifier : Rule :=
  node .exportSpecifier (choice [
    seq [opt (seq [choice [key "type", key "typeof"], require (return !(← atKey "as"))]),
      field .name moduleName, key "as", field .localName moduleName],
    seq [choice [key "type", key "typeof"], field .name moduleName],
    field .name moduleName])

def exportClause : Rule :=
  node .exportClause (enclosed "\x7b" (opt (commaList1 exportSpecifier)) "\x7d")

def namespaceExport : Rule := node .namespaceExport (seq [sym "*", key "as", moduleName])

/-- The exported declaration; its decorators may stand in front of `export`. -/
def exportedDeclaration : Rule := field .declaration declaration

def exportStatement : Rule :=
  node .exportStatement (choice [
    seq [key "export", choice [
        seq [namespaceExport, fromClause],
        seq [sym "*", fromClause],
        seq [opt (key "type"), exportClause, opt fromClause]],
      opt importAttribute, semicolon],
    seq [key "export", key "type", sym "*", opt (seq [key "as", moduleName]), fromClause, semicolon],
    seq [key "export", sym "=", sub .expression, semicolon],
    seq [key "export", key "as", key "namespace", identifier, semicolon],
    seq [many (sub .decorator), key "export", choice [
      seq [key "default", choice [exportedDeclaration,
        seq [field .value (withAuto true (sub .expression)), semicolon]]],
      exportedDeclaration]]])

/-! ## Statements -/

def block : Rule :=
  node .statementBlock (seq [sym "\x7b", withAuto true (many (sub .statement)), sym "\x7d"])

def elseClause : Rule := node .elseClause (seq [key "else", sub .statement])

def ifStatement : Rule :=
  node .ifStatement (seq [key "if", field .condition parenthesized,
    field .consequence (sub .statement), opt (field .alternative elseClause)])

/-- The target of a `for` loop over a collection. -/
def forTarget : Rule :=
  choice [
    seq [choice [key "let", key "const", key "var"], field .left pattern],
    field .left pattern]

def forInStatement : Rule :=
  node .forInStatement (seq [key "for", opt (key "await"),
    enclosed "(" (seq [forTarget, field .operator (choice [key "in", key "of"]),
      field .right (sub .expressions)]) ")",
    field .body (sub .statement)])

/-- An optional expression of a `for` header and its semicolon. -/
def forPart (r : Role) : Rule :=
  choice [field r (node .emptyStatement (sym ";")), seq [field r (sub .expressions), sym ";"]]

def forStatement : Rule :=
  node .forStatement (seq [key "for",
    enclosed "(" (seq [choice [field .initializer variableDeclaration, forPart .initializer],
      forPart .condition, opt (field .increment (sub .expressions))]) ")",
    field .body (sub .statement)])

def whileStatement : Rule :=
  node .whileStatement (seq [key "while", field .condition parenthesized,
    field .body (sub .statement)])

def doStatement : Rule :=
  node .doStatement (seq [key "do", field .body (sub .statement), key "while",
    field .condition parenthesized, opt (sym ";")])

def catchClause : Rule :=
  node .catchClause (seq [key "catch",
    opt (enclosed "(" (seq [field .parameter pattern, opt (field .type typeClause)]) ")"),
    field .body (sub .block)])

def tryStatement : Rule :=
  node .tryStatement (seq [key "try", field .body (sub .block),
    opt (field .handler catchClause),
    opt (field .finalizer (node .finallyClause (seq [key "finally", field .body (sub .block)])))])

def withStatement : Rule :=
  node .withStatement (seq [key "with", field .object parenthesized, field .body (sub .statement)])

def switchCase : Rule :=
  choice [
    node .switchCase (seq [key "case", withAuto false (field .value (sub .expressions)), sym ":",
      field .body (many (sub .statement))]),
    node .switchDefault (seq [key "default", sym ":", field .body (many (sub .statement))])]

def switchStatement : Rule :=
  node .switchStatement (seq [key "switch", field .value parenthesized,
    field .body (node .switchBody (seq [sym "\x7b", withAuto true (many switchCase),
      sym "\x7d"]))])

/-- `break` and `continue`, with the label on their line. -/
def jump (k : Kind) (w : String) : Rule :=
  node k (seq [key w,
    opt (seq [require (return !(← operandCut)),
      field .label (identifierAs .statementIdentifier)]),
    semicolon])

/-- `return` and `throw`, with the value that begins on their line. -/
def leave (k : Kind) (w : String) : Rule :=
  node k (seq [key w,
    opt (seq [require (return !(← operandCut)), sub .expressions]), semicolon])

def labeledStatement : Rule :=
  node .labeledStatement (seq [field .label (identifierAs .statementIdentifier), sym ":",
    field .body (sub .statement)])

def expressionStatement : Rule := node .expressionStatement (seq [sub .expressions, semicolon])

/-- A namespace in statement position counts as an expression. -/
def namespaceStatement : Rule :=
  node .expressionStatement (seq [namespaceDeclaration, opt (sym ";")])

/-- An import that is not the beginning of a call or of `import.meta`. -/
def statement : Rule :=
  withAuto true (choice [
    exportStatement, importStatement, block, node .emptyStatement (sym ";"), ifStatement,
    forInStatement, forStatement, whileStatement, doStatement, tryStatement, switchStatement,
    withStatement, jump .breakStatement "break", jump .continueStatement "continue",
    node .debuggerStatement (seq [key "debugger", semicolon]),
    leave .returnStatement "return", leave .throwStatement "throw",
    namespaceStatement, declaration, labeledStatement, expressionStatement])

end RouteInventory.Grammar
