/-!
# Kinds and roles of syntax nodes

Every node of a TypeScript syntax tree has a `Kind`, which says what the node is, and may have a
`Role`, which says what the node is for in its parent.

* `Kind.token` is the one kind of the tokens that carry no structure (punctuation, operators and
  the keywords that introduce or qualify something).  All other kinds are *named*.
* `Kind.isFunction` are the kinds that open a function scope.
-/

namespace RouteInventory

/-- What a syntax node is. -/
inductive Kind where
  /-- Punctuation, an operator or a keyword; its text tells which. -/
  | token
  | comment
  | program
  | expressionStatement
  | statementBlock
  | emptyStatement
  | ifStatement
  | elseClause
  | forStatement
  | forInStatement
  | whileStatement
  | doStatement
  | tryStatement
  | catchClause
  | finallyClause
  | withStatement
  | switchStatement
  | switchBody
  | switchCase
  | switchDefault
  | labeledStatement
  | statementIdentifier
  | breakStatement
  | continueStatement
  | debuggerStatement
  | returnStatement
  | throwStatement
  | lexicalDeclaration
  | variableDeclaration
  | variableDeclarator
  | functionDeclaration
  | generatorFunctionDeclaration
  | functionSignature
  | classDeclaration
  | abstractClassDeclaration
  | interfaceDeclaration
  | typeAliasDeclaration
  | enumDeclaration
  | enumBody
  | enumAssignment
  | ambientDeclaration
  | internalModule
  | moduleDeclaration
  | importAlias
  | importStatement
  | importClause
  | namespaceImport
  | namedImports
  | importSpecifier
  | importRequireClause
  | importAttribute
  | exportStatement
  | exportClause
  | exportSpecifier
  | namespaceExport
  | decorator
  | classHeritage
  | extendsClause
  | implementsClause
  | extendsTypeClause
  | classBody
  | classStaticBlock
  | methodDefinition
  | methodSignature
  | abstractMethodSignature
  | publicFieldDefinition
  | accessibilityModifier
  | overrideModifier
  | formalParameters
  | requiredParameter
  | optionalParameter
  | restPattern
  | objectPattern
  | arrayPattern
  | pairPattern
  | assignmentPattern
  | objectAssignmentPattern
  | shorthandPropertyIdentifierPattern
  | identifier
  | propertyIdentifier
  | privatePropertyIdentifier
  | shorthandPropertyIdentifier
  | computedPropertyName
  | string
  | number
  | regex
  | templateString
  | templateSubstitution
  | stringFragment
  | escapeSequence
  | jsxElement
  | jsxOpeningElement
  | jsxClosingElement
  | jsxSelfClosingElement
  | jsxAttribute
  | jsxExpression
  | jsxNamespaceName
  | jsxText
  | thisExpression
  | superExpression
  | nullLiteral
  | undefinedLiteral
  | trueLiteral
  | falseLiteral
  | importKeyword
  | metaProperty
  | parenthesizedExpression
  | object
  | pair
  | array
  | spreadElement
  | functionExpression
  | generatorFunction
  | arrowFunction
  | classExpression
  | callExpression
  | arguments
  | newExpression
  | memberExpression
  | subscriptExpression
  | optionalChain
  | nonNullExpression
  | unaryExpression
  | updateExpression
  | awaitExpression
  | yieldExpression
  | binaryExpression
  | ternaryExpression
  | assignmentExpression
  | augmentedAssignmentExpression
  | sequenceExpression
  | asExpression
  | satisfiesExpression
  | typeAssertion
  | instantiationExpression
  | typeClause
  | predicateClause
  | typePredicate
  | assertsClause
  | asserts
  | omittingTypeClause
  | addingTypeClause
  | optingTypeClause
  | typeIdentifier
  | nestedIdentifier
  | nestedTypeIdentifier
  | predefinedType
  | literalType
  | genericType
  | typeArguments
  | typeParameters
  | typeParameter
  | constraint
  | defaultType
  | arrayType
  | tupleType
  | optionalType
  | restType
  | unionType
  | intersectionType
  | parenthesizedType
  | readonlyType
  | lookupType
  | typeQuery
  | indexTypeQuery
  | templateLiteralType
  | templateType
  | conditionalType
  | inferType
  | functionType
  | constructorType
  | thisType
  | objectType
  | interfaceBody
  | propertySignature
  | callSignature
  | constructSignature
  | indexSignature
  | mappedTypeClause
  deriving DecidableEq, Repr, Inhabited

namespace Kind

/-- Named nodes carry structure; the others are bare tokens. -/
def isNamed (k : Kind) : Bool := k != .token

/-- Kinds whose node is a function with parameters and a body of its own. -/
def isFunction (k : Kind) : Bool :=
  k == .arrowFunction || k == .functionExpression || k == .functionDeclaration
    || k == .methodDefinition

/-- Kinds of class declarations, abstract or not. -/
def isClassDeclaration (k : Kind) : Bool :=
  k == .classDeclaration || k == .abstractClassDeclaration

end Kind

/-- What a syntax node is for in its parent. -/
inductive Role where
  | name
  | value
  | type
  | body
  | parameters
  | parameter
  | returnType
  | typeParameters
  | typeArguments
  | object
  | property
  | function
  | arguments
  | constructor
  | operator
  | argument
  | left
  | right
  | condition
  | consequence
  | alternative
  | index
  | key
  | pattern
  | declaration
  | source
  | localName
  | initializer
  | increment
  | handler
  | finalizer
  | label
  deriving DecidableEq, Repr, Inhabited

end RouteInventory
