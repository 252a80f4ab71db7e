import RouteInventory.Grammar.Expressions

/-!
# Markup

An element of markup is written in angle brackets: `<a b={c}>text {value}</a>`, `<a />`, or `<>…</>`
without a name.  Between its tags everything counts as text that is neither an element nor an
expression in braces, also what would be a comment elsewhere.

`element` stops directly behind the element, since what follows may be the text of the element
around it; blanks and comments behind the outermost element are passed by the rule that asked for
it.
-/

namespace RouteInventory.Grammar

/-- Goes on at index `i`, without passing a gap. -/
def standAt (i : Nat) : Reading Unit :=
  modify fun s => { s with pos := i, last := i, newline := false }

/-- A node from index `start` up to `stop`. -/
def nodeOver (src : Source) (k : Kind) (start stop : Nat) (ts : List Tree) : Tree :=
  .node { kind := k, span := src.span start stop, text := src.slice start stop } ts

/-- The character that must come next, behind which no gap is passed; the result is the index after
it. -/
def close (c : Char) : Reading Nat := do
  if (← peek) == some c then return (← pos) + 1 else failure

/-! ## Tags -/

/-- A name, to which dashes may belong. -/
def markupName (k : Kind) : Rule := do
  match (← source).nameEnd? (← pos) with
  | some j => leaf k ((← source).skipWhile (fun c => isNamePart c || c == '-') j)
  | none => failure

/-- A name after another one and a colon. -/
def namespaceName : Rule :=
  node .jsxNamespaceName (seq [markupName .identifier, sym ":", markupName .identifier])

/-- The name of an element: a name, perhaps with a namespace, or a member. -/
def elementName : Rule :=
  namespaceName <|> do
    let start ← pos
    loop (fun acc => extend .memberExpression start .object acc (seq [sym ".", memberName]))
      (← markupName .identifier)

/-- A string that ends at the next quote of its kind. -/
def markupString : Rule := do
  match ← peek with
  | some q =>
    let src ← source
    let stop := src.skipWhile (· != q) ((← pos) + 1)
    if (q == '"' || q == '\'') && stop < src.size then leaf .string (stop + 1) else failure
  | none => failure

/-- What may stand in braces. -/
def bracedContent : Rule := opt (choice [spread, sub .expressions])

def bracedExpression : Rule := node .jsxExpression (enclosed "\x7b" bracedContent "\x7d")

def attributeValue : Rule := choice [markupString, bracedExpression, markup]

def elementAttribute : Rule :=
  choice [bracedExpression,
    node .jsxAttribute (seq [choice [namespaceName, markupName .propertyIdentifier],
      opt (seq [sym "=", attributeValue])])]

/-- What a tag holds that opens an element. -/
def tagContent : Rule :=
  seq [field .name elementName, opt (field .typeArguments typeArguments),
    many elementAttribute]

/-! ## Elements -/

/-- An expression in braces among the text of an element, which begins at index `i`. -/
def bracedChild (i : Nat) : Rule := do
  advance (i + 1)
  let ts ← withAuto false bracedContent
  let stop ← close '\x7d'
  standAt stop
  return [nodeOver (← source) .jsxExpression i stop ts]

/-- What lies between the tags of an element from index `i` on, where a run of text began at
`start`; reading stops at the tag that closes the element. -/
def elementContent : Nat → Nat → Nat → Rule
  | 0, _, _ => failure
  | n + 1, start, i => do
    let src ← source
    let plain := pieceOf src .jsxText start i
    match src.chars[i]? with
    | some '<' =>
      standAt i
      if src.chars[i + 1]? == some '/' then return plain
      else
        let ts ← sub .element
        let stop ← pos
        return plain ++ ts ++ (← elementContent n stop stop)
    | some '\x7b' =>
      let ts ← bracedChild i
      let stop ← pos
      return plain ++ ts ++ (← elementContent n stop stop)
    | some c => if c == '>' || c == '\x7d' then failure else elementContent n start (i + 1)
    | none => failure

/-- The tag that closes an element. -/
def closingTag : Rule := do
  let start ← pos
  let ts ← seq [sym "<", sym "/", opt (field .name elementName)]
  let stop ← close '>'
  standAt stop
  return [nodeOver (← source) .jsxClosingElement start stop ts]

/-- An element, up to the end of its last tag. -/
def element : Rule := do
  let src ← source
  let start ← pos
  let ts ← sym "<"
  let content ← opt tagContent
  if (← peek) == some '/' then
    let slash ← sym "/"
    let stop ← close '>'
    standAt stop
    if content.isEmpty then failure
    return [nodeOver src .jsxSelfClosingElement start stop (ts ++ content ++ slash)]
  else
    let stop ← close '>'
    let opened := nodeOver src .jsxOpeningElement start stop (ts ++ content)
    let inside ← elementContent (src.size + 1) stop stop
    let closed ← closingTag
    return [nodeOver src .jsxElement start (← pos) (opened :: inside ++ closed)]

end RouteInventory.Grammar
