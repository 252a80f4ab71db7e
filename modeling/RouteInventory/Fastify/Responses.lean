import RouteInventory.Handler
import RouteInventory.Shape.Infer
import RouteInventory.Shape.Render

/-!
# Responses of a handler

A handler answers by returning a value or by sending one through its reply: `reply.send(value)`,
`reply.code(404).send(value)` or `reply.status(404).send(value)`.  Codes of 400 and above are
errors.  What happens inside further functions is not the handler's answer.
-/

namespace RouteInventory

/-- A value sent through the reply. -/
structure SendCall where
  code : Nat
  payload : Option Cursor
  source : ResponseSource
  line : Nat
  deriving Repr, Inhabited

namespace Cursor

/-- The name of a handler's second parameter; without one, replies go by `reply`. -/
def replyName (handler : Cursor) : String :=
  match (handler.role? .parameters).bind fun ps => ps.parts[1]? with
  | some p =>
    match p.role? .pattern with
    | some pat => if pat.kind == .identifier then pat.text else "reply"
    | none => "reply"
  | none => "reply"

end Cursor

namespace Tree

mutual
/-- Whether an expression is a chain of calls and members that begins with the name. -/
def isRootedAt (name : String) : Tree → Bool
  | .node h ts =>
    match h.kind with
    | .identifier => h.text == name
    | .callExpression => roleIsRootedAt name .function ts
    | .memberExpression => roleIsRootedAt name .object ts
    | _ => false

/-- Whether the first of several nodes in a role is such a chain. -/
def roleIsRootedAt (name : String) (r : Role) : List Tree → Bool
  | [] => false
  | t :: ts => if t.head.role == some r then isRootedAt name t else roleIsRootedAt name r ts
end

/-- Whether an expression, awaited or not, is the reply or a chain that begins with it. -/
def isReply (t : Tree) (reply : String) : Bool :=
  let e := t.unwrapped
  if e.kind == .awaitExpression then
    match e.firstPart? with
    | some inner => isRootedAt reply inner.unwrapped
    | none => false
  else isRootedAt reply e

end Tree

namespace Cursor

/-- A status code: a number, or a name bound to one. -/
def statusCode? (c : Cursor) : Option Nat :=
  let node := c.unwrapped
  match node.kind with
  | .number => codeOfText? node.text
  | .identifier =>
    match node.binding? node.text with
    | some (.variable d) =>
      (d.role? .value).bind fun v =>
        let value := v.unwrapped
        if value.kind == .number then codeOfText? value.text else none
    | _ => none
  | _ => none

/-- Reads a call as one that sends a value. -/
def sendCall? (call : Cursor) (reply : String) : Option SendCall :=
  (call.role? .function).bind fun f =>
    if f.kind != .memberExpression || f.focus.calleeName? != some "send" then none
    else
      let payload := call.callArguments.head?
      (f.role? .object).bind fun o =>
        let object := o.unwrapped
        match object.kind with
        | .identifier =>
          if object.text == reply then some ⟨200, payload, .replySend, call.line⟩ else none
        | .callExpression =>
          (object.role? .function).bind fun g =>
            let name := g.focus.calleeName?
            if g.kind == .memberExpression && (name == some "code" || name == some "status") then
              (object.callArguments.head?.bind statusCode?).map fun code =>
                ⟨code, payload, .replyCode, call.line⟩
            else none
        | _ => none

/-- The message of an error's payload: the `message` of an object, or of what a name is bound to,
followed at most `n` steps.  At the `top`, a bare string is not a message. -/
def messageAt (top : Bool) : Nat → Cursor → Option String
  | 0, _ => none
  | n + 1, c =>
    let node := c.unwrapped
    match node.kind with
    | .identifier | .shorthandPropertyIdentifier =>
      match node.binding? node.text with
      | some (.variable d) => (d.role? .value).bind fun v => messageAt false n v
      | _ => none
    | .object =>
      (node.objectProperty? "message").bind fun v =>
        v.focus.stringValue?.or (messageAt false n v)
    | .string | .templateString => if top then none else node.focus.stringValue?
    | _ => none

/-- The message of an error's payload. -/
def message? (c : Cursor) : Option String := messageAt true 5 c

/-- The values that a handler returns, each with the node whose line counts: the operand of a
`return`, or the body of a concise function. -/
def returnedValues (handler : Cursor) : List (Cursor × Cursor) :=
  match handler.role? .body with
  | none => []
  | some body =>
    if body.kind == .statementBlock then
      (body.ownNodes.filter fun c => c.kind == .returnStatement).filterMap fun r =>
        r.firstPart?.map fun e => (r, e)
    else [(body, body)]

/-- The calls that a handler makes itself. -/
def ownCalls (handler : Cursor) : List Cursor :=
  match handler.role? .body with
  | none => []
  | some body => body.ownNodes.filter fun c => c.kind == .callExpression

end Cursor

/-- The message that the fields of a payload give. -/
def messageOfType (fields : List Param) : String :=
  match fields.find? fun p => p.name == "message" with
  | some p =>
    match p.type.toList with
    | '\'' :: rest => if rest.getLast? == some '\'' then String.ofList rest.dropLast else p.type
    | _ => p.type
  | none => "string"

/-- Reads the responses of handlers in one file. -/
structure ResponseReader where
  typer : Typer
  renderer : Renderer

namespace ResponseReader

/-- The fields and the type's name of a payload. -/
def payload (r : ResponseReader) (c : Option Cursor) : Typing (List Param × Option String) :=
  match c with
  | some c => do
    let s ← r.typer.inferResponse c
    return (r.renderer.properties s, s.name?)
  | none => return ([], none)

/-- The successes among the returned values; what is returned through the reply counts elsewhere. -/
def returned (r : ResponseReader) (reply : String) (values : List (Cursor × Cursor)) :
    Typing (List Success) :=
  (values.filter fun v => !v.2.focus.isReply reply).mapM fun (at_, value) => do
    let (dataType, typeName) ← r.payload (some value)
    return ⟨200, dataType, typeName, .returned, at_.line⟩

/-- The response of a call that sends a value. -/
def sent (r : ResponseReader) (s : SendCall) : Typing (Success ⊕ Failure) := do
  let (dataType, typeName) ← r.payload s.payload
  if 400 ≤ s.code then
    let message := (s.payload.bind Cursor.message?).getD (messageOfType dataType)
    return .inr ⟨s.code, message,
      dataType.filter fun p => p.name != "error" && p.name != "message", s.line⟩
  else return .inl ⟨s.code, dataType, typeName, s.source, s.line⟩

/-- All responses of a handler, each code on a line once. -/
def responses (r : ResponseReader) (handler : Cursor) : Typing Responses := do
  let reply := handler.replyName
  let returned ← r.returned reply handler.returnedValues
  let sends ← (handler.ownCalls.filterMap fun c => c.sendCall? reply).mapM r.sent
  let successes := returned ++ sends.filterMap Sum.getLeft?
  let failures := sends.filterMap Sum.getRight?
  return Responses.distinct ⟨successes, failures⟩

end ResponseReader

end RouteInventory
