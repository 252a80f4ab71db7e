import RouteInventory.Project

/-!
# Plugin registrations

A call `app.register(plugin, { prefix })` makes the routes of a plugin available under a prefix.  A
plugin is imported, or is a function written in place.  The calls inside such a function belong to
it and not to the scope around it: `Cursor.scopedCalls` are the calls of one scope.
-/

namespace RouteInventory

/-- What is registered. -/
inductive Plugin where
  /-- A name imported from another file. -/
  | imported (name module : String) (target : ModuleTarget)
  /-- A function written in place. -/
  | inline (function : Cursor)
  deriving Repr, Inhabited

/-- A plugin registered under a prefix. -/
structure Registration where
  plugin : Plugin
  mount : String
  line : Nat
  deriving Repr, Inhabited

namespace Cursor

/-- Calls of a member named `register`. -/
def isRegisterCall (c : Cursor) : Bool :=
  (c.role? .function).any fun f =>
    f.kind == .memberExpression && f.focus.calleeName? == some "register"

/-- The node together with the parentheses around it. -/
def withParentheses (c : Cursor) : Cursor :=
  (c.ancestors.takeWhile fun a => a.kind == .parenthesizedExpression).getLast?.getD c

/-- Whether the node is a function written in place as the plugin of a registration. -/
def isInlinePlugin (c : Cursor) : Bool :=
  c.isFunction &&
    (let outer := c.withParentheses
    match outer.ancestors with
    | args :: call :: _ =>
      args.kind == .arguments && call.kind == .callExpression && call.isRegisterCall
        && (call.callArguments.head?.any fun a => a.path == outer.path)
    | _ => false)

/-- The calls of a scope, without those of the plugins written in place inside it. -/
def scopedCalls (scope : Cursor) : List Cursor :=
  (scope.reach fun c => c.path == scope.path || !c.isInlinePlugin).filter fun c =>
    c.kind == .callExpression

/-- The prefix that the options of a registration give, if they spell it out. -/
def mountOption? (options : Cursor) : Option String :=
  let o := options.unwrapped
  if o.kind == .object then (o.objectProperty? "prefix").bind fun v => v.focus.stringValue?
  else none

end Cursor

namespace Project

/-- The plugin that an expression refers to: a function in place, or a relative import of a name.
Packages and whole modules hold no routes. -/
def plugin? (p : Project) (file : SourceFile) (c : Cursor) : Option Plugin :=
  if c.isFunction then some (.inline c)
  else if c.kind == .identifier then
    match file.facts.import? c.text with
    | some i =>
      if i.kind != .namespace && i.isRelative then
        some (.imported c.text i.module (p.resolveModule file.path i.module))
      else none
    | none => none
  else none

/-- The registration that a call makes. -/
def registration? (p : Project) (file : SourceFile) (call : Cursor) : Option Registration :=
  if call.isRegisterCall then
    match call.callArguments with
    | first :: rest =>
      (p.plugin? file first.unwrapped).map fun plugin =>
        ⟨plugin, (rest.head?.bind Cursor.mountOption?).getD "/", call.line⟩
    | [] => none
  else none

/-- The registrations made in a scope, in source order. -/
def registrationsIn (p : Project) (file : SourceFile) (scope : Cursor) : List Registration :=
  scope.scopedCalls.filterMap (p.registration? file)

end Project

end RouteInventory
