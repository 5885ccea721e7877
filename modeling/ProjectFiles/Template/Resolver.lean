import ProjectFiles.Template.Token
import ProjectFiles.Value

/-!
# Scoped resolution of placeholders

A `Resolver` knows, for every bound name, the stack of the values that live
scopes have bound to it.  The innermost value is visible; releasing a scope
takes its values out of the stacks wherever they stand, so scopes may be
released in any order.

Resolving a template replaces its placeholders, and then the placeholders of
the result, until none is left.  Escapes stay as they are until the last pass.
-/

namespace ProjectFiles

/-- A value that a scope has bound to a name. -/
structure Binding where
  /-- The scope that made the binding. -/
  scope : Nat
  value : Value
  deriving Inhabited

/-- The names and values of all live scopes. -/
structure Resolver where
  /-- Whether names that differ in case are different names. -/
  caseSensitive : Bool
  /-- The number of the next scope. -/
  nextScope : Nat
  /-- The bindings of every bound name, innermost first. -/
  bindings : SortedMap String (List Binding)

/-- What releases a scope: its number and the names it has bound. -/
structure ScopeGuard where
  scope : Nat
  names : List String
  deriving DecidableEq, Repr

namespace Resolver

/-- A resolver without bindings. -/
def new (caseSensitive : Bool) : Resolver where
  caseSensitive := caseSensitive
  nextScope := 0
  bindings := .empty

/-! ## Scopes -/

/-- The form under which a name is bound. -/
def key (resolver : Resolver) (name : String) : String :=
  if resolver.caseSensitive then name else Text.lowercase name

/-- The bindings of a name, innermost first. -/
def stack (resolver : Resolver) (key : String) : List Binding :=
  (resolver.bindings.get? key).getD []

/-- Bind a value on top of a name's stack. -/
def push (resolver : Resolver) (scope : Nat) (assignment : String × Value) : Resolver :=
  { resolver with
    bindings := resolver.bindings.insert assignment.1
      (⟨scope, assignment.2⟩ :: resolver.stack assignment.1) }

/-- The first name that occurs again later in a list, where it occurs again. -/
def repeated? : List String → List String → Option String
  | _, [] => none
  | seen, name :: rest => if seen.contains name then some name else repeated? (name :: seen) rest

/-- Bind assignments whose names are in the form they are bound under. -/
def enter (resolver : Resolver) (assignments : List (String × Value)) : Resolver × ScopeGuard :=
  let scope := resolver.nextScope
  let bound := assignments.foldl (fun current assignment => current.push scope assignment) resolver
  ({ bound with nextScope := scope + 1 }, ⟨scope, assignments.map (·.1)⟩)

/-- Bind one name as a scope. -/
def declare (resolver : Resolver) (name : String) (value : Value) : Resolver × ScopeGuard :=
  resolver.enter [(resolver.key name, value)]

/-- Bind several names as one scope.  No name may occur twice; then nothing is
bound. -/
def declareAll (resolver : Resolver) (assignments : List (String × Value)) :
    Except GenerationError (Resolver × ScopeGuard) :=
  let keyed := assignments.map fun assignment => (resolver.key assignment.1, assignment.2)
  match repeated? [] (keyed.map (·.1)) with
  | some name => .error (.duplicateBinding name)
  | none => .ok (resolver.enter keyed)

/-- A stack without the innermost binding of a scope. -/
def withoutScope (scope : Nat) : List Binding → List Binding
  | [] => []
  | binding :: rest =>
      if binding.scope = scope then rest else binding :: withoutScope scope rest

/-- Take one binding of a scope out of a name's stack.  A name without bindings
is forgotten. -/
def releaseName (scope : Nat) (resolver : Resolver) (name : String) : Resolver :=
  match resolver.bindings.get? name with
  | none => resolver
  | some stack =>
      let remaining := withoutScope scope stack
      let bindings :=
        if remaining.isEmpty then resolver.bindings.erase name
        else resolver.bindings.insert name remaining
      { resolver with bindings := bindings }

/-- Take the bindings of a scope away. -/
def release (resolver : Resolver) (guard : ScopeGuard) : Resolver :=
  guard.names.foldl (releaseName guard.scope) resolver

/-! ## Looking up -/

/-- The parts of a dotted path; points without anything between them do not
count. -/
def pathSegments (path : String) : List String :=
  ((List.splitOn '.' path.toList).filter (· ≠ [])).map String.ofList

/-- The value that a dotted path leads to. -/
def lookup? (resolver : Resolver) (path : String) : Option Value := do
  match pathSegments path with
  | [] => none
  | root :: fields =>
      let binding ← (resolver.stack (resolver.key root)).head?
      binding.value.lookup? fields

/-- Whether a name has a binding. -/
def isBound (resolver : Resolver) (name : String) : Bool :=
  resolver.bindings.contains (resolver.key name)

/-- The number of live bindings, hidden ones included. -/
def activeBindings (resolver : Resolver) : Nat :=
  resolver.bindings.values.flatten.length

/-- The bound names in order. -/
def boundNames (resolver : Resolver) : List String :=
  resolver.bindings.keys

/-- The bound names as an error lists them. -/
def describeBindings (resolver : Resolver) : String :=
  match resolver.boundNames with
  | [] => "No parameters are bound"
  | names => "Bound parameters:\n- " ++ "\n- ".intercalate names

/-! ## Resolving -/

/-- The result of replacing the placeholders of a text once. -/
structure Pass where
  text : List Char
  /-- The number of placeholders replaced. -/
  replaced : Nat
  /-- Whether the text had an escape. -/
  escaped : Bool

/-- The text that stands for a placeholder of `template`. -/
def replacement (resolver : Resolver) (template : String) (fallback : Option Value)
    (path : String) : Except GenerationError String :=
  match (resolver.lookup? path).or fallback with
  | some value => value.render path
  | none => .error (.missingBinding path template resolver.describeBindings)

/-- Replace the placeholders among tokens, from left to right. -/
def replaceTokens (resolver : Resolver) (template : String) (fallback : Option Value) :
    List Template.Token → Except GenerationError Pass
  | [] => .ok ⟨[], 0, false⟩
  | .plain c :: rest => do
      let pass ← replaceTokens resolver template fallback rest
      return { pass with text := c :: pass.text }
  | .escape word :: rest => do
      let pass ← replaceTokens resolver template fallback rest
      return { pass with text := (Template.Token.escape word).source ++ pass.text, escaped := true }
  | .placeholder path :: rest => do
      let text ← resolver.replacement template fallback (String.ofList path)
      let pass ← replaceTokens resolver template fallback rest
      return { pass with text := text.toList ++ pass.text, replaced := pass.replaced + 1 }

/-- Replace the placeholders of a text once. -/
def substitute (resolver : Resolver) (template : String) (fallback : Option Value)
    (text : List Char) : Except GenerationError Pass :=
  resolver.replaceTokens template fallback (Template.tokens text)

/-- The number of passes after which a template has to be without
placeholders. -/
def passLimit : Nat := 16

/-- Replace placeholders until a pass finds none, in a limited number of passes.
`escaped` says whether an earlier pass has met an escape. -/
def resolvePasses (resolver : Resolver) (template : String) (fallback : Option Value) :
    Nat → Bool → List Char → Except GenerationError String
  | 0, _, _ => .error (.recursionLimit template)
  | passes + 1, escaped, text => do
      let pass ← resolver.substitute template fallback text
      let escaped := escaped || pass.escaped
      if pass.replaced = 0 then
        return String.ofList (if escaped then Template.unescape pass.text else pass.text)
      else
        resolvePasses resolver template fallback passes escaped pass.text

/-- Replace every placeholder of a template; each has to be bound. -/
def resolve (resolver : Resolver) (template : String) : Except GenerationError String :=
  resolver.resolvePasses template none passLimit false template.toList

/-- Replace every placeholder of a template, where `fallback` stands for all that
are not bound. -/
def resolveWithFallback (resolver : Resolver) (template : String) (fallback : Value) :
    Except GenerationError String :=
  resolver.resolvePasses template (some fallback) passLimit false template.toList

end Resolver

end ProjectFiles
