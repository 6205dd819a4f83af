import ClientBoundary.CodeTree

/-!
# Client-only features

Three things run only in the browser: calls of hooks, references to browser globals and event
handler attributes. Each is found by its name at one node of the tree. A hook is called `use` and a
handler `on`, followed by a character that is its own upper case, which digits and ideographs are
too.

Source: SPEC_FULL.md, §4.1, the three rules, and §4.5, `is_hook`, `is_event_handler` and
`is_browser_global`.

## Main declarations

* `isHook`, `isEventHandler`, `isBrowserGlobal`: the names.
* `Feature`, `Feature.detect`: the feature that a node itself introduces.
-/

namespace ClientBoundary

open Text

/-- Whether a name is that of a hook. -/
def isHook (name : String) : Bool :=
  match name.toList with
  | 'u' :: 's' :: 'e' :: c :: _ => isOwnUpper c
  | _ => false

/-- Whether a name is that of an event handler. -/
def isEventHandler (name : String) : Bool :=
  match name.toList with
  | 'o' :: 'n' :: c :: _ => isOwnUpper c
  | _ => false

/-- The globals that only a browser has. -/
def browserGlobals : List String :=
  ["window", "document", "localStorage", "sessionStorage", "navigator", "location", "history",
   "alert", "confirm", "prompt"]

/-- Whether a name is that of a browser global. -/
def isBrowserGlobal (name : String) : Bool :=
  browserGlobals.contains name

/-- The kinds of client-only features. -/
inductive FeatureKind where
  | hook
  | browserGlobal
  | eventHandler
  deriving DecidableEq, Repr

/-- The name of a kind of feature. -/
def FeatureKind.label : FeatureKind → String
  | .hook => "hook"
  | .browserGlobal => "browser-global"
  | .eventHandler => "event-handler"

/-- A client-only feature: the node that introduces it, its kind and its name. -/
structure Feature where
  node : Node
  kind : FeatureKind
  name : String
  deriving DecidableEq, Repr

namespace Feature

/-- The hook that a call calls, by its own name or as a property. -/
def hookName? (call : CodeTree) : Option String := do
  let callee ← call.childInField? "function"
  match callee.label.kind with
  | .identifier => callee.label.text.filter isHook
  | .member =>
    let property ← callee.childInField? "property"
    if property.label.kind = .propertyName then property.label.text.filter isHook else none
  | _ => none

/-- The event handler that an attribute sets. -/
def handlerName? (attr : CodeTree) : Option String := do
  let name ← attr.firstNamedChild?
  if name.label.kind = .propertyName then name.label.text.filter isEventHandler else none

/-- The feature that a node itself introduces. -/
def detect (t : CodeTree) : Option Feature :=
  match t.label.kind with
  | .call => (hookName? t).map (⟨t.label, .hook, ·⟩)
  | .identifier => (t.label.text.filter isBrowserGlobal).map (⟨t.label, .browserGlobal, ·⟩)
  | .jsxAttribute => (handlerName? t).map (⟨t.label, .eventHandler, ·⟩)
  | _ => none

/-- Whether a node itself introduces a feature. -/
def isAt (t : CodeTree) : Bool :=
  (detect t).isSome

end Feature

end ClientBoundary
