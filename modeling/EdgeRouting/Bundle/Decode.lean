import EdgeRouting.Bundle.Basic
import EdgeRouting.Json.Decoder
import EdgeRouting.Json.Reader

/-!
# Loading bundles

Nothing compiled is taken on trust: every rule and glob is compiled again from its own text, and
what is stored has to be what it compiles to. A rule is checked once all of it has been read.
-/

namespace EdgeRouting

open Json (Value Fault once required)

abbrev Reading (α : Type) := Except (Fault CompileError) α

namespace Reading

def ofCompile {α : Type} (result : Except CompileError α) : Reading α :=
  result.mapError .rejected

def inconsistent {α : Type} (what : Inconsistency) : Reading α :=
  .error (.rejected (.inconsistent what))

def wordLimit : Nat := 18446744073709551616

def versionLimit : Nat := 4294967296

end Reading

namespace Glob

structure Draft where
  glob : Option String := none
  pattern : Option String := none

def Draft.step (d : Draft) (name : String) (value : Value) : Reading Draft :=
  if name = "glob" then do return { d with glob := ← once d.glob value.asText }
  else do return { d with pattern := ← once d.pattern value.asText }

def ofStored (text pattern : String) : Reading Glob := do
  let glob ← Reading.ofCompile (Glob.compile text)
  if glob.pattern ≠ pattern then Reading.inconsistent (.globPattern text)
  return glob

def ofJson (value : Value) : Reading Glob := do
  let d ← value.foldRecord ["glob", "pattern"] Draft.step {}
  ofStored (← required d.glob) (← required d.pattern)

end Glob

namespace HeaderRule

structure Draft where
  glob : Option Glob := none
  name : Option String := none
  value : Option String := none

def Draft.step (d : Draft) (name : String) (value : Value) : Reading Draft :=
  if name = "glob" then do return { d with glob := ← once d.glob (Glob.ofJson value) }
  else if name = "name" then do return { d with name := ← once d.name value.asText }
  else do return { d with value := ← once d.value value.asText }

def ofJson (value : Value) : Reading HeaderRule := do
  let d ← value.foldRecord ["glob", "name", "value"] Draft.step {}
  Reading.ofCompile (ofParts (← required d.glob) (← required d.name) (← required d.value))

end HeaderRule

def CaptureSlot.ofJson : Value → Reading CaptureSlot
  | .object [(some name, value)] =>
    if name = "param" then return .parameter (← value.asText)
    else if name = "wildcard" then return .wildcard (← value.asNatural Reading.wordLimit)
    else .error .malformed
  | _ => .error .malformed

def TemplatePart.ofJson : Value → Reading TemplatePart
  | .object [(some name, value)] =>
    if name = "literal" then return .literal (← value.asText)
    else if name = "capture" then return .capture (← value.asNatural Reading.wordLimit)
    else .error .malformed
  | _ => .error .malformed

namespace Rule

structure Draft where
  source : Option String := none
  destination : Option String := none
  pattern : Option String := none
  captureOrder : Option (List CaptureSlot) := none
  template : Option (List TemplatePart) := none

def Draft.step (d : Draft) (name : String) (value : Value) : Reading Draft :=
  if name = "source" then do return { d with source := ← once d.source value.asText }
  else if name = "destination" then do
    return { d with destination := ← once d.destination value.asText }
  else if name = "pattern" then do return { d with pattern := ← once d.pattern value.asText }
  else if name = "capture_order" then do
    return { d with captureOrder := ← once d.captureOrder (value.asList CaptureSlot.ofJson) }
  else do return { d with template := ← once d.template (value.asList TemplatePart.ofJson) }

def fieldNames : List String := ["source", "destination", "pattern", "capture_order", "template"]

/-- Compiles a stored rule again and compares its expression, its capture order and its template, in
this order. -/
def ofStored (source destination pattern : String) (order : List CaptureSlot)
    (template : List TemplatePart) : Reading Rule := do
  let rule ← Reading.ofCompile (Rule.compile source destination)
  if rule.pattern ≠ pattern then Reading.inconsistent (.rulePattern source)
  if rule.captureOrder ≠ order then Reading.inconsistent (.ruleCaptureOrder source)
  if rule.template ≠ template then Reading.inconsistent (.ruleTemplate source)
  return rule

def ofJson (value : Value) : Reading Rule := do
  let d ← value.foldRecord fieldNames Draft.step {}
  ofStored (← required d.source) (← required d.destination) (← required d.pattern)
    (← required d.captureOrder) (← required d.template)

end Rule

namespace RequestHook

structure Draft where
  redirects : Option (List Rule) := none
  rewrites : Option (List Rule) := none
  spaFallback : Option Bool := none

def Draft.step (d : Draft) (name : String) (value : Value) : Reading Draft :=
  if name = "redirects" then do
    return { d with redirects := ← once d.redirects (value.asList Rule.ofJson) }
  else if name = "rewrites" then do
    return { d with rewrites := ← once d.rewrites (value.asList Rule.ofJson) }
  else do return { d with spaFallback := ← once d.spaFallback value.asBool }

def ofJson (value : Value) : Reading RequestHook := do
  let d ← value.foldRecord ["redirects", "rewrites", "spa_fallback"] Draft.step {}
  return { redirects := ← required d.redirects, rewrites := ← required d.rewrites,
           spaFallback := ← required d.spaFallback }

end RequestHook

def ResponseHook.ofJson (value : Value) : Reading ResponseHook := do
  return { rules := ← value.asList HeaderRule.ofJson }

structure SelectorDraft where
  behavior : Option String := none
  items : Option Value := none

namespace SelectorDraft

def step (d : SelectorDraft) (name : String) (value : Value) : Reading SelectorDraft :=
  if name = "behavior" then do return { d with behavior := ← once d.behavior value.asTag }
  else do
    let items ← once d.items (if value.isIntact then .ok value else .error .malformed)
    return { d with items }

/-- In an array the items may not be absent. -/
def read (value : Value) : Reading SelectorDraft := do
  let d ← value.foldRecord ["behavior", "items"] step {}
  match value with
  | .array _ => let _ ← required d.items
  | _ => pure ()
  return d

/-- A selector without names has no items, or null for them. -/
def readsNone (d : SelectorDraft) : Bool :=
  match d.items with
  | none | some .null => true
  | _ => false

def names (d : SelectorDraft) : Reading (List String) := do
  (← required d.items).asList Value.asText

end SelectorDraft

def Selector.ofJson (value : Value) : Reading Selector := do
  let d ← SelectorDraft.read value
  let behavior ← required d.behavior
  if behavior = "none" then
    if d.readsNone then return .none else .error .malformed
  else if behavior = "allowList" then return .allowList (← d.names)
  else .error .malformed

def QuerySelector.ofJson (value : Value) : Reading QuerySelector := do
  let d ← SelectorDraft.read value
  let behavior ← required d.behavior
  if behavior = "none" then
    if d.readsNone then return .none else .error .malformed
  else if behavior = "allowList" then return .allowList (← d.names)
  else if behavior = "allExcept" then return .allExcept (← d.names)
  else .error .malformed

namespace CacheDescriptor

structure Draft where
  headers : Option Selector := none
  cookies : Option Selector := none
  queryStrings : Option QuerySelector := none

def Draft.step (d : Draft) (name : String) (value : Value) : Reading Draft :=
  if name = "headers" then do return { d with headers := ← once d.headers (Selector.ofJson value) }
  else if name = "cookies" then do
    return { d with cookies := ← once d.cookies (Selector.ofJson value) }
  else do return { d with queryStrings := ← once d.queryStrings (QuerySelector.ofJson value) }

def ofJson (value : Value) : Reading CacheDescriptor := do
  let d ← value.foldRecord ["headers", "cookies", "query_strings"] Draft.step {}
  return { headers := ← required d.headers, cookies := ← required d.cookies,
           queryStrings := ← required d.queryStrings }

end CacheDescriptor

namespace Bundle

structure Draft where
  version : Option Nat := none
  request : Option RequestHook := none
  response : Option ResponseHook := none
  cachePolicy : Option CacheDescriptor := none

def Draft.step (d : Draft) (name : String) (value : Value) : Reading Draft :=
  if name = "version" then do
    return { d with version := ← once d.version (value.asNatural Reading.versionLimit) }
  else if name = "request" then do
    return { d with request := ← once d.request (RequestHook.ofJson value) }
  else if name = "response" then do
    return { d with response := ← once d.response (ResponseHook.ofJson value) }
  else do return { d with cachePolicy := ← once d.cachePolicy (CacheDescriptor.ofJson value) }

def ofJson (value : Value) : Reading Bundle := do
  let d ← value.foldRecord ["version", "request", "response", "cache_policy"] Draft.step {}
  return { version := ← required d.version
           request := ← required d.request
           response := ← required d.response
           cachePolicy := ← required d.cachePolicy }

end Bundle

def Reading.ofText {α : Type} (read : Value → Reading α) (text : String) : Reading α := do
  let document := Json.Document.read text
  let value ← read document.value
  if document.isWhole then return value else .error .malformed

inductive LoadError
  | malformed
  | rejected (reason : CompileError)
  | unsupportedVersion (found : Nat)
  deriving DecidableEq, Repr

namespace LoadError

def ofFault : Fault CompileError → LoadError
  | .malformed => .malformed
  | .rejected reason => .rejected reason

def message? : LoadError → Option String
  | .malformed => none
  | .rejected reason => some reason.message
  | .unsupportedVersion found =>
    some s!"Unsupported bundle version {found} (expected {Bundle.currentVersion})"

end LoadError

/-- Loads a bundle. The version is compared last. -/
def Bundle.load (text : String) : Except LoadError Bundle := do
  let bundle ← (Reading.ofText Bundle.ofJson text).mapError LoadError.ofFault
  if bundle.version ≠ Bundle.currentVersion then throw (.unsupportedVersion bundle.version)
  return bundle

end EdgeRouting
