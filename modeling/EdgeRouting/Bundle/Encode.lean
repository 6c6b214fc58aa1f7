import EdgeRouting.Bundle.Basic
import EdgeRouting.Json.Printer

/-!
# Writing bundles

Every compiled value is written as plain data, fields in a fixed order.
-/

namespace EdgeRouting

open Json (Value)

def CaptureSlot.toJson : CaptureSlot → Value
  | .parameter name => .record [("param", .text name)]
  | .wildcard index => .record [("wildcard", .natural index)]

def TemplatePart.toJson : TemplatePart → Value
  | .literal text => .record [("literal", .text text)]
  | .capture slot => .record [("capture", .natural slot)]

def Rule.toJson (rule : Rule) : Value :=
  .record [
    ("source", .text rule.source),
    ("destination", .text rule.destination),
    ("pattern", .text rule.pattern),
    ("capture_order", .array (rule.captureOrder.map CaptureSlot.toJson)),
    ("template", .array (rule.template.map TemplatePart.toJson))]

def Glob.toJson (glob : Glob) : Value :=
  .record [("glob", .text glob.text), ("pattern", .text glob.pattern)]

def HeaderRule.toJson (rule : HeaderRule) : Value :=
  .record [("glob", rule.glob.toJson), ("name", .text rule.name.text), ("value", .text rule.text)]

def RequestHook.toJson (hook : RequestHook) : Value :=
  .record [
    ("redirects", .array (hook.redirects.map Rule.toJson)),
    ("rewrites", .array (hook.rewrites.map Rule.toJson)),
    ("spa_fallback", .bool hook.spaFallback)]

def ResponseHook.toJson (hook : ResponseHook) : Value :=
  .array (hook.rules.map HeaderRule.toJson)

def selectorJson (behavior : String) (names : List String) : Value :=
  .record [("behavior", .text behavior), ("items", .array (names.map Value.text))]

def Selector.toJson : Selector → Value
  | .none => .record [("behavior", .text "none")]
  | .allowList names => selectorJson "allowList" names

def QuerySelector.toJson : QuerySelector → Value
  | .none => .record [("behavior", .text "none")]
  | .allowList names => selectorJson "allowList" names
  | .allExcept names => selectorJson "allExcept" names

def CacheDescriptor.toJson (d : CacheDescriptor) : Value :=
  .record [("headers", d.headers.toJson), ("cookies", d.cookies.toJson),
    ("query_strings", d.queryStrings.toJson)]

def Bundle.toJson (bundle : Bundle) : Value :=
  .record [
    ("version", .natural bundle.version),
    ("request", bundle.request.toJson),
    ("response", bundle.response.toJson),
    ("cache_policy", bundle.cachePolicy.toJson)]

def Bundle.write (bundle : Bundle) : String :=
  bundle.toJson.pretty

end EdgeRouting
