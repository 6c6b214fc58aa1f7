import EdgeRouting.Config.Check
import EdgeRouting.Toml.Document

/-!
# Reading a configuration

A configuration is a document whose known entries have the right types, and of which nothing is
wrong.
-/

namespace EdgeRouting

open Toml (Value field? required?)

def RuleEntry.ofToml? (value : Value) : Option RuleEntry := do
  let fields ← value.fields? ["source", "destination"]
  return { source := ← required? fields "source" Value.asText?
           destination := ← required? fields "destination" Value.asText? }

def HeaderEntry.ofToml? (value : Value) : Option HeaderEntry := do
  let fields ← value.fields? ["path", "name", "value"]
  return { path := ← required? fields "path" Value.asText?
           name := ← required? fields "name" Value.asText?
           value := ← required? fields "value" Value.asText? }

def CachePolicy.ofToml? (value : Value) : Option CachePolicy := do
  let fields ← value.fields?
    ["allow_headers", "allow_cookies", "allow_query_params", "deny_query_params"]
  let names (field : String) := field? fields field [] (Value.asList? Value.asText?)
  return { allowHeaders := ← names "allow_headers"
           allowCookies := ← names "allow_cookies"
           allowQueryParams := ← names "allow_query_params"
           denyQueryParams := ← names "deny_query_params" }

def Defaults.ofToml? (value : Value) : Option Defaults := do
  let absent : Defaults := {}
  let fields ← value.fields? ["security_headers", "cors", "spa_fallback"]
  return { securityHeaders :=
             ← field? fields "security_headers" absent.securityHeaders Value.asBool?
           cors := ← field? fields "cors" absent.cors Value.asBool?
           spaFallback := ← field? fields "spa_fallback" absent.spaFallback Value.asBool? }

def Preview.ofToml? (value : Value) : Option Preview := do
  let absent : Preview := {}
  let fields ← value.fields? ["bind_address", "origin", "request_timeout_secs"]
  return { bindAddress := ← field? fields "bind_address" absent.bindAddress Value.asText?
           origin := ← field? fields "origin" absent.origin Value.asText?
           requestTimeoutSecs :=
             ← field? fields "request_timeout_secs" absent.requestTimeoutSecs Value.asNatural? }

def Observability.ofToml? (value : Value) : Option Observability := do
  let absent : Observability := {}
  let fields ← value.fields? ["log_level", "metrics_enabled", "metrics_address"]
  return { logLevel := ← field? fields "log_level" absent.logLevel Value.asText?
           metricsEnabled := ← field? fields "metrics_enabled" absent.metricsEnabled Value.asBool?
           metricsAddress := ← field? fields "metrics_address" absent.metricsAddress Value.asText? }

namespace Config

def fieldNames : List String :=
  ["redirects", "rewrites", "headers", "cache_policy", "defaults", "preview", "observability"]

def ofToml? (value : Value) : Option Config := do
  let fields ← value.fields? fieldNames
  return { redirects := ← field? fields "redirects" [] (Value.asList? RuleEntry.ofToml?)
           rewrites := ← field? fields "rewrites" [] (Value.asList? RuleEntry.ofToml?)
           headers := ← field? fields "headers" [] (Value.asList? HeaderEntry.ofToml?)
           cachePolicy := ← field? fields "cache_policy" {} CachePolicy.ofToml?
           defaults := ← field? fields "defaults" {} Defaults.ofToml?
           preview := ← field? fields "preview" {} Preview.ofToml?
           observability := ← field? fields "observability" {} Observability.ofToml? }

inductive Fault
  | malformed
  | invalid (errors : List ConfigError)
  deriving DecidableEq, Repr

def checked (config : Config) : Except (List ConfigError) Config :=
  if config.errors.isEmpty then .ok config else .error config.errors

def parse (text : String) : Except Fault Config :=
  match (Toml.read? text).bind ofToml? with
  | none => .error .malformed
  | some config => config.checked.mapError .invalid

end Config

end EdgeRouting
