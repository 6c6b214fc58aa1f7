import EdgeRouting.CacheKey.Compose
import EdgeRouting.Hook.Resolution
import EdgeRouting.Hook.Response

/-!
# Bundles

A bundle is all that both hooks and the cache run on. It is built from a configuration, or not at
all: the first rule that does not compile decides, redirects before rewrites before headers.
-/

namespace EdgeRouting

structure Bundle where
  version : Nat
  request : RequestHook
  response : ResponseHook
  cachePolicy : CacheDescriptor
  deriving DecidableEq

namespace Bundle

def currentVersion : Nat := 1

end Bundle

def RuleEntry.compile (entry : RuleEntry) : Except CompileError Rule :=
  Rule.compile entry.source entry.destination

def RequestHook.compile (config : Config) : Except CompileError RequestHook := do
  return {
    redirects := ← config.redirects.mapM RuleEntry.compile
    rewrites := ← config.rewrites.mapM RuleEntry.compile
    spaFallback := config.defaults.spaFallback }

def ResponseHook.compile (config : Config) : Except CompileError ResponseHook := do
  return { rules := ← HeaderRule.compileAll config.defaults config.headers }

structure Build where
  bundle : Bundle
  diagnostics : List Diagnostic
  deriving DecidableEq

def Config.build (config : Config) : Except CompileError Build := do
  let request ← RequestHook.compile config
  let response ← ResponseHook.compile config
  return {
    bundle := {
      version := Bundle.currentVersion
      request, response
      cachePolicy := config.cachePolicy.descriptor }
    diagnostics := config.cachePolicy.diagnostics }

def Build.notices (build : Build) : List Notice :=
  build.diagnostics.map (fun d => .policyDiagnostic d.message)
    ++ [.rulesCompiled build.bundle.request.redirects.length build.bundle.request.rewrites.length
      build.bundle.response.rules.length build.diagnostics.length]

end EdgeRouting
