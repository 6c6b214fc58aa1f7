import EdgeRouting.Bundle.Basic
import EdgeRouting.Text.Lowercase
import EdgeRouting.Uri.SocketAddress

/-!
# Checking a configuration

All that is wrong with a configuration: every rule that does not compile, then every setting that
does not say what it has to.
-/

namespace EdgeRouting

inductive RuleKind
  | redirects | rewrites | headers
  deriving DecidableEq, Repr

def RuleKind.text : RuleKind → String
  | .redirects => "redirects"
  | .rewrites => "rewrites"
  | .headers => "headers"

inductive Setting
  | allowHeaders
  | bindAddress
  | origin
  | requestTimeout
  | metricsAddress
  | logLevel
  deriving DecidableEq, Repr

def Setting.text : Setting → String
  | .allowHeaders => "cache_policy.allow_headers"
  | .bindAddress => "preview.bind_address"
  | .origin => "preview.origin"
  | .requestTimeout => "preview.request_timeout_secs"
  | .metricsAddress => "observability.metrics_address"
  | .logLevel => "observability.log_level"

inductive ConfigError
  | rule (kind : RuleKind) (index : Nat) (reason : CompileError)
  | setting (which : Setting) (value : String)
  deriving DecidableEq, Repr

def ConfigError.message : ConfigError → String
  | .rule kind index reason => s!"{kind.text}[{index}]: {reason.message}"
  | .setting which value => s!"invalid {which.text}: '{value}'"

def ConfigError.summary (errors : List ConfigError) : String :=
  "Validation failed: " ++ ", ".intercalate (errors.map ConfigError.message)

namespace Config

def logLevels : List String := ["trace", "debug", "info", "warn", "error"]

def ruleErrors {α β : Type} (kind : RuleKind) (compile : α → Except CompileError β)
    (entries : List α) : List ConfigError :=
  entries.zipIdx.filterMap fun (entry, index) =>
    match compile entry with
    | .ok _ => none
    | .error reason => some (.rule kind index reason)

def require (holds : Bool) (which : Setting) (value : String) : List ConfigError :=
  if holds then [] else [.setting which value]

def settingErrors (config : Config) : List ConfigError :=
  (config.cachePolicy.allowHeaders.flatMap fun name =>
      require (HeaderName.ofText? name).isSome .allowHeaders name)
    ++ require (SocketAddress.ofText? config.preview.bindAddress).isSome .bindAddress
      config.preview.bindAddress
    ++ require (Authority.ofText? config.preview.origin).isSome .origin config.preview.origin
    ++ require (config.preview.requestTimeoutSecs ≠ 0) .requestTimeout "0"
    ++ require (!config.observability.metricsEnabled
        || (SocketAddress.ofText? config.observability.metricsAddress).isSome)
      .metricsAddress config.observability.metricsAddress
    ++ require (logLevels.contains (Lowercase.text config.observability.logLevel))
      .logLevel config.observability.logLevel

def errors (config : Config) : List ConfigError :=
  ruleErrors .redirects RuleEntry.compile config.redirects
    ++ ruleErrors .rewrites RuleEntry.compile config.rewrites
    ++ ruleErrors .headers HeaderRule.ofEntry config.headers
    ++ config.settingErrors

end Config

end EdgeRouting
