import PathRouting.Config
import PathRouting.Text.Quoted

/-! What can be wrong with a configuration that is well formed. All problems are
listed, in the order of the configuration: logging, cache, aliases, routes, groups
with their routes before their inner groups, fallbacks. -/

namespace PathRouting.Config

/-- Something that is wrong with a configuration. -/
inductive Problem where
  /-- A route outside of groups has no pattern. -/
  | emptyPattern
  /-- A route has no handler. -/
  | emptyHandler (pattern : String)
  /-- A route or fallback has no methods. -/
  | noMethods (owner : String)
  /-- A method is neither `*` nor a word of letters. -/
  | invalidMethod (method : String)
  /-- A group has no stem and holds nothing. -/
  | emptyGroup (stem : String)
  /-- A fallback has no handler. -/
  | emptyErrorHandler
  /-- The cache is in use but has no path. -/
  | missingCachePath
  /-- The cache is in use but its tables are never fresh. -/
  | zeroCacheExpiry
  /-- An alias has white space at an end. -/
  | untrimmedAlias (key : String)
  /-- The log level has an unknown name. -/
  | invalidLogLevel (level : String)
  deriving DecidableEq, Repr

namespace Problem

def name : Problem → String
  | emptyPattern => "EmptyPattern"
  | emptyHandler _ => "EmptyHandler"
  | noMethods _ => "NoMethods"
  | invalidMethod _ => "InvalidMethod"
  | emptyGroup _ => "EmptyGroup"
  | emptyErrorHandler => "EmptyErrorHandler"
  | missingCachePath => "MissingCachePath"
  | zeroCacheExpiry => "ZeroCacheExpiry"
  | untrimmedAlias _ => "UntrimmedSugarAlias"
  | invalidLogLevel _ => "InvalidLogLevel"

/-- The text of the configuration that a problem is about. -/
def detail? : Problem → Option String
  | emptyHandler pattern => some pattern
  | noMethods owner => some owner
  | invalidMethod method => some method
  | emptyGroup stem => some stem
  | untrimmedAlias key => some key
  | invalidLogLevel level => some level
  | emptyPattern | emptyErrorHandler | missingCachePath | zeroCacheExpiry => none

def message : Problem → String
  | emptyPattern => "top-level route has an empty pattern"
  | emptyHandler pattern => "route \"" ++ pattern ++ "\" has an empty handler"
  | noMethods owner => "route \"" ++ owner ++ "\" lists no methods"
  | invalidMethod method => "invalid HTTP method \"" ++ method ++ "\""
  | emptyGroup stem => "group \"" ++ stem ++ "\" has no prefix and no routes"
  | emptyErrorHandler => "error handler is empty"
  | missingCachePath => "cache is enabled but no cache path is set"
  | zeroCacheExpiry => "cache expiry must be greater than zero"
  | untrimmedAlias key =>
    "sugar alias \"" ++ key ++ "\" has surrounding whitespace and can never match"
  | invalidLogLevel level => "unknown log level \"" ++ level ++ "\""

/-- The problem with its kind and the text that it is about. -/
def describe (problem : Problem) : String :=
  match problem.detail? with
  | some detail => problem.name ++ "(" ++ Text.quoted detail ++ ")"
  | none => problem.name

def summary (problems : List Problem) : String :=
  "Validation failed: " ++ String.intercalate ", " (problems.map message)

end Problem

def levelNames : List String := ["trace", "debug", "info", "warn", "error"]

/-- The problems of the part on logging. The letters of a level may be of either case. -/
def Logging.problems (logging : Logging) : List Problem :=
  if logging.level.toLower ∈ levelNames then [] else [.invalidLogLevel logging.level]

def CacheUse.problems (cache : CacheUse) : List Problem :=
  if !cache.enabled then []
  else
    (if cache.path.getD "" = "" then [.missingCachePath] else []) ++
      (if cache.expiry = 0 then [.zeroCacheExpiry] else [])

def aliasProblems (key : String) : List Problem :=
  if Text.trimmed key = key then [] else [.untrimmedAlias key]

/-- Whether a method may be named in a configuration. -/
def isMethod (method : String) : Bool :=
  method = "*" || (method ≠ "" && method.toList.all Text.isLetter)

def methodProblems (owner : String) (methods : List String) : List Problem :=
  (if methods.isEmpty then [.noMethods owner] else []) ++
    (methods.filter fun method => !isMethod method).map .invalidMethod

def RouteEntry.problems (route : RouteEntry) : List Problem :=
  (if route.handler = "" then [.emptyHandler route.pattern] else []) ++
    methodProblems route.pattern route.methods

def RouteEntry.outerProblems (route : RouteEntry) : List Problem :=
  (if route.pattern = "" then [.emptyPattern] else []) ++ route.problems

mutual

/-- The problems of a group and of all groups inside of it. -/
def Group.problems : Group → List Problem
  | .mk stem routes groups =>
    (if stem = "" && routes.isEmpty && groups.isEmpty then [.emptyGroup stem] else []) ++
      routes.flatMap RouteEntry.problems ++ groupProblems groups

def groupProblems : List Group → List Problem
  | [] => []
  | group :: rest => group.problems ++ groupProblems rest

end

def FallbackEntry.problems (fallback : FallbackEntry) : List Problem :=
  (if fallback.handler = "" then [.emptyErrorHandler] else []) ++
    methodProblems "error handler" fallback.methods

def problems (config : Config) : List Problem :=
  config.logging.problems ++ config.cache.problems ++ config.aliases.keys.flatMap aliasProblems ++
    config.routes.flatMap RouteEntry.outerProblems ++ groupProblems config.groups ++
    config.fallbacks.flatMap FallbackEntry.problems

end PathRouting.Config
