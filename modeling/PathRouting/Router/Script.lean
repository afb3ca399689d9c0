import PathRouting.Router

/-! Scripts for routers. A command is one use of a router, and a group holds the
commands that run under its stem. A group ends at its first command that fails,
and the failure is that of the group; outside of groups a script goes on. -/

namespace PathRouting

/-- One use of a router. -/
inductive Command where
  | register (methods : List String) (template : String) (handler : Handler)
  | registerFallback (method : String) (handler : Handler)
  /-- Runs commands with a further stem in front of their templates. -/
  | group (stem : String) (body : List Command)
  | loadCache
  | setCacheEnabled (enabled : Bool)
  | finish
  | dispatch (method path : String) (wantAllowed : Bool)
  /-- Begins anew with a router that has these aliases and uses the same store. -/
  | restart (aliases : AliasTable)
  /-- Looks at the service as it is. -/
  | look
  deriving Inhabited

/-- What a command gives back. -/
inductive Answer where
  | done
  | refused (error : RouteError)
  /-- Whether the cache gave a table. -/
  | loaded (hit : Bool)
  | table (table : Table)
  | outcome (outcome : Outcome)
  /-- The error that ended a group if there was one, the answers up to it, and the
  stem that is in place after the group. -/
  | group (failure : Option RouteError) (answers : List Answer) (stem : String)
  | seen (service : Service)

namespace Answer

def error? : Answer → Option RouteError
  | refused error => some error
  | group failure .. => failure
  | _ => none

def ofRegistration : Except RouteError Unit → Answer
  | .ok _ => done
  | .error error => refused error

def ofLoading : Except RouteError Bool → Answer
  | .ok hit => loaded hit
  | .error error => refused error

end Answer

/-- A router without routes that uses the same store. -/
def Router.restart (router : Router) (aliases : AliasTable) : Router :=
  { aliases, cache := router.cache.map fun cache => { cache with enabled := true } }

namespace Service

mutual

def perform (service : Service) : Command → Answer × Service
  | .register methods template handler =>
    let (result, after) := service.addRoute methods template handler
    (.ofRegistration result, after)
  | .registerFallback method handler =>
    let (result, after) := service.addFallback method handler
    (.ofRegistration result, after)
  | .group stem body =>
    let ((answers, failure), after) := service.group stem fun inner => inner.performUntilError body
    (.group failure answers after.router.stem, after)
  | .loadCache =>
    let (result, after) := service.loadCache
    (.ofLoading result, after)
  | .setCacheEnabled enabled =>
    (.done, { service with router := service.router.setCacheEnabled enabled })
  | .finish =>
    let (table, after) := service.finish
    (.table table, after)
  | .dispatch method path wantAllowed =>
    let (outcome, after) := service.dispatch method path wantAllowed
    (.outcome outcome, after)
  | .restart aliases => (.done, { service with router := service.router.restart aliases })
  | .look => (.seen service, service)

/-- Carries out commands up to the first that fails. -/
def performUntilError (service : Service) :
    List Command → (List Answer × Option RouteError) × Service
  | [] => (([], none), service)
  | command :: rest =>
    let (answer, after) := service.perform command
    match answer.error? with
    | some error => (([answer], some error), after)
    | none =>
      let ((answers, failure), final) := after.performUntilError rest
      ((answer :: answers, failure), final)

end

/-- Carries out all commands, also after one that fails. -/
def performAll (service : Service) : List Command → List Answer × Service
  | [] => ([], service)
  | command :: rest =>
    let (answer, after) := service.perform command
    let (answers, final) := after.performAll rest
    (answer :: answers, final)

end Service

end PathRouting
