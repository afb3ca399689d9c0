import PathRouting.Config
import PathRouting.Router.Script

/-! Building a router from a configuration. A configuration is a script: its routes,
then its groups, then its fallbacks. A fresh table in the cache makes the script
unnecessary. -/

namespace PathRouting.Config

def RouteEntry.command (route : RouteEntry) : Command :=
  .register route.methods route.pattern route.handler

mutual

/-- The command of a group: its routes, then its inner groups. -/
def Group.command : Group → Command
  | .mk stem routes groups => .group stem (routes.map RouteEntry.command ++ groupCommands groups)

def groupCommands : List Group → List Command
  | [] => []
  | group :: rest => group.command :: groupCommands rest

end

/-- The commands of a fallback, one for each method. -/
def FallbackEntry.commands (fallback : FallbackEntry) : List Command :=
  fallback.methods.map fun method => .registerFallback method fallback.handler

/-- The commands that register what a configuration lists. -/
def script (config : Config) : List Command :=
  config.routes.map RouteEntry.command ++ groupCommands config.groups ++
    config.fallbacks.flatMap FallbackEntry.commands

def allAliases (config : Config) : AliasTable :=
  AliasTable.standard.extend config.aliases.entries

/-- The cache of a configuration, if it is in use and has a path. -/
def cache? (config : Config) : Option Cache :=
  if config.cache.enabled then
    config.cache.path.map fun path => { store := .file path, expiry := config.cache.expiry }
  else none

def register (config : Config) (service : Service) : Except RouteError Unit × Service :=
  match service.performUntilError config.script with
  | ((_, none), after) => (.ok (), after)
  | ((_, some error), after) => (.error error, after)

/-- The router of a configuration on a host. -/
def build (config : Config) (host : Host) : Except RouteError Unit × Service :=
  let service : Service := ⟨{ aliases := config.allAliases, cache := config.cache? }, host⟩
  match service.loadCache with
  | (.ok true, found) => (.ok (), found)
  | (.ok false, open_) => config.register open_
  | (.error error, after) => (.error error, after)

end PathRouting.Config
