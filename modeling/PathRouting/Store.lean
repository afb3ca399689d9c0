import PathRouting.Files
import PathRouting.Journal
import PathRouting.Json.Writer
import PathRouting.StoredTable
import PathRouting.Text.Quoted

/-! Where tables are kept: in memory or in a file. The host holds what lies outside
of a router: the clock, the memory cell, the files, and the journal. -/

namespace PathRouting

/-- What lies outside of a router. -/
structure Host where
  now : Nat := 0
  /-- The table kept in memory. -/
  cell : Option StoredTable := none
  files : Files := Files.empty
  journal : Journal := {}

namespace Host

def report (host : Host) (report : Report) : Host :=
  { host with journal := host.journal.add report }

def log (host : Host) (event : Event) : Host := host.report (.event event)

def count (host : Host) (series : Series) : Host := host.report (.count series)

def gauge (host : Host) (series : Series) (value : Nat) : Host := host.report (.gauge series value)

end Host

/-- Why a store cannot be used. -/
inductive CacheError where
  | unwritable
  /-- The text is no kept table. -/
  | unreadable
  /-- The value is no table that can be rebuilt. -/
  | malformed
  deriving DecidableEq, Repr

/-- A place for one table. -/
inductive Store where
  /-- The memory cell of the host. -/
  | memory
  /-- A JSON file. -/
  | file (path : String)
  deriving DecidableEq, Repr

namespace Store

/-- What is kept. A missing file holds nothing; a directory cannot be read. -/
def content (store : Store) (host : Host) : Except CacheError (Option StoredTable) :=
  match store with
  | memory => .ok host.cell
  | file path =>
    match host.files.get? path with
    | none => .ok none
    | some .directory => .error .unreadable
    | some (.text text) =>
      match StoredTable.read? text with
      | some stored => .ok (some stored)
      | none => .error .unreadable

def fileEvent (level : Level) (message path : String) : Event :=
  { level, area := .store, message, fields := [("path", Text.quotedPath path)] }

/-- Reads what is kept and reports the use of a file. -/
def load (store : Store) (host : Host) : Except CacheError (Option StoredTable) × Host :=
  let found := store.content host
  match store, found with
  | file path, .ok (some _) => (found, host.log (fileEvent .debug "Loaded route cache file" path))
  | _, _ => (found, host)

/-- Keeps a table in place of the one before. -/
def save (store : Store) (stored : StoredTable) (host : Host) : Except CacheError Unit × Host :=
  match store with
  | memory => (.ok (), { host with cell := some stored })
  | file path =>
    match host.files.write? path stored.toJson.compact with
    | none => (.error .unwritable, host)
    | some files =>
      (.ok (), { host with files := files }.log (fileEvent .info "Saved route cache file" path))

end Store

end PathRouting
