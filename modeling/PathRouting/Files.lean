import PathRouting.OrderedMap

/-! A tree of directories and text files. Paths are relative to its root. A path
names something only if all directories on the way exist; `.` stays where it is,
`..` goes back, and a path that ends in a slash has to name a directory. -/

namespace PathRouting

/-- What a path may name. -/
inductive Files.Entry where
  | text (content : String)
  | directory
  deriving DecidableEq, Repr

/-- Files and directories by the names on the way to them. The root is not listed. -/
structure Files where
  entries : OrderedMap (List String) Files.Entry
  deriving DecidableEq

namespace Files

def empty : Files := ⟨OrderedMap.empty⟩

instance : Inhabited Files := ⟨empty⟩

def at? (files : Files) (location : List String) : Option Entry :=
  if location.isEmpty then some .directory else files.entries.get? location

/-- The names that a path is made of; slashes and dots that stay in place are left out. -/
def components (path : String) : List String :=
  ((path.splitOn "/").filter fun part => part ≠ "" && part ≠ ".")

/-- Whether a path can only name a directory. -/
def wantsDirectory (path : String) : Bool :=
  match (path.splitOn "/").getLast? with
  | some last => last = "" || last = "." || last = ".."
  | none => false

/-- Goes one step further from a directory. Directories around the root are there only
if they have been placed, under the name `..`. -/
def step (files : Files) (location : List String) (name : String) : Option (List String) :=
  if files.at? location = some .directory then
    if name = ".." then
      if location.all (· = "..") then some (location ++ [".."]) else some location.dropLast
    else if 255 < name.utf8ByteSize then none
    else some (location ++ [name])
  else none

/-- The location that a path names. There may be nothing at its end. -/
def locate (files : Files) (path : String) : Option (List String) :=
  if path = "" || path.contains '\x00' then none
  else (components path).foldlM files.step []

def get? (files : Files) (path : String) : Option Entry :=
  match (files.locate path).bind files.at? with
  | some (.text content) => if wantsDirectory path then none else some (.text content)
  | found => found

/-- Writes a text file, replacing one that is there. There may be no directory at
the path, and the directory around it has to exist. -/
def write? (files : Files) (path content : String) : Option Files :=
  if wantsDirectory path then none
  else
    match files.locate path with
    | none => none
    | some location =>
      match files.at? location with
      | some .directory => none
      | _ => some ⟨files.entries.insert location (.text content)⟩

/-- Puts an entry at a path and directories on the way to it. -/
def place (files : Files) (path : String) (entry : Entry) : Files :=
  let names := components path
  let parents := (List.range (names.length - 1)).map fun i => names.take (i + 1)
  let withParents := parents.foldl (fun entries location =>
    if (entries.get? location).isSome then entries else entries.insert location .directory)
    files.entries
  if names.isEmpty then files else ⟨withParents.insert names entry⟩

end Files

end PathRouting
