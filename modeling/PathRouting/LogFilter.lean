import PathRouting.Journal
import PathRouting.Text
import PathRouting.Unicode

/-! Which events are written to the log. A filter is a list of directives: a level
for all events, or for those from a part of the program. Of the directives that fit
an event the one with the longest target decides. -/

namespace PathRouting

/-- The level that events of a target need at least. -/
structure LogFilter.Directive where
  /-- The beginning of the targets; without it all targets are meant. -/
  target : Option String
  /-- The least level; without it nothing passes. -/
  threshold : Option Level
  deriving DecidableEq, Repr

structure LogFilter where
  directives : List LogFilter.Directive
  deriving DecidableEq, Repr

namespace LogFilter

namespace Directive

def fits (directive : Directive) (target : String) : Bool :=
  match directive.target with
  | none => true
  | some start => start.toList.isPrefixOf target.toList

/-- How narrow a directive is. -/
def weight (directive : Directive) : Nat :=
  match directive.target with
  | none => 0
  | some start => start.length + 1

def passes (directive : Directive) (level : Level) : Bool :=
  match directive.threshold with
  | none => false
  | some least => level.rank ≤ least.rank

end Directive

def deciding? (filter : LogFilter) (target : String) : Option Directive :=
  filter.directives.foldl (fun found directive =>
    if directive.fits target && found.all (fun other => other.weight ≤ directive.weight) then
      some directive
    else found) none

def passes (filter : LogFilter) (event : Event) : Bool :=
  (filter.deciding? event.area.target).any fun directive => directive.passes event.level

/-- The threshold with a given number or name; a name may be in letters of either case. -/
def threshold? (text : String) : Option (Option Level) :=
  let levels : List (Option Level) :=
    [none, some .error, some .warn, some .info, some .debug, some .trace]
  let digits :=
    match text.toList with
    | '+' :: rest => rest
    | digits => digits
  if !digits.isEmpty && digits.all Text.isDigit then
    levels[Text.number 10 digits]?
  else
    let names := ["off", "error", "warn", "info", "debug", "trace"]
    ((names.zip levels).find? fun entry => entry.1 = text.toLower).map Prod.snd

/-- The threshold after an equals sign; nothing stands for the lowest level. -/
def assigned? (text : List Char) : Option (Option Level) :=
  if text.isEmpty then some (some .trace) else threshold? (String.ofList text)

/-- Whether a directive may begin with a character. -/
def startsDirective (c : Char) : Bool :=
  c = '[' || c = '-' || c = ':' || c = '_' || Unicode.isAlphanumeric c

def endsTarget (c : Char) : Bool := c = '=' || c = '['

/-- Reads one directive. One that names a span selects no event, as there are no spans. -/
def directive? (text : List Char) : Option (List Directive) :=
  let trimmed := Text.trim text
  if !trimmed.head?.any startsDirective then none
  else
    let target := String.ofList (trimmed.takeWhile fun c => !endsTarget c)
    match trimmed.dropWhile fun c => !endsTarget c with
    | [] =>
      match threshold? (String.ofList text) with
      | some threshold => some [⟨none, threshold⟩]
      | none => some [⟨some (String.ofList text), some .trace⟩]
    | '=' :: level =>
      if trimmed ≠ text then none
      else (assigned? level).map fun threshold => [⟨some target, threshold⟩]
    | _ :: span =>
      match span.dropWhile (· ≠ ']') with
      | [']'] => some []
      | ']' :: '=' :: level => (assigned? level).map fun _ => []
      | _ => none

/-- Reads a filter: directives with commas between them. Without any, errors pass. -/
def read? (text : String) : Option LogFilter :=
  match (text.splitOn ",").filter (· ≠ "") with
  | [] => some ⟨[⟨none, some .error⟩]⟩
  | parts => (parts.mapM fun part => directive? part.toList).map fun found => ⟨found.flatten⟩

/-- The filter that lets events of this program from a named level pass. -/
def ofLevel (level : String) : LogFilter :=
  ⟨(threshold? level).toList.map fun threshold => ⟨some Area.program.target, threshold⟩⟩

end LogFilter

end PathRouting
