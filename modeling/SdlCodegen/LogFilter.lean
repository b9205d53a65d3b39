import SdlCodegen.Log
import SdlCodegen.Text.Cut

/-!
# Log filters

A filter is a list of directives. Each sets the least important level that is shown for components
with a given beginning; of those that apply to a component the longest decides. Without a directive
that applies nothing is shown. A setting that cannot be read counts as `warn`, and so does one with
a directive on spans or fields, which are not read.
-/

namespace SdlCodegen

/-- A rule of a filter: without a level it hides everything. -/
structure LogDirective where
  component : String
  level : Option Level
  deriving DecidableEq, Repr

namespace LogDirective

/-- The level that a word or digit stands for, in any letter case; `off` is no level. -/
def level? (word : List Char) : Option (Option Level) :=
  match String.ofList (word.map Char.toLower) with
  | "off" | "0" => some none
  | "error" | "1" => some (some .error)
  | "warn" | "2" => some (some .warn)
  | "info" | "3" => some (some .info)
  | "debug" | "4" => some (some .debug)
  | "trace" | "5" => some (some .trace)
  | _ => none

/-- Whether a character may begin a directive. -/
def isStart (c : Char) : Bool :=
  c.isAlphanum || c == '-' || c == ':' || c == '_'

/-- Read a directive: a level, a component, or both with an equals sign between. -/
def parse? (text : List Char) : Option LogDirective :=
  if !(text.head?.any isStart) || text.contains '[' then none
  else
    match text.dropWhile (· != '=') with
    | [] =>
      match level? text with
      | some level => some ⟨"", level⟩
      | none => some ⟨String.ofList text, some .trace⟩
    | _ :: word =>
      let component := String.ofList (text.takeWhile (· != '='))
      if word.isEmpty then some ⟨component, some .trace⟩
      else (level? word).map fun level => ⟨component, level⟩

/-- Whether a directive applies to a component. -/
def applies (directive : LogDirective) (component : String) : Bool :=
  directive.component.toList.isPrefixOf component.toList

end LogDirective

/-- A list of directives. -/
structure LogFilter where
  directives : List LogDirective
  deriving DecidableEq, Repr

namespace LogFilter

/-- The filter that shows warnings and errors. -/
def standard : LogFilter := ⟨[⟨"", some .warn⟩]⟩

/-- Read a setting: directives with commas between. An empty setting shows errors only. -/
def parse? (setting : String) : Option LogFilter := do
  let parts := (Text.pieces ',' setting.toList).filter (!·.isEmpty)
  let directives ← parts.mapM LogDirective.parse?
  return ⟨if directives.isEmpty then [⟨"", some .error⟩] else directives⟩

/-- The filter for a setting, which may be absent. -/
def ofSetting : Option String → LogFilter
  | none => standard
  | some setting => (parse? setting).getD standard

/-- The directive that decides on a component: the longest that applies, the last of equal ones. -/
def deciding? (filter : LogFilter) (component : String) : Option LogDirective :=
  filter.directives.foldl (fun best directive =>
    if directive.applies component &&
        best.all fun other => other.component.length ≤ directive.component.length then
      some directive
    else best) none

/-- Whether an event is shown. -/
def shows (filter : LogFilter) (event : Event) : Bool :=
  match (filter.deciding? event.component).bind (·.level) with
  | some level => event.level.rank ≤ level.rank
  | none => false

end LogFilter

end SdlCodegen
