import SdlCodegen.Schema.Basic
import SdlCodegen.Text.Quoted

/-!
# Events of a run

What a run reports while it works, in order. An event has a level, the component it comes from and a
message with its fields. A logged computation gives its events whether it succeeds or fails.
-/

namespace SdlCodegen

/-- How important an event is, most important first. -/
inductive Level where
  | error
  | warn
  | info
  | debug
  | trace
  deriving DecidableEq, Repr

namespace Level

/-- The position of a level, counted from the most important. -/
def rank : Level → Nat
  | error => 0
  | warn => 1
  | info => 2
  | debug => 3
  | trace => 4

/-- The level in capitals. -/
def name : Level → String
  | error => "ERROR"
  | warn => "WARN"
  | info => "INFO"
  | debug => "DEBUG"
  | trace => "TRACE"

end Level

/-- Something that happened in a run. -/
inductive Event where
  | readingFile (path : String)
  | fetching (url : String)
  | loadedSources (count : Nat)
  | applyingExtension (name : String)
  | builtGraph (types : Nat)
  | classified (name : String) (kind : TypeKind)
  | skipped (name : String) (kind : BareKind)
  | noQueryRoot (queryType : String)
  | wroteOutput (path : String)
  deriving DecidableEq, Repr

namespace Event

/-- The level of an event. -/
def level : Event → Level
  | skipped .. => .warn
  | fetching _ | loadedSources _ | wroteOutput _ => .info
  | readingFile _ | applyingExtension _ | builtGraph _ | classified .. | noQueryRoot _ => .debug

/-- The component that an event comes from. -/
def component : Event → String
  | readingFile _ | fetching _ | loadedSources _ => "graphql_generator::source"
  | applyingExtension _ | builtGraph _ => "graphql_generator::schema"
  | classified .. | skipped .. | noQueryRoot _ => "graphql_generator::generator"
  | wroteOutput _ => "graphql_generator"

/-- The message of an event, followed by its fields. -/
def message : Event → String
  | readingFile path => "reading schema file path=" ++ path
  | fetching url => "fetching schema url=" ++ Text.quoted url
  | loadedSources count => "loaded schema sources count=" ++ Nat.repr count
  | applyingExtension name => "applying type extension name=" ++ name
  | builtGraph types => "built type graph types=" ++ Nat.repr types
  | classified name kind => "classified type name=" ++ name ++ " kind=" ++ kind.className
  | skipped name kind =>
    "skipping type that cannot be generated name=" ++ name ++ " kind=" ++ kind.describe
  | noQueryRoot queryType =>
    "schema has no query root, no query stubs generated query_type=" ++ queryType
  | wroteOutput path => "wrote generated code path=" ++ path

/-- The line that a log shows for an event. -/
def line (event : Event) : String :=
  event.level.name ++ " " ++ event.component ++ ": " ++ event.message

/-- The line for an event where the component is not shown. -/
def shortLine (event : Event) : String :=
  event.level.name ++ " " ++ event.message

end Event

/-- A computation that reports events and then fails or gives a value. -/
structure Logged (ε α : Type) where
  events : List Event
  result : Except ε α

namespace Logged

variable {ε ε' α β : Type}

/-- Give a value without an event. -/
def ofExcept (result : Except ε α) : Logged ε α :=
  ⟨[], result⟩

/-- Report one event. -/
def emit (event : Event) : Logged ε Unit :=
  ⟨[event], .ok ()⟩

/-- Fail without an event. -/
def fail (error : ε) : Logged ε α :=
  ⟨[], .error error⟩

/-- Go on with the value of a computation; a failure ends it and keeps the events so far. -/
def bind (first : Logged ε α) (next : α → Logged ε β) : Logged ε β :=
  match first.result with
  | .ok value => ⟨first.events ++ (next value).events, (next value).result⟩
  | .error error => ⟨first.events, .error error⟩

instance : Monad (Logged ε) where
  pure value := ⟨[], .ok value⟩
  bind := bind

/-- Say the same with another error. -/
def mapError (f : ε → ε') (computation : Logged ε α) : Logged ε' α :=
  ⟨computation.events, computation.result.mapError f⟩

/-- Sequencing obeys the monad laws, so lists of computations can be taken apart one by one. -/
instance : LawfulMonad (Logged ε) :=
  LawfulMonad.mk' (Logged ε)
    (fun computation => by
      obtain ⟨events, result⟩ := computation
      cases result with
      | ok value => exact congrArg (Logged.mk · (.ok value)) (List.append_nil events)
      | error error => rfl)
    (fun _ _ => rfl)
    (fun first next last => by
      obtain ⟨events, result⟩ := first
      cases result with
      | error error => rfl
      | ok value =>
        change bind (bind ⟨events, .ok value⟩ next) last =
          bind ⟨events, .ok value⟩ fun value => bind (next value) last
        simp only [bind]
        cases (next value).result with
        | error error => rfl
        | ok middle => simp [List.append_assoc])

/-- The result of a sequence is the sequence of the results. -/
theorem result_bind (first : Logged ε α) (next : α → Logged ε β) :
    (first >>= next).result = first.result >>= fun value => (next value).result := by
  obtain ⟨events, result⟩ := first
  cases result <;> rfl

end Logged

end SdlCodegen
