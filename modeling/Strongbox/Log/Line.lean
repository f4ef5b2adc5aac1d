import Strongbox.Log.Filter
import Strongbox.Text.Debug
/-! The line of an event: its level, the span around it with the span's fields, its target, its
message and its fields. The time stamp in front of a line belongs to whoever writes it. -/
namespace Strongbox.Log

def Level.label : Level → String
  | .error => "ERROR"
  | .warn => "WARN"
  | .info => "INFO"
  | .debug => "DEBUG"
  | .trace => "TRACE"

def FieldValue.render : FieldValue → String
  | quoted s => Text.debug s
  | shown s => s
  | flag true => "true"
  | flag false => "false"

def renderFields (fields : Fields) : String :=
  " ".intercalate (fields.map fun (name, value) => name ++ "=" ++ value.render)

def Span.render (s : Span) : String := s.name ++ "\x7b" ++ renderFields s.fields ++ "\x7d: "

/-- Line of an event, with its span only if the filter shows that. -/
def Filter.line (f : Filter) (e : Event) : String :=
  let span := match e.span with
    | some s => if f.showsSpan s then s.render else ""
    | none => ""
  let fields := if e.fields.isEmpty then "" else " " ++ renderFields e.fields
  e.level.label ++ " " ++ span ++ e.target ++ ": " ++ e.message ++ fields

def Filter.lines (f : Filter) (events : List Event) : List String :=
  (events.filter f.shows).map f.line

end Strongbox.Log
