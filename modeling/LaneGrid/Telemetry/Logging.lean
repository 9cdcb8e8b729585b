import LaneGrid.Settings.Environment
import LaneGrid.Telemetry.Directive

namespace LaneGrid

inductive LogFormat where
  | compact | pretty | json
  deriving DecidableEq, Repr

namespace LogFormat

def title : LogFormat → String
  | compact => "Compact" | pretty => "Pretty" | json => "Json"

def ofName? : String → Option LogFormat
  | "compact" => some compact
  | "pretty" => some pretty
  | "json" => some json
  | _ => none

end LogFormat

inductive SpanMoments where
  | none | close
  deriving DecidableEq, Repr

def SpanMoments.description : SpanMoments → String
  | none => "FmtSpan::NONE"
  | close => "FmtSpan::CLOSE"

structure LogSettings where
  directives : Option String
  /-- The filter where no directives are given. -/
  defaultDirective : String
  includeTargets : Bool
  ansi : Bool
  moments : SpanMoments
  format : LogFormat
  measure : Bool
  threshold : Option Nat
  deriving DecidableEq, Repr

namespace LogSettings

def interactive : LogSettings where
  directives := none
  defaultDirective := "info"
  includeTargets := true
  ansi := true
  moments := .none
  format := .pretty
  measure := true
  threshold := none

def collected : LogSettings :=
  { interactive with ansi := false, format := .json, measure := false }

def detailed : LogSettings :=
  { interactive with
    directives := some "polyacc_backends=debug,polyacc_tracing=debug,info"
    ansi := false
    moments := .close
    format := .json }

def preset (name : String) : LogSettings :=
  match Text.lower name with
  | "ci" => collected
  | "performance" => detailed
  | _ => interactive

/-- Structured output has no colours. -/
def withFormat (s : LogSettings) (f : LogFormat) : LogSettings :=
  { s with format := f, ansi := s.ansi && f ≠ .json }

def isYes (text : String) : Bool :=
  ["true", "1", "yes"].contains (Text.lower (Text.trim text))

def ofEnvironment (env : Environment) : LogSettings :=
  let s := preset ((env.lookup "POLYACC_TRACING_PROFILE").getD "")
  let s := match (env.lookup "POLYACC_TRACING_DIRECTIVES").filter (Text.trim · ≠ "") with
    | some text => { s with directives := some text }
    | none => s
  let format := do LogFormat.ofName? (Text.lower (Text.trim (← env.lookup "POLYACC_TRACING_FORMAT")))
  let s := match format with
    | some f => s.withFormat f
    | none => s
  let s := match env.lookup "POLYACC_PERF_TRACING" with
    | some text => { s with measure := isYes text }
    | none => s
  match do Text.word? (Text.trim (← env.lookup "POLYACC_PERF_THRESHOLD_US")) with
  | some micros => { s with threshold := some micros }
  | none => s

/-- Whether a filter can be made of the directives. Empty ones count for nothing, and where none
are given there is always a filter. -/
def isFilter (s : LogSettings) : Bool :=
  s.directives.all fun text =>
    (text.toList.splitOn ',').all fun d => d.isEmpty || Directive.isValid d

end LogSettings

end LaneGrid
