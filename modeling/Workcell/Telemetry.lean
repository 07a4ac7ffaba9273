namespace Workcell

structure TelemetryRequest where
  service : String
  console : Bool
  endpoint : Option String
  deriving DecidableEq, Repr

structure TelemetryPackages where
  sdk : Bool
  exporter : Bool
  deriving DecidableEq, Repr

/-- Spans go to the console one by one, and to a collector in batches. -/
inductive SpanProcessor
  | console
  | collector (endpoint : String)
  deriving DecidableEq, Repr

structure TracerProvider where
  resource : List (String × String)
  processors : List SpanProcessor
  deriving DecidableEq, Repr

inductive TelemetryError
  | noSdk
  | noExporter
  deriving DecidableEq, Repr

namespace TelemetryError

def remedy : String := "Install it with: pip install buildrunner[otel]"

def message : TelemetryError → String
  | noSdk => s!"opentelemetry-sdk is required for configure_telemetry(). {remedy}"
  | noExporter => s!"opentelemetry-exporter-otlp is required for OTLP export. {remedy}"

end TelemetryError

namespace TelemetryRequest

def default : TelemetryRequest := ⟨"buildrunner", true, none⟩

def collector? (r : TelemetryRequest) : Option String := r.endpoint.filter (· ≠ "")

def configure (r : TelemetryRequest) (p : TelemetryPackages) : Except TelemetryError TracerProvider :=
  if !p.sdk then .error .noSdk
  else if r.collector?.isSome && !p.exporter then .error .noExporter
  else .ok ⟨[("service.name", r.service)],
    (if r.console then [.console] else []) ++ r.collector?.toList.map .collector⟩

end TelemetryRequest

end Workcell
