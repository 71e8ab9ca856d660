import BrowserTelemetry.Calendar.Timestamp
import BrowserTelemetry.Json.Map
import BrowserTelemetry.Json.Record
import BrowserTelemetry.Telemetry.Attribution
import BrowserTelemetry.Telemetry.Metrics
import BrowserTelemetry.Telemetry.RedirectChain

/-!
# The JSON form of telemetry data
-/

namespace BrowserTelemetry

set_option autoImplicit false

instance : Named Event := ⟨Event.all, Event.name⟩

instance : Named KillLabel := ⟨KillLabel.all, KillLabel.name⟩

namespace Codec

/-- A search provider. -/
def searchProvider : Codec SearchProvider :=
  record
    (.need "name" string <| .need "search_hosts" (list string) <|
      .need "ad_servers" (list string) .none)
    (fun p => (p.name, p.searchHosts, p.adServers, ()))
    (fun (name, searchHosts, adServers, _) => ⟨name, searchHosts, adServers⟩)

/-- A redirect chain. -/
def redirectChain : Codec RedirectChain :=
  record (.need "root" string <| .need "chain" (list string) .none)
    (fun c => (c.root, c.chain, ())) (fun (root, chain, _) => ⟨root, chain⟩)

/-- A distribution of samples. -/
def timingDistribution : Codec TimingDistribution :=
  record (.need "samples" (list int64) <| .need "sum" int64 .none)
    (fun t => (t.samples, t.sum, ())) (fun (samples, sum, _) => ⟨samples, sum⟩)

/-- Metrics. -/
def metrics : Codec Metrics :=
  record
    (.need "events" (map .named count) <| .need "tab_kills" (map .named count) <|
      .need "kill_foreground_age" timingDistribution <|
      .need "kill_background_age" timingDistribution <|
      .allow "taken_at" (form Timestamp.print Timestamp.parse) .none)
    (fun m => (m.events, m.tabKills, m.foregroundAge, m.backgroundAge, m.takenAt, ()))
    (fun (events, tabKills, foregroundAge, backgroundAge, takenAt, _) =>
      ⟨events, tabKills, foregroundAge, backgroundAge, takenAt⟩)

end Codec

end BrowserTelemetry
