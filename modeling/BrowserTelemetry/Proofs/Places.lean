import Mathlib.Data.List.Basic

/-!
# The places of a history

What a startup log is told, what the tracker reports and what is a click on an ad is told from a
whole history in the same way: place by place, from the event that stands there and from those
before it.

**An event that comes at the end adds one place, and changes nothing at the others**
(`places_concat`). So whatever is gathered from the places of a history grows at its end with it.
-/

namespace BrowserTelemetry

set_option autoImplicit false

variable {ε : Type}

/-- For each place of a history the events before it, and the event there. -/
def places (h : List ε) : List (List ε × Option ε) :=
  (List.range h.length).map fun n => (h.take n, h[n]?)

theorem places_concat (h : List ε) (e : ε) : places (h ++ [e]) = places h ++ [(h, some e)] := by
  unfold places
  rw [List.length_append, List.length_singleton, List.range_succ, List.map_append]
  congr 1
  · refine List.map_congr_left fun n hn => ?_
    have hlt := List.mem_range.1 hn
    rw [List.getElem?_append_left hlt, List.take_append_of_le_length (Nat.le_of_lt hlt)]
  · rw [List.map_singleton, List.take_left, List.getElem?_concat_length]

end BrowserTelemetry
