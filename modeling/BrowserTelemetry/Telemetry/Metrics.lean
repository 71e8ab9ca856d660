import BrowserTelemetry.Calendar.Moment
import BrowserTelemetry.Log
import BrowserTelemetry.SortedMap

/-!
# Metrics

What is counted while a browser runs: events, engines that were killed, and how old they were. The
counts are kept until they are taken for an upload, and then start again from nothing.
-/

namespace BrowserTelemetry

set_option autoImplicit false

/-- Something that is counted. -/
inductive Event where
  /-- A page that is not private has been loaded. -/
  | uriOpened
  | downloadAdded
  | haveOpenTabs
  | haveNoOpenTabs
  deriving DecidableEq, Repr, Inhabited

namespace Event

/-- All events, in their order. -/
def all : List Event := [.uriOpened, .downloadAdded, .haveOpenTabs, .haveNoOpenTabs]

/-- The name of an event. -/
def name : Event → String
  | .uriOpened => "uri_opened"
  | .downloadAdded => "download_added"
  | .haveOpenTabs => "have_open_tabs"
  | .haveNoOpenTabs => "have_no_open_tabs"

/-- The place of an event in the order. -/
def rank : Event → Nat
  | .uriOpened => 0
  | .downloadAdded => 1
  | .haveOpenTabs => 2
  | .haveNoOpenTabs => 3

instance : LT Event := ⟨fun a b => a.rank < b.rank⟩

instance : DecidableLT Event := fun a b => inferInstanceAs (Decidable (a.rank < b.rank))

instance : KeyOrder Event where
  irrefl a := Nat.lt_irrefl a.rank
  trans := Nat.lt_trans
  trichotomy a b := by
    cases a <;> cases b <;> decide

end Event

/-- Was the tab of a killed engine the selected one? -/
inductive KillLabel where
  | foreground
  | background
  deriving DecidableEq, Repr, Inhabited

namespace KillLabel

/-- Both labels, in their order. -/
def all : List KillLabel := [.foreground, .background]

/-- The name of a label. -/
def name : KillLabel → String
  | .foreground => "foreground"
  | .background => "background"

/-- The label of a tab. -/
def ofSelected (selected : Bool) : KillLabel := if selected then .foreground else .background

/-- The place of a label in the order. -/
def rank : KillLabel → Nat
  | .foreground => 0
  | .background => 1

instance : LT KillLabel := ⟨fun a b => a.rank < b.rank⟩

instance : DecidableLT KillLabel := fun a b => inferInstanceAs (Decidable (a.rank < b.rank))

instance : KeyOrder KillLabel where
  irrefl a := Nat.lt_irrefl a.rank
  trans := Nat.lt_trans
  trichotomy a b := by
    cases a <;> cases b <;> decide

end KillLabel

/-! ## Saturating arithmetic -/

/-- A whole number brought into the range of 64 bits. -/
def clamp (i : Int) : Int64 :=
  Int64.ofInt (max Int64.minValue.toInt (min Int64.maxValue.toInt i))

/-- The sum, brought into range. -/
def addClamped (a b : Int64) : Int64 := clamp (a.toInt + b.toInt)

/-- The difference, brought into range. -/
def subClamped (a b : Int64) : Int64 := clamp (a.toInt - b.toInt)

/-- The product, brought into range. -/
def mulClamped (a b : Int64) : Int64 := clamp (a.toInt * b.toInt)

theorem toInt_clamp (i : Int) :
    (clamp i).toInt = max Int64.minValue.toInt (min Int64.maxValue.toInt i) := by
  have hmin := Int64.toInt_minValue
  have hmax := Int64.toInt_maxValue
  exact Int64.toInt_ofInt_of_le (by omega) (by omega)

/-- A number that is in range already stays as it is. -/
theorem toInt_clamp_of_mem {i : Int} (hmin : Int64.minValue.toInt ≤ i)
    (hmax : i ≤ Int64.maxValue.toInt) : (clamp i).toInt = i := by
  rw [toInt_clamp]
  omega

/-! ## Distributions and metrics -/

/-- Samples in nanoseconds and their running sum. -/
structure TimingDistribution where
  samples : List Int64
  sum : Int64
  deriving DecidableEq, Repr, Inhabited

namespace TimingDistribution

/-- No samples. -/
def empty : TimingDistribution := ⟨[], 0⟩

/-- One more sample. -/
def accumulate (t : TimingDistribution) (nanos : Int64) : TimingDistribution :=
  ⟨t.samples ++ [nanos], addClamped t.sum nanos⟩

/-- The number of samples. -/
def count (t : TimingDistribution) : Nat := t.samples.length

end TimingDistribution

/-- All counts. -/
structure Metrics where
  events : SortedMap Event Nat
  tabKills : SortedMap KillLabel Nat
  foregroundAge : TimingDistribution
  backgroundAge : TimingDistribution
  /-- When the counts were handed out; none as long as they are being kept. -/
  takenAt : Option Moment
  deriving DecidableEq, Inhabited

namespace Metrics

/-- Nothing counted. -/
def empty : Metrics := ⟨.empty, .empty, .empty, .empty, none⟩

/-- How often an event was counted. -/
def eventCount (m : Metrics) (e : Event) : Nat := (m.events.get? e).getD 0

/-- How often an engine was killed under a label. -/
def killCount (m : Metrics) (l : KillLabel) : Nat := (m.tabKills.get? l).getD 0

/-- The ages under a label. -/
def ages (m : Metrics) : KillLabel → TimingDistribution
  | .foreground => m.foregroundAge
  | .background => m.backgroundAge

/-- Count an event. -/
def countEvent (m : Metrics) (e : Event) : Metrics :=
  { m with events := m.events.insert e (m.eventCount e + 1) }

/-- Count an event, with the log. -/
def track (m : Metrics) (e : Event) : Logged Metrics := do
  Logged.log .debug "Tracking event" [("event", .string e.name)]
  return m.countEvent e

/-- Count a killed engine. -/
def recordKill (m : Metrics) (l : KillLabel) : Metrics :=
  { m with tabKills := m.tabKills.insert l (m.killCount l + 1) }

/-- Record how old a killed engine was, in nanoseconds. -/
def recordAge (m : Metrics) (l : KillLabel) (nanos : Int64) : Metrics :=
  match l with
  | .foreground => { m with foregroundAge := m.foregroundAge.accumulate nanos }
  | .background => { m with backgroundAge := m.backgroundAge.accumulate nanos }

theorem eventCount_countEvent (m : Metrics) (e e' : Event) :
    (m.countEvent e).eventCount e' = m.eventCount e' + if e = e' then 1 else 0 := by
  unfold countEvent eventCount
  by_cases h : e = e'
  · subst h
    simp
  · simp [SortedMap.get?_insert_of_ne _ _ h, h]

theorem eventCount_countEvent_self (m : Metrics) (e : Event) :
    (m.countEvent e).eventCount e = m.eventCount e + 1 := by
  rw [eventCount_countEvent, if_pos rfl]

theorem eventCount_countEvent_of_ne (m : Metrics) {e e' : Event} (h : e' ≠ e) :
    (m.countEvent e).eventCount e' = m.eventCount e' := by
  rw [eventCount_countEvent, if_neg h.symm, Nat.add_zero]

theorem killCount_countEvent (m : Metrics) (e : Event) (l : KillLabel) :
    (m.countEvent e).killCount l = m.killCount l := rfl

theorem ages_countEvent (m : Metrics) (e : Event) (l : KillLabel) :
    (m.countEvent e).ages l = m.ages l := by
  cases l <;> rfl

theorem killCount_recordKill (m : Metrics) (label l : KillLabel) :
    (m.recordKill label).killCount l = m.killCount l + if label = l then 1 else 0 := by
  unfold recordKill killCount
  by_cases h : label = l
  · subst h
    simp
  · simp [SortedMap.get?_insert_of_ne _ _ h, h]

theorem killCount_recordAge (m : Metrics) (label : KillLabel) (nanos : Int64) (l : KillLabel) :
    (m.recordAge label nanos).killCount l = m.killCount l := by
  cases label <;> rfl

theorem ages_recordKill (m : Metrics) (label l : KillLabel) :
    (m.recordKill label).ages l = m.ages l := by
  cases l <;> rfl

theorem ages_recordAge (m : Metrics) (label : KillLabel) (nanos : Int64) (l : KillLabel) :
    (m.recordAge label nanos).ages l =
      if label = l then (m.ages l).accumulate nanos else m.ages l := by
  cases label <;> cases l <;> rfl

theorem samples_recordAge (m : Metrics) (label : KillLabel) (nanos : Int64) (l : KillLabel) :
    ((m.recordAge label nanos).ages l).samples =
      (m.ages l).samples ++ if label = l then [nanos] else [] := by
  rw [ages_recordAge]
  split
  · rfl
  · exact (List.append_nil _).symm

/-- A copy of the counts, to be handed out. -/
def snapshot (m : Metrics) (now : Moment) : Metrics := { m with takenAt := some now }

/-- The counts for an upload, and what is kept after it. -/
def take (m : Metrics) (now : Moment) : Metrics × Metrics := (m.snapshot now, empty)

end Metrics

end BrowserTelemetry
