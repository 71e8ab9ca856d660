import BrowserTelemetry.Proofs.Places
import BrowserTelemetry.Proofs.RequestHistory
import Mathlib.Data.List.Dedup
import Mathlib.Data.List.Induction

/-!
# The tracker of redirect chains, against its reference

Requests and commits of any number of sessions reach the tracker in any order, and every commit
brings its own sink, which may fail. The reference (`expected?`, `reports`) looks at the history as
a whole and at one session at a time; it has no table, and it never looks at a sink.

Both sides move alike when an event is added at the end, so **every statement here is an induction
over the history from its end**: `chain?_run` for the chains that are open, `env_run` for the
reports that are made.

What the sinks work on is of any type, and a sink may do anything to it. Instances in which a sink
writes down what it is given say which reports are made, how often, and in which order.
-/

namespace BrowserTelemetry

set_option autoImplicit false

/-- What reaches the tracker. A commit comes with what takes its report. -/
inductive TrackerEvent (κ : Type) where
  | request (id url current : String)
  | commit (id : String) (sink : κ)

/-- A report: for which session, to which sink, of which chain. -/
structure Report (κ : Type) where
  id : String
  sink : κ
  chain : RedirectChain

namespace TrackerEvent

variable {κ : Type}

/-- The session of an event. -/
def id : TrackerEvent κ → String
  | .request id _ _ => id
  | .commit id _ => id

/-- The event without its sink. -/
def withoutSink : TrackerEvent κ → TrackerEvent Unit
  | .request id url current => .request id url current
  | .commit id _ => .commit id ()

/-- What an event is to a session. -/
def watch (session : String) : Watch (TrackerEvent κ) where
  request?
    | .request id url current => if id = session then some ⟨url, current⟩ else none
    | .commit _ _ => none
  commits
    | .request _ _ _ => false
    | .commit id _ => id = session

/-- An event does not move the chains of other sessions. -/
theorem move_of_ne {session : String} {e : TrackerEvent κ} (h : e.id ≠ session)
    (open? : Option RedirectChain) : (watch session).move e open? = open? := by
  cases e with
  | request id url current =>
    have hid : id ≠ session := h
    simp [Watch.move, watch, hid]
  | commit id sink =>
    have hid : id ≠ session := h
    simp [Watch.move, watch, hid]

/-- How an event moves a chain does not depend on its sink. -/
theorem move_withoutSink (session : String) (e : TrackerEvent κ) (open? : Option RedirectChain) :
    (watch session).move e.withoutSink open? = (watch session).move e open? := by
  cases e <;> rfl

end TrackerEvent

/-- The report without its sink. -/
def Report.withoutSink {κ : Type} (r : Report κ) : Report Unit := ⟨r.id, (), r.chain⟩

namespace RedirectChains

variable {κ σ : Type}

/-! ## The reference -/

/-- The chain that is open for a session at the end of a history. -/
def expected? (h : List (TrackerEvent κ)) (session : String) : Option RedirectChain :=
  (TrackerEvent.watch session).chain? h

/-- The report that an event makes after a history. -/
def reportOf (h : List (TrackerEvent κ)) : TrackerEvent κ → Option (Report κ)
  | .request _ _ _ => none
  | .commit id sink => (expected? h id).map fun chain => ⟨id, sink, chain⟩

/-- The reports of a history, in the order of the commits. -/
def reports (h : List (TrackerEvent κ)) : List (Report κ) :=
  (List.range h.length).filterMap fun n => h[n]?.bind (reportOf (h.take n))

theorem expected?_concat (h : List (TrackerEvent κ)) (e : TrackerEvent κ) (session : String) :
    expected? (h ++ [e]) session = (TrackerEvent.watch session).move e (expected? h session) :=
  Watch.chain?_concat _ h e

theorem reports_eq_filterMap (h : List (TrackerEvent κ)) :
    reports h = (places h).filterMap fun p => p.2.bind (reportOf p.1) := by
  rw [places, List.filterMap_map]
  rfl

theorem reports_concat (h : List (TrackerEvent κ)) (e : TrackerEvent κ) :
    reports (h ++ [e]) = reports h ++ (reportOf h e).toList := by
  rw [reports_eq_filterMap, reports_eq_filterMap, places_concat, List.filterMap_append]
  cases hr : reportOf h e <;> simp [hr]

/-- Events of other sessions have no part in the chain of a session. -/
theorem expected?_filter (h : List (TrackerEvent κ)) (session : String) :
    expected? (h.filter fun e => e.id = session) session = expected? h session := by
  induction h using List.reverseRecOn with
  | nil => rfl
  | append_singleton h e ih =>
    rw [List.filter_append, expected?_concat]
    by_cases he : e.id = session
    · simp only [List.filter_cons, he, decide_true, if_true, List.filter_nil, expected?_concat, ih]
    · rw [TrackerEvent.move_of_ne he]
      simpa [he] using ih

theorem reportOf_id {h : List (TrackerEvent κ)} {e : TrackerEvent κ} {r : Report κ}
    (hr : reportOf h e = some r) : r.id = e.id := by
  cases e with
  | request id url current => exact absurd hr (by simp [reportOf])
  | commit id sink =>
    obtain ⟨chain, -, rfl⟩ := Option.map_eq_some_iff.1 hr
    rfl

/-- What is reported of a session is what its own events make. -/
theorem reports_filter (h : List (TrackerEvent κ)) (session : String) :
    reports (h.filter fun e => e.id = session) = (reports h).filter fun r => r.id = session := by
  induction h using List.reverseRecOn with
  | nil => rfl
  | append_singleton h e ih =>
    rw [List.filter_append, reports_concat, List.filter_append, ← ih]
    by_cases he : e.id = session
    · -- The event stays in the history, and what it reports is told from the events that stay.
      have hsame : reportOf (h.filter fun e => e.id = session) e = reportOf h e := by
        cases e with
        | request id url current => rfl
        | commit id sink =>
          obtain rfl : id = session := he
          simp only [reportOf, expected?_filter]
      simp only [List.filter_cons, he, decide_true, if_true, List.filter_nil, reports_concat, hsame]
      cases hr : reportOf h e with
      | none => rfl
      | some r => simp [reportOf_id hr, he]
    · -- The event goes, and its report with it.
      simp only [List.filter_cons, he, decide_false, List.filter_nil]
      cases hr : reportOf h e with
      | none => simp
      | some r => simp [reportOf_id hr, he]

theorem expected?_map_withoutSink (h : List (TrackerEvent κ)) (session : String) :
    expected? (h.map TrackerEvent.withoutSink) session = expected? h session := by
  induction h using List.reverseRecOn with
  | nil => rfl
  | append_singleton h e ih =>
    rw [List.map_append, List.map_singleton, expected?_concat, expected?_concat,
      TrackerEvent.move_withoutSink, ih]

theorem reports_map_withoutSink (h : List (TrackerEvent κ)) :
    reports (h.map TrackerEvent.withoutSink) = (reports h).map Report.withoutSink := by
  induction h using List.reverseRecOn with
  | nil => rfl
  | append_singleton h e ih =>
    rw [List.map_append, List.map_singleton, reports_concat, reports_concat, List.map_append, ih]
    congr 1
    cases e with
    | request id url current => rfl
    | commit id sink =>
      simp only [TrackerEvent.withoutSink, reportOf, expected?_map_withoutSink]
      cases expected? h id <;> rfl

theorem ofRequests?_leaves_root {requests : List PageRequest} {c : RedirectChain}
    (h : RedirectChain.ofRequests? requests = some c) :
    ∃ first rest, c.chain = first :: rest ∧ first ≠ c.root := by
  unfold RedirectChain.ofRequests? at h
  cases hdrop : requests.dropWhile fun r => r.url = r.current with
  | nil => exact absurd h (by simp [hdrop])
  | cons first rest =>
    have hfirst :=
      List.head?_dropWhile_not (fun r : PageRequest => decide (r.url = r.current)) requests
    rw [hdrop] at h hfirst
    obtain rfl := Option.some.inj h
    exact ⟨first.url, rest.map PageRequest.url, rfl, by simpa using hfirst⟩

theorem mem_reports_leaves_root {h : List (TrackerEvent κ)} {r : Report κ} (hr : r ∈ reports h) :
    ∃ first rest, r.chain.chain = first :: rest ∧ first ≠ r.chain.root := by
  obtain ⟨n, -, hn⟩ := List.mem_filterMap.1 hr
  obtain ⟨e, -, he⟩ := Option.bind_eq_some_iff.1 hn
  cases e with
  | request id url current => exact absurd he (by simp [reportOf])
  | commit id sink =>
    obtain ⟨chain, hchain, rfl⟩ := Option.map_eq_some_iff.1 he
    exact ofRequests?_leaves_root hchain

/-! ## The tracker -/

/-- The tracker takes an event. -/
def step (s : RedirectChains × σ) : TrackerEvent (ReportSink σ) → Logged (RedirectChains × σ)
  | .request id url current => do
    let chains ← s.1.logRequest id url current
    return (chains, s.2)
  | .commit id sink => s.1.commitTo id sink s.2

/-- A new tracker takes a history; `env` is what the sinks find. -/
def run (h : List (TrackerEvent (ReportSink σ))) (env : σ) : Logged (RedirectChains × σ) :=
  h.foldlM step (empty, env)

theorem value_run_concat (h : List (TrackerEvent (ReportSink σ))) (e : TrackerEvent (ReportSink σ))
    (env : σ) : (run (h ++ [e]) env).value = (step (run h env).value e).value := by
  unfold run
  rw [Logged.value_foldlM, Logged.value_foldlM, List.foldl_append]
  rfl

/-- The tracker moves the chain of every session as the reference does. -/
theorem chain?_step (s : RedirectChains × σ) (e : TrackerEvent (ReportSink σ)) (session : String) :
    (step s e).value.1.chain? session =
      (TrackerEvent.watch session).move e (s.1.chain? session) := by
  cases e with
  | request id url current =>
    simp only [step, TrackerEvent.watch, Watch.move, Logged.value_bind, value_logRequest,
      Logged.value_pure, chain?_request]
    by_cases hid : id = session <;> simp [hid]
  | commit id sink => simp [step, TrackerEvent.watch, Watch.move, chain?_commitTo]

theorem chain?_run (h : List (TrackerEvent (ReportSink σ))) (env : σ) (session : String) :
    (run h env).value.1.chain? session = expected? h session := by
  induction h using List.reverseRecOn with
  | nil => rfl
  | append_singleton h e ih => rw [value_run_concat, chain?_step, expected?_concat, ih]

/-- What the sinks have come to is what they make of the reports, one after the other. -/
theorem env_run (h : List (TrackerEvent (ReportSink σ))) (env : σ) :
    (run h env).value.2 =
      (reports h).foldl (fun env r => (r.sink r.chain env).value.2) env := by
  induction h using List.reverseRecOn with
  | nil => rfl
  | append_singleton h e ih =>
    rw [value_run_concat, reports_concat, List.foldl_append, ← ih]
    cases e with
    | request id url current => rfl
    | commit id sink =>
      rw [step, value_commitTo, chain?_run, reportOf]
      cases expected? h id <;> rfl

/-- The number of open chains counts the sessions of the history that have one by the reference. -/
theorem size_run (h : List (TrackerEvent (ReportSink σ))) (env : σ) :
    (run h env).value.1.size =
      ((h.map TrackerEvent.id).dedup.filter
        fun session => (expected? h session).isSome).length := by
  have hall : ∀ session, ((run h env).value.1.byId.get? session).isSome = true →
      session ∈ (h.map TrackerEvent.id).dedup := by
    intro session hopen
    rw [List.mem_dedup]
    refine Decidable.byContradiction ?_
    intro hnot
    -- A session without events has the chain of the empty history, which is none.
    have hnone : h.filter (fun e => e.id = session) = [] := by
      refine List.filter_eq_nil_iff.2 ?_
      intro e he hid
      exact hnot (List.mem_map.2 ⟨e, he, by simpa using hid⟩)
    have hchain : (run h env).value.1.byId.get? session = none := by
      refine (chain?_run h env session).trans ?_
      rw [← expected?_filter, hnone]
      rfl
    rw [hchain] at hopen
    exact absurd hopen (by simp)
  refine (SortedMap.size_eq_length_filter _ (List.nodup_dedup _) hall).trans ?_
  congr 1
  exact List.filter_congr fun session _ => congrArg Option.isSome (chain?_run h env session)

/-- **The tracker does what the reference says.** After any history, whatever the sinks of its
    commits do and whatever `env` they find:

    * the sinks were called for the reports of the reference, one after the other, and for nothing
      else;
    * the open chains, and their number, are those of the reference;
    * every report has a chain that is not empty and first leads away from its root;
    * the chain and the reports of a session are those of its own events alone;
    * with other sinks, which may fail where these do not, the chains and the reports are the
      same. -/
theorem tracker_matches_reference (h : List (TrackerEvent (ReportSink σ))) (env : σ) :
    (run h env).value.2 = (reports h).foldl (fun env r => (r.sink r.chain env).value.2) env ∧
    (∀ session, (run h env).value.1.chain? session = expected? h session) ∧
    (run h env).value.1.size =
      ((h.map TrackerEvent.id).dedup.filter fun session => (expected? h session).isSome).length ∧
    (∀ r ∈ reports h, ∃ first rest, r.chain.chain = first :: rest ∧ first ≠ r.chain.root) ∧
    (∀ session,
      expected? (h.filter fun e => e.id = session) session = expected? h session ∧
      reports (h.filter fun e => e.id = session) = (reports h).filter fun r => r.id = session) ∧
    ∀ (τ : Type) (h' : List (TrackerEvent (ReportSink τ))) (env' : τ),
      h'.map TrackerEvent.withoutSink = h.map TrackerEvent.withoutSink →
      (∀ session, (run h' env').value.1.chain? session = (run h env).value.1.chain? session) ∧
      (reports h').map Report.withoutSink = (reports h).map Report.withoutSink := by
  refine ⟨env_run h env, chain?_run h env, size_run h env, fun r => mem_reports_leaves_root, ?_, ?_⟩
  · intro session
    exact ⟨expected?_filter h session, reports_filter h session⟩
  · intro τ h' env' hsame
    -- Both histories are the same once the sinks are taken off.
    constructor
    · intro session
      rw [chain?_run, chain?_run, ← expected?_map_withoutSink, hsame, expected?_map_withoutSink]
    · rw [← reports_map_withoutSink, hsame, reports_map_withoutSink]

/-- A history of two sessions whose commits go to a sink. -/
def twoSessions {σ : Type} (sink : ReportSink σ) : List (TrackerEvent (ReportSink σ)) :=
  [.request "a" "p" "p", .request "a" "q" "p", .request "b" "x" "y", .request "a" "p" "p",
    .commit "a" sink, .commit "a" sink]

/-- A sink that fails and counts how often, beside one that takes everything down. -/
theorem tracker_matches_reference_failing :
    let refuse : ReportSink Nat := fun _ n => pure (false, n + 1)
    let accept : ReportSink (List RedirectChain) := fun c l => pure (true, l ++ [c])
    let r : Report (ReportSink Nat) := ⟨"a", refuse, ⟨"p", ["q", "p"]⟩⟩
    r ∈ reports (twoSessions refuse) ∧
    (∃ first rest, r.chain.chain = first :: rest ∧ first ≠ r.chain.root) ∧
    (twoSessions accept).map TrackerEvent.withoutSink =
      (twoSessions refuse).map TrackerEvent.withoutSink ∧
    (∀ session, (run (twoSessions accept) []).value.1.chain? session =
      (run (twoSessions refuse) 0).value.1.chain? session) ∧
    (run (twoSessions accept) []).value.2 = [⟨"p", ["q", "p"]⟩] := by
  intro refuse accept r
  have hr : r ∈ reports (twoSessions refuse) := List.Mem.head []
  obtain ⟨-, -, -, hroot, -, hsinks⟩ := tracker_matches_reference (twoSessions refuse) 0
  exact ⟨hr, hroot r hr, rfl, (hsinks _ (twoSessions accept) [] rfl).1, rfl⟩

end RedirectChains
end BrowserTelemetry
