import BrowserTelemetry.Log
import BrowserTelemetry.SortedMap

/-!
# Redirect chains

The addresses that a session asks for between two that it commits to. A chain is opened by the first
request that leads away from the page the tab is on; from then on every request belongs to it. The
commit closes it, and only then is it reported.
-/

namespace BrowserTelemetry

set_option autoImplicit false

/-- The addresses requested since a tab was on `root`. -/
structure RedirectChain where
  root : String
  chain : List String
  deriving DecidableEq, Repr, Inhabited

/-- The chain with one more address. -/
def RedirectChain.add (c : RedirectChain) (url : String) : RedirectChain :=
  { c with chain := c.chain ++ [url] }

/-- What takes a report of a chain, in an environment; `false` when that failed. -/
abbrev ReportSink (σ : Type) : Type := RedirectChain → σ → Logged (Bool × σ)

/-- The open chains by session. -/
structure RedirectChains where
  byId : SortedMap String RedirectChain
  deriving DecidableEq, Inhabited

namespace RedirectChains

/-- No open chains. -/
def empty : RedirectChains := ⟨.empty⟩

/-- The open chain of a session. -/
def chain? (t : RedirectChains) (id : String) : Option RedirectChain := t.byId.get? id

/-- The number of open chains. -/
def size (t : RedirectChains) : Nat := t.byId.size

/-- Are there no open chains? -/
def isEmpty (t : RedirectChains) : Bool := t.byId.isEmpty

/-- The chain that a request continues or opens, if it does. -/
def extended? (open? : Option RedirectChain) (url current : String) : Option RedirectChain :=
  match open? with
  | some c => some (c.add url)
  | none => if url = current then none else some ⟨current, [url]⟩

/-- A session that is on `current` requests an address. -/
def request (t : RedirectChains) (id url current : String) : RedirectChains :=
  match extended? (t.chain? id) url current with
  | some c => ⟨t.byId.insert id c⟩
  | none => t

/-- A request, with the log. -/
def logRequest (t : RedirectChains) (id url current : String) : Logged RedirectChains := do
  if (t.chain? id).isNone ∧ url ≠ current then
    Logged.log .trace "Opening redirect chain"
      [("session_id", .string id), ("root", .string current)]
  return t.request id url current

/-- A session commits to an address: its chain, which is to be reported, and the chains that stay
    open. -/
def commit (t : RedirectChains) (id : String) : Option RedirectChain × RedirectChains :=
  (t.chain? id, ⟨t.byId.erase id⟩)

/-- A session commits to an address, and its chain goes to a sink. The chain is closed first and
    reported then, so that a report that fails leaves nothing behind. -/
def commitTo {σ : Type} (t : RedirectChains) (id : String) (sink : ReportSink σ) (env : σ) :
    Logged (RedirectChains × σ) :=
  match t.commit id with
  | (none, _) => return (t, env)
  | (some chain, chains) => do
    let (taken, env) ← sink chain env
    if !taken then
      Logged.log .info "Failed to record search telemetry" [("session_id", .string id)]
    return (chains, env)

/-- The open chains are told by what is open for each session. -/
theorem eq_of_chain? {t u : RedirectChains} (h : ∀ session, t.chain? session = u.chain? session) :
    t = u := by
  have hbyId : t.byId = u.byId := SortedMap.eq_of_get? h
  cases t
  cases u
  congr

/-! ## What is open afterwards -/

@[simp] theorem value_logRequest (t : RedirectChains) (id url current : String) :
    (t.logRequest id url current).value = t.request id url current := by
  unfold logRequest
  split <;> rfl

/-- What a commit comes to: the sink decides what becomes of its environment, and nothing else. -/
theorem value_commitTo {σ : Type} (t : RedirectChains) (id : String) (sink : ReportSink σ)
    (env : σ) :
    (t.commitTo id sink env).value =
      match t.chain? id with
      | some c => ((t.commit id).2, (sink c env).value.2)
      | none => (t, env) := by
  cases hopen : t.chain? id with
  | none => simp [commitTo, commit, hopen]
  | some c =>
    simp only [commitTo, commit, hopen, Logged.value_bind]
    split <;> rfl

/-- A request continues or opens the chain of its session and touches no other. -/
theorem chain?_request (t : RedirectChains) (id url current session : String) :
    (t.request id url current).chain? session =
      if id = session then extended? (t.chain? session) url current else t.chain? session := by
  unfold request
  split
  · rename_i c hc
    split
    · rename_i heq
      rw [← heq, hc]
      exact SortedMap.get?_insert_self _ _ _
    · rename_i hne
      exact SortedMap.get?_insert_of_ne _ _ hne
  · rename_i hnone
    split
    · rename_i heq
      rw [← heq, hnone]
      cases hopen : t.chain? id with
      | none => rfl
      | some c => exact absurd hnone (by simp [extended?, hopen])
    · rfl

/-- A commit leaves its session without a chain, whatever the sink does, and touches no other. -/
theorem chain?_commitTo {σ : Type} (t : RedirectChains) (id : String) (sink : ReportSink σ)
    (env : σ) (session : String) :
    (t.commitTo id sink env).value.1.chain? session =
      if id = session then none else t.chain? session := by
  rw [value_commitTo]
  by_cases hid : id = session
  · subst hid
    rw [if_pos rfl]
    cases hopen : t.chain? id with
    | none => exact hopen
    | some c => exact SortedMap.get?_erase_self _ _
  · rw [if_neg hid]
    cases t.chain? id with
    | none => rfl
    | some c => exact SortedMap.get?_erase_of_ne _ hid

end RedirectChains

end BrowserTelemetry
