import BrowserTelemetry.Telemetry.RedirectChain
import Mathlib.Data.List.Basic

/-!
# Redirect chains, told from a history

The tracker keeps one chain for each session and changes it event by event. Here the same chain is
read off the **whole history** at once: take the requests of the session since its last commit, drop
the leading ones for the page it is on, and what is left is the chain, rooted at the page of its
first request.

A history may be of anything (calls of the tracker, actions of a store). What matters of an event is
what it is to the session that is looked at, a request, a commit or neither, and a `Watch` says
that.

The theorem to use is `Watch.chain?_concat`: when one event is added to a history, its chain moves
by `Watch.move`. It is exactly how the tracker moves.
-/

namespace BrowserTelemetry

set_option autoImplicit false

/-- A request for `url` by a session that is on `current`. -/
structure PageRequest where
  url : String
  current : String
  deriving DecidableEq, Repr, Inhabited

/-- The chain of the requests since a commit. The leading ones for the page that the session is on
    belong to none. -/
def RedirectChain.ofRequests? (requests : List PageRequest) : Option RedirectChain :=
  let leading := requests.dropWhile fun r => r.url = r.current
  leading.head?.map fun first => ⟨first.current, leading.map PageRequest.url⟩

/-- What the events of a history are to one session. -/
structure Watch (ε : Type) where
  request? : ε → Option PageRequest
  commits : ε → Bool

namespace Watch

variable {ε : Type} (w : Watch ε) (h : List ε)

/-- Is the event at the place `i` a request, and no commit from there on? -/
def isPending (i : Nat) : Bool :=
  (h[i]?.bind w.request?).isSome &&
    (List.range h.length).all fun j => j < i || !h[j]?.any w.commits

/-- The places of the requests since the last commit. -/
def pending : List Nat := (List.range h.length).filter (w.isPending h)

/-- The requests since the last commit, in their order. -/
def requests : List PageRequest := (w.pending h).filterMap fun i => h[i]?.bind w.request?

/-- The chain that is open at the end of a history. -/
def chain? : Option RedirectChain := RedirectChain.ofRequests? (w.requests h)

/-- How an event moves the chain of the session: a commit closes it, a request continues or opens
    it, and nothing else touches it. -/
def move (e : ε) (open? : Option RedirectChain) : Option RedirectChain :=
  if w.commits e then none
  else
    match w.request? e with
    | some r => RedirectChains.extended? open? r.url r.current
    | none => open?

/-! ## One more event -/

theorem isPending_concat_of_lt (e : ε) {i : Nat} (hi : i < h.length) :
    w.isPending (h ++ [e]) i = (w.isPending h i && !w.commits e) := by
  have hall : ((List.range h.length).all fun j => j < i || !((h ++ [e])[j]?).any w.commits) =
      (List.range h.length).all fun j => j < i || !h[j]?.any w.commits := by
    rw [Bool.eq_iff_iff, List.all_eq_true, List.all_eq_true]
    refine forall₂_congr ?_
    intro j hj
    rw [List.getElem?_append_left (List.mem_range.1 hj)]
  -- The new event comes after `i`, so that it must not be a commit.
  have hlast : ¬ h.length < i := Nat.not_lt.2 (Nat.le_of_lt hi)
  simp only [isPending, List.length_append, List.length_singleton, List.range_succ,
    List.all_append, hall, List.getElem?_append_left hi]
  simp [hlast, Bool.and_assoc]

theorem isPending_concat_length (e : ε) :
    w.isPending (h ++ [e]) h.length = ((w.request? e).isSome && !w.commits e) := by
  have hall : ((List.range h.length).all fun j =>
      decide (j < h.length) || !((h ++ [e])[j]?).any w.commits) = true := by
    refine List.all_eq_true.2 ?_
    intro j hj
    simp [List.mem_range.1 hj]
  simp only [isPending, List.length_append, List.length_singleton, List.range_succ,
    List.all_append, hall]
  simp

/-- A commit leaves nothing pending; any other event leaves what was, and itself if it is a
    request. -/
theorem pending_concat (e : ε) :
    w.pending (h ++ [e]) =
      if w.commits e then []
      else w.pending h ++ if (w.request? e).isSome then [h.length] else [] := by
  have hold : (List.range h.length).filter (w.isPending (h ++ [e])) =
      (List.range h.length).filter fun i => w.isPending h i && !w.commits e :=
    List.filter_congr fun i hi => w.isPending_concat_of_lt h e (List.mem_range.1 hi)
  rw [pending, List.length_append, List.length_singleton, List.range_succ, List.filter_append, hold,
    List.filter_cons, List.filter_nil, isPending_concat_length]
  cases hc : w.commits e with
  | true => simp
  | false => simp [pending]

theorem lt_of_mem_pending {i : Nat} (hi : i ∈ w.pending h) : i < h.length :=
  List.mem_range.1 (List.mem_filter.1 hi).1

theorem isSome_request?_of_mem_pending {i : Nat} (hi : i ∈ w.pending h) :
    (h[i]?.bind w.request?).isSome = true :=
  (Bool.and_eq_true_iff.1 (List.mem_filter.1 hi).2).1

/-- What is pending at some place comes after every commit before that place. -/
theorem lt_of_commit_of_mem_pending {n m i : Nat} (hcom : h[n]?.any w.commits = true) (hnm : n < m)
    (hi : i ∈ w.pending (h.take m)) : n < i := by
  have hall := (Bool.and_eq_true_iff.1 (List.mem_filter.1 hi).2).2
  have hget : (h.take m)[n]? = h[n]? := List.getElem?_take_of_lt hnm
  have hn : n ∈ List.range (h.take m).length := by
    cases hh : h[n]? with
    | none => exact absurd hcom (by simp [hh])
    | some e =>
      rw [hh] at hget
      exact List.mem_range.2 (List.getElem?_eq_some_iff.1 hget).1
  have hor := List.all_eq_true.1 hall n hn
  simpa [hget, hcom] using hor

theorem requests_concat (e : ε) :
    w.requests (h ++ [e]) =
      if w.commits e then [] else w.requests h ++ (w.request? e).toList := by
  have hold : (w.pending h).filterMap (fun i => (h ++ [e])[i]?.bind w.request?) = w.requests h := by
    refine List.filterMap_congr ?_
    intro i hi
    rw [List.getElem?_append_left (w.lt_of_mem_pending h hi)]
  rw [requests, pending_concat]
  split
  · rfl
  · rw [List.filterMap_append, hold]
    cases hr : w.request? e with
    | none => simp
    | some r => simp [hr]

end Watch

/-- Adding a request to the requests moves their chain as the tracker does. -/
theorem RedirectChain.ofRequests?_concat (requests : List PageRequest) (r : PageRequest) :
    ofRequests? (requests ++ [r]) =
      RedirectChains.extended? (ofRequests? requests) r.url r.current := by
  unfold ofRequests?
  rw [List.dropWhile_append]
  cases hdrop : requests.dropWhile fun r => r.url = r.current with
  | nil =>
    -- No chain is open: the request opens one if it leads away.
    by_cases hr : r.url = r.current
    · simp [RedirectChains.extended?, hr]
    · simp [RedirectChains.extended?, hr]
  | cons first rest => simp [RedirectChains.extended?, RedirectChain.add]

namespace Watch

variable {ε : Type} (w : Watch ε) (h : List ε)

theorem chain?_concat (e : ε) : w.chain? (h ++ [e]) = w.move e (w.chain? h) := by
  rw [chain?, requests_concat, move]
  split
  · rfl
  · cases w.request? e with
    | none => simp [chain?]
    | some r => exact RedirectChain.ofRequests?_concat _ _

end Watch

end BrowserTelemetry
