import BrowserTelemetry.Telemetry.Metrics
import Mathlib.Algebra.Order.Ring.Int
import Mathlib.Data.List.Basic
import Mathlib.Data.List.Induction

/-!
# Metrics across uploads

Counts are made, copies of them are handed out, and now and then they are taken for an upload and
start again from nothing. So what was counted is spread over what has been taken and what is still
kept, and **together these are exactly what was counted** (`total_run`, `samples_run`): a reset that
forgot a field, or an age under the wrong label, would break one of the two.

That says nothing of the sums, which are kept beside the samples and are not their exact sums: an
addition that leaves the range of 64 bits stays at its end, so a sum depends on the order of its
samples. What holds of a sum holds of each distribution by itself (`Metrics.Sound`).

Both are inductions over the calls from their end, with one lemma for what a single call does.
-/

namespace BrowserTelemetry

set_option autoImplicit false

/-- A call to what keeps the metrics. -/
inductive MetricsCall where
  | track (event : Event)
  | recordKill (label : KillLabel)
  | recordAge (label : KillLabel) (nanos : Int64)
  /-- Hand out a copy. -/
  | snapshot (now : Moment)
  /-- Hand out the counts and start again. -/
  | take (now : Moment)
  deriving DecidableEq

namespace MetricsCall

/-- The age that a call records under a label. -/
def age? (l : KillLabel) : MetricsCall → Option Int64
  | .recordAge label nanos => if label = l then some nanos else none
  | .track _ | .recordKill _ | .snapshot _ | .take _ => none

/-- Does the call only hand out a copy? -/
def isSnapshot : MetricsCall → Bool
  | .snapshot _ => true
  | .track _ | .recordKill _ | .recordAge _ _ | .take _ => false

end MetricsCall

/-- The metrics that are kept, and those that were handed out: for uploads, and as copies. -/
structure Uploads where
  kept : Metrics
  taken : List Metrics
  copies : List Metrics

/-! ## Sums that stay in range -/

/-- A sum that never leaves the range on the way is exact. -/
theorem toInt_foldl_addClamped {samples : List Int64}
    (h : ∀ n, Int64.minValue.toInt ≤ ((samples.take n).map Int64.toInt).sum ∧
      ((samples.take n).map Int64.toInt).sum ≤ Int64.maxValue.toInt) :
    (samples.foldl addClamped 0).toInt = (samples.map Int64.toInt).sum := by
  induction samples using List.reverseRecOn with
  | nil => rfl
  | append_singleton samples nanos ih =>
    have hbefore : (samples.foldl addClamped 0).toInt = (samples.map Int64.toInt).sum := by
      refine ih fun n => ?_
      -- The partial sums of the shorter list are among those of the longer one.
      have hn := h (min n samples.length)
      rwa [List.take_append_of_le_length (Nat.min_le_right _ _), ← List.take_take,
        List.take_length] at hn
    have hsum : ((samples ++ [nanos]).map Int64.toInt).sum =
        (samples.map Int64.toInt).sum + nanos.toInt := by simp
    obtain ⟨hmin, hmax⟩ := h (samples ++ [nanos]).length
    rw [List.take_length, hsum] at hmin hmax
    rw [List.foldl_concat, addClamped, hbefore, toInt_clamp_of_mem hmin hmax, hsum]

-- Of a sum that leaves the range the order matters.
example : [Int64.maxValue, 1, -1].foldl addClamped 0 = Int64.maxValue - 1 ∧
    [1, -1, Int64.maxValue].foldl addClamped 0 = Int64.maxValue := by
  decide

/-! ## Metrics by themselves -/

/-- What holds of metrics after `n` calls at most: no key stands for nothing, a count is no more
    than the calls there were, and a sum is the one of its samples, added in order. -/
structure Metrics.Sound (n : Nat) (m : Metrics) : Prop where
  events_mem : ∀ x ∈ m.events.toList, 1 ≤ x.2 ∧ x.2 ≤ n
  tabKills_mem : ∀ x ∈ m.tabKills.toList, 1 ≤ x.2 ∧ x.2 ≤ n
  sum_ages : ∀ l, (m.ages l).sum = (m.ages l).samples.foldl addClamped 0

namespace Metrics

variable {n : Nat} {m : Metrics}

theorem sound_empty : Metrics.empty.Sound 0 where
  events_mem x hx := absurd hx (by simp [empty, SortedMap.empty, SortedMap.toList])
  tabKills_mem x hx := absurd hx (by simp [empty, SortedMap.empty, SortedMap.toList])
  sum_ages l := by cases l <;> rfl

theorem Sound.mono {k : Nat} (h : m.Sound n) (hk : n ≤ k) : m.Sound k where
  events_mem x hx := ⟨(h.events_mem x hx).1, Nat.le_trans (h.events_mem x hx).2 hk⟩
  tabKills_mem x hx := ⟨(h.tabKills_mem x hx).1, Nat.le_trans (h.tabKills_mem x hx).2 hk⟩
  sum_ages := h.sum_ages

/-- One more of a key: its count is at least 1, and at most one more than any was. -/
theorem mem_insert_count {κ : Type} [LT κ] [DecidableLT κ] [KeyOrder κ] {counts : SortedMap κ Nat}
    (h : ∀ x ∈ counts.toList, 1 ≤ x.2 ∧ x.2 ≤ n) (k : κ) :
    ∀ x ∈ (counts.insert k ((counts.get? k).getD 0 + 1)).toList, 1 ≤ x.2 ∧ x.2 ≤ n + 1 := by
  intro x hx
  rcases SortedMap.mem_insertEntry hx with rfl | hx
  · refine ⟨Nat.le_add_left 1 _, Nat.succ_le_succ ?_⟩
    cases hk : counts.get? k with
    | none => exact Nat.zero_le n
    | some count => exact (h _ ((SortedMap.lookup_eq_some_iff counts.ascending).1 hk)).2
  · exact ⟨(h x hx).1, Nat.le_succ_of_le (h x hx).2⟩

theorem Sound.countEvent (h : m.Sound n) (e : Event) : (m.countEvent e).Sound (n + 1) where
  events_mem := mem_insert_count h.events_mem e
  tabKills_mem := (h.mono n.le_succ).tabKills_mem
  sum_ages := h.sum_ages

theorem Sound.recordKill (h : m.Sound n) (l : KillLabel) : (m.recordKill l).Sound (n + 1) where
  events_mem := (h.mono n.le_succ).events_mem
  tabKills_mem := mem_insert_count h.tabKills_mem l
  sum_ages := h.sum_ages

theorem Sound.recordAge (h : m.Sound n) (label : KillLabel) (nanos : Int64) :
    (m.recordAge label nanos).Sound n where
  events_mem := by cases label <;> exact h.events_mem
  tabKills_mem := by cases label <;> exact h.tabKills_mem
  sum_ages l := by
    rw [ages_recordAge]
    split
    · rw [TimingDistribution.accumulate, List.foldl_concat, h.sum_ages]
    · exact h.sum_ages l

theorem Sound.snapshot (h : m.Sound n) (now : Moment) : (m.snapshot now).Sound n where
  events_mem := h.events_mem
  tabKills_mem := h.tabKills_mem
  sum_ages := h.sum_ages

end Metrics

/-! ## Calls -/

namespace Uploads

variable {u : Uploads}

/-- Nothing counted, and nothing handed out. -/
def start : Uploads := ⟨.empty, [], []⟩

/-- One call. -/
def step (u : Uploads) : MetricsCall → Uploads
  | .track e => { u with kept := (u.kept.track e).value }
  | .recordKill l => { u with kept := u.kept.recordKill l }
  | .recordAge l nanos => { u with kept := u.kept.recordAge l nanos }
  | .snapshot now => { u with copies := u.copies ++ [u.kept.snapshot now] }
  | .take now => { u with kept := (u.kept.take now).2, taken := u.taken ++ [(u.kept.take now).1] }

/-- Calls, one after the other, from the start. -/
def run (calls : List MetricsCall) : Uploads := calls.foldl step start

theorem run_concat (calls : List MetricsCall) (c : MetricsCall) :
    run (calls ++ [c]) = (run calls).step c := List.foldl_concat ..

/-- All metrics there are: what is kept and what was handed out. -/
def all (u : Uploads) : List Metrics := u.kept :: (u.taken ++ u.copies)

/-- What a count comes to over all uploads and what is kept. -/
def total (u : Uploads) (count : Metrics → Nat) : Nat := (u.taken.map count).sum + count u.kept

/-- The ages under a label, over all uploads and what is kept. -/
def samples (u : Uploads) (l : KillLabel) : List Int64 :=
  (u.taken.flatMap fun m => (m.ages l).samples) ++ (u.kept.ages l).samples

/-! ## Nothing is lost -/

/-- What is taken is what was kept, and nothing is kept then. -/
theorem total_take {count : Metrics → Nat} (hempty : count .empty = 0)
    (hcopy : ∀ m now, count (m.snapshot now) = count m) (now : Moment) :
    (u.step (.take now)).total count = u.total count := by
  simp [step, total, Metrics.take, hempty, hcopy]

theorem total_eventCount_step (u : Uploads) (e : Event) (c : MetricsCall) :
    (u.step c).total (·.eventCount e) =
      u.total (·.eventCount e) + if c = .track e then 1 else 0 := by
  cases c with
  | track e' =>
    have hone := Metrics.eventCount_countEvent u.kept e' e
    simp only [total, step, Metrics.track, Logged.value_bind, Logged.value_pure, hone,
      MetricsCall.track.injEq, Nat.add_assoc]
  | recordKill l => rfl
  | recordAge l nanos => cases l <;> rfl
  | snapshot now => rfl
  | take now => exact total_take rfl (fun _ _ => rfl) now

theorem total_killCount_step (u : Uploads) (l : KillLabel) (c : MetricsCall) :
    (u.step c).total (·.killCount l) =
      u.total (·.killCount l) + if c = .recordKill l then 1 else 0 := by
  cases c with
  | track e => rfl
  | recordKill l' =>
    have hone := Metrics.killCount_recordKill u.kept l' l
    simp only [total, step, hone, MetricsCall.recordKill.injEq, Nat.add_assoc]
  | recordAge l' nanos => cases l' <;> rfl
  | snapshot now => rfl
  | take now => exact total_take rfl (fun _ _ => rfl) now

/-- A count to which one kind of call adds one, and no other call anything. -/
theorem total_run {count : Metrics → Nat} {c : MetricsCall} (hempty : count .empty = 0)
    (hstep : ∀ (u : Uploads) (c' : MetricsCall),
      (u.step c').total count = u.total count + if c' = c then 1 else 0)
    (calls : List MetricsCall) : (run calls).total count = calls.count c := by
  induction calls using List.reverseRecOn with
  | nil => simp [run, start, total, hempty]
  | append_singleton calls c' ih =>
    rw [run_concat, hstep, ih, List.count_append, List.count_singleton]
    simp only [beq_iff_eq]

theorem samples_step (u : Uploads) (l : KillLabel) (c : MetricsCall) :
    (u.step c).samples l = u.samples l ++ (c.age? l).toList := by
  cases c with
  | track e => exact (List.append_nil _).symm
  | recordKill l' => exact (List.append_nil _).symm
  | recordAge label nanos =>
    simp only [samples, step, Metrics.samples_recordAge, MetricsCall.age?]
    split <;> simp
  | snapshot now => exact (List.append_nil _).symm
  | take now => cases l <;> simp [samples, step, Metrics.take, Metrics.snapshot, Metrics.ages,
      MetricsCall.age?, Metrics.empty, TimingDistribution.empty]

theorem samples_run (calls : List MetricsCall) (l : KillLabel) :
    (run calls).samples l = calls.filterMap (MetricsCall.age? l) := by
  induction calls using List.reverseRecOn with
  | nil => cases l <;> rfl
  | append_singleton calls c ih =>
    rw [run_concat, samples_step, ih, List.filterMap_append]
    cases hc : c.age? l <;> simp [hc]

/-! ## What copies leave alone -/

/-- What is kept and what is taken is the same without the copies. -/
theorem run_filter (calls : List MetricsCall) :
    run (calls.filter fun c => !c.isSnapshot) = { run calls with copies := [] } := by
  induction calls using List.reverseRecOn with
  | nil => rfl
  | append_singleton calls c ih =>
    rw [List.filter_append, run_concat]
    cases c with
    | snapshot now =>
      rw [show [MetricsCall.snapshot now].filter (fun c => !c.isSnapshot) = [] from rfl,
        List.append_nil, ih]
      rfl
    | track e => exact (run_concat ..).trans (by rw [ih]; rfl)
    | recordKill l => exact (run_concat ..).trans (by rw [ih]; rfl)
    | recordAge l nanos => exact (run_concat ..).trans (by rw [ih]; rfl)
    | take now => exact (run_concat ..).trans (by rw [ih]; rfl)

/-! ## All metrics are sound -/

theorem forall_mem_all {P : Metrics → Prop} :
    (∀ m ∈ u.all, P m) ↔ P u.kept ∧ (∀ m ∈ u.taken, P m) ∧ ∀ m ∈ u.copies, P m := by
  rw [all, List.forall_mem_cons, List.forall_mem_append]

theorem sound_step {n : Nat} (h : ∀ m ∈ u.all, m.Sound n) (c : MetricsCall) :
    ∀ m ∈ (u.step c).all, m.Sound (n + 1) := by
  have hkept : u.kept.Sound n := (forall_mem_all.1 h).1
  -- One more call does no harm to what was sound before it.
  obtain ⟨hsame, htaken, hcopies⟩ :=
    forall_mem_all.1 fun m hm => (h m hm).mono (Nat.le_succ n)
  rw [forall_mem_all]
  cases c with
  | track e => exact ⟨hkept.countEvent e, htaken, hcopies⟩
  | recordKill l => exact ⟨hkept.recordKill l, htaken, hcopies⟩
  | recordAge l nanos => exact ⟨hsame.recordAge l nanos, htaken, hcopies⟩
  | snapshot now =>
    refine ⟨hsame, htaken, List.forall_mem_append.2 ⟨hcopies, ?_⟩⟩
    exact List.forall_mem_singleton.2 (hsame.snapshot now)
  | take now =>
    refine ⟨Metrics.sound_empty.mono (Nat.zero_le _), List.forall_mem_append.2 ⟨htaken, ?_⟩,
      hcopies⟩
    exact List.forall_mem_singleton.2 (hsame.snapshot now)

theorem sound_run (calls : List MetricsCall) : ∀ m ∈ (run calls).all, m.Sound calls.length := by
  induction calls using List.reverseRecOn with
  | nil =>
    intro m hm
    obtain rfl : m = Metrics.empty := List.mem_singleton.1 hm
    exact Metrics.sound_empty
  | append_singleton calls c ih =>
    rw [run_concat, List.length_append, List.length_singleton]
    exact sound_step ih c

/-- **Nothing is lost over uploads, and nothing counts twice.** After any calls on fresh metrics

    * what was taken and what is kept have together every event and every kill as often as there was
      a call to count it, and exactly the ages that were recorded, each under its label and in
      order;
    * the copies that were handed out have had no effect on either;
    * wherever there is a count it is at least 1, and no more than the number of calls, so that 64
      bits are enough for it as long as there are fewer than 2 ^ 64 of them;
    * a sum is that of its own samples, each addition brought into range, and hence exact if none of
      them leaves the range. -/
theorem counts_across_uploads (calls : List MetricsCall) :
    let u := run calls
    (∀ e, (u.taken.map (·.eventCount e)).sum + u.kept.eventCount e = calls.count (.track e)) ∧
    (∀ l, (u.taken.map (·.killCount l)).sum + u.kept.killCount l = calls.count (.recordKill l)) ∧
    (∀ l, (u.taken.flatMap fun m => (m.ages l).samples) ++ (u.kept.ages l).samples =
      calls.filterMap (MetricsCall.age? l)) ∧
    run (calls.filter fun c => !c.isSnapshot) = { u with copies := [] } ∧
    ∀ m ∈ u.kept :: (u.taken ++ u.copies),
      (∀ x ∈ m.events.toList, 1 ≤ x.2 ∧ x.2 ≤ calls.length) ∧
      (∀ x ∈ m.tabKills.toList, 1 ≤ x.2 ∧ x.2 ≤ calls.length) ∧
      ∀ l, (m.ages l).sum = (m.ages l).samples.foldl addClamped 0 ∧
        ((∀ n, Int64.minValue.toInt ≤ (((m.ages l).samples.take n).map Int64.toInt).sum ∧
          (((m.ages l).samples.take n).map Int64.toInt).sum ≤ Int64.maxValue.toInt) →
          (m.ages l).sum.toInt = ((m.ages l).samples.map Int64.toInt).sum) := by
  intro u
  refine ⟨fun e => ?_, fun l => ?_, samples_run calls, run_filter calls, fun m hm => ?_⟩
  · exact total_run rfl (fun u c => total_eventCount_step u e c) calls
  · exact total_run rfl (fun u c => total_killCount_step u l c) calls
  · have hsound := sound_run calls m hm
    refine ⟨hsound.events_mem, hsound.tabKills_mem, fun l => ⟨hsound.sum_ages l, fun hrange => ?_⟩⟩
    rw [hsound.sum_ages]
    exact toInt_foldl_addClamped hrange

end Uploads
end BrowserTelemetry
