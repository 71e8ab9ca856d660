import BrowserTelemetry.Proofs.EngineLinks
import BrowserTelemetry.Proofs.OpenChains

/-!
# Engines that are killed

The kills that telemetry has counted, and the ages it has recorded, told from the history of a run.
A kill is looked at **in the state it finds**: whether its id names a session at all, whether that
is the selected one, and since when it has had its engine. The state changes only after that, so
what ties the counts to the rest of the run is that telemetry and the reducer look up one and the
same session (`BrowserState.reduce_kill`).
-/

namespace BrowserTelemetry

set_option autoImplicit false

/-! ## Kills in a history -/

/-- The label that an action is counted under, if it kills the engine of a session: its id is that
    of a tab or of a custom tab. -/
def Seen.killLabel? : Seen → Option KillLabel
  | (s, .engine (.kill id)) =>
    if id ∈ (s.tabs ++ s.customTabs).map Session.id then
      some (if s.selected = some id then .foreground else .background)
    else none
  | _ => none

/-- The age of the engine that an action kills, if the session it finds has one. -/
def Seen.killAge? (now : Clock) : Seen → Option Int64
  | (s, .engine (.kill id)) =>
    (s.findSession id).bind fun t => t.engine.linkedAt.map fun linkedAt =>
      mulClamped (subClamped now.millis linkedAt) Sinks.nanosPerMilli
  | _ => none

/-- The age that is recorded under a label at an action. -/
def Seen.sample? (label : KillLabel) (now : Clock) (e : Seen) : Option Int64 :=
  if e.killLabel? = some label then e.killAge? now else none

/-- The actions of a run with the readings of the clock at them. -/
def timedHistory (s : BrowserState) (ps : List Turn) : List (Clock × Seen) :=
  (ps.map Turn.clock).zip (history s (ps.map Turn.action))

theorem timedHistory_concat (s : BrowserState) (ps : List Turn) (p : Turn) :
    timedHistory s (ps ++ [p]) =
      timedHistory s ps ++ [(p.clock, s.reduceAll (ps.map Turn.action), p.action)] := by
  unfold timedHistory
  rw [List.map_append, List.map_append, List.map_singleton, List.map_singleton, history_concat,
    List.zip_append (by rw [List.length_map, length_history, List.length_map])]
  rfl

/-! ## The counts -/

/-- What telemetry finds out of a kill is what the history says of it. -/
theorem Seen.killLabel?_kill (s : BrowserState) (id : String) :
    Seen.killLabel? (s, .engine (.kill id)) =
      (s.findSession id).map fun t => .ofSelected (s.selected = some t.id) := by
  rw [Seen.killLabel?]
  cases hfound : s.findSession id with
  | none =>
    have hout : id ∉ (s.tabs ++ s.customTabs).map Session.id := by
      rw [← BrowserState.findSession_isSome_iff, hfound]
      exact Bool.false_ne_true
    rw [if_neg hout, Option.map_none]
  | some t =>
    have hmem : id ∈ (s.tabs ++ s.customTabs).map Session.id :=
      BrowserState.findSession_isSome_iff.1 (by rw [hfound]; rfl)
    rw [if_pos hmem, Option.map_some, BrowserState.id_of_findSession hfound, KillLabel.ofSelected]
    simp only [decide_eq_true_eq]

theorem Seen.killLabel?_of_ne (s : BrowserState) {a : BrowserAction}
    (hne : ∀ id, a ≠ .engine (.kill id)) : Seen.killLabel? (s, a) = none := by
  unfold Seen.killLabel?
  split
  · rename_i id heq
    exact absurd (Prod.mk.inj heq).2 (hne id)
  · rfl

namespace Telemetry

/-- The work before an action counts it, and records an age, as the history says. -/
theorem kills_before (state : BrowserState) (a : BrowserAction) (t : Telemetry) (l : KillLabel) :
    (before state a t).value.sinks.metrics.killCount l =
        t.sinks.metrics.killCount l + (if Seen.killLabel? (state, a) = some l then 1 else 0) ∧
      ((before state a t).value.sinks.metrics.ages l).samples =
        (t.sinks.metrics.ages l).samples ++ (Seen.sample? l t.sinks.clock (state, a)).toList := by
  by_cases hkill : ∃ id, a = .engine (.kill id)
  · obtain ⟨id, rfl⟩ := hkill
    simp only [before, value_onSinks, Sinks.value_engineKilled, Seen.sample?, Seen.killLabel?_kill]
    cases hfound : state.findSession id with
    | none => simp
    | some tab =>
      have hage :
          Seen.killAge? t.sinks.clock (state, .engine (.kill id)) = t.sinks.engineAge tab := by
        rw [Seen.killAge?, hfound]
        rfl
      simp only [hage, Option.map_some, Option.some.injEq, Sinks.recordKill]
      cases t.sinks.engineAge tab with
      | none =>
        refine ⟨Metrics.killCount_recordKill _ _ _, ?_⟩
        simp [Metrics.ages_recordKill]
      | some nanos =>
        refine ⟨?_, ?_⟩
        · rw [Metrics.killCount_recordAge, Metrics.killCount_recordKill]
        · rw [Metrics.samples_recordAge, Metrics.ages_recordKill]
          split <;> rfl
  · have hne : ∀ id, a ≠ .engine (.kill id) := fun id heq => hkill ⟨id, heq⟩
    obtain ⟨events, hmetrics⟩ := metrics_before_of_ne state hne t
    rw [hmetrics, Seen.sample?, Seen.killLabel?_of_ne state hne]
    cases l <;> exact ⟨rfl, (List.append_nil _).symm⟩

theorem kills_after (state : BrowserState) (a : BrowserAction) (t : Telemetry) (l : KillLabel) :
    (after state a t).value.sinks.metrics.killCount l = t.sinks.metrics.killCount l ∧
      (after state a t).value.sinks.metrics.ages l = t.sinks.metrics.ages l := by
  obtain ⟨events, hmetrics⟩ := metrics_after state a t
  rw [hmetrics]
  cases l <;> exact ⟨rfl, rfl⟩

end Telemetry

/-! ## Runs -/

namespace Store

theorem kills_play (s : Store Telemetry) (p : Turn) (l : KillLabel) :
    let m := (play [Telemetry.middleware] s p).value.env.sinks.metrics
    m.killCount l = s.env.sinks.metrics.killCount l +
        (if Seen.killLabel? (s.state, p.action) = some l then 1 else 0) ∧
      (m.ages l).samples = (s.env.sinks.metrics.ages l).samples ++
        (Seen.sample? l p.clock (s.state, p.action)).toList := by
  obtain ⟨hcount, hsamples⟩ := Telemetry.kills_before s.state p.action
    { s.env with sinks := p.prepare s.env.sinks } l
  obtain ⟨hcount', hages⟩ := Telemetry.kills_after (s.state.reduce p.action) p.action
    (Telemetry.before s.state p.action { s.env with sinks := p.prepare s.env.sinks }).value l
  unfold play Telemetry.middleware
  rw [value_dispatch_around]
  exact ⟨hcount'.trans hcount, (congrArg TimingDistribution.samples hages).trans hsamples⟩

/-- **The kills of a run** are those of its history, and so are the ages. -/
theorem kills_playAll (s : Store Telemetry) (ps : List Turn) (l : KillLabel) :
    let m := (playAll [Telemetry.middleware] s ps).value.env.sinks.metrics
    m.killCount l = s.env.sinks.metrics.killCount l +
        (history s.state (ps.map Turn.action)).countP (fun e => e.killLabel? = some l) ∧
      (m.ages l).samples = (s.env.sinks.metrics.ages l).samples ++
        (timedHistory s.state ps).filterMap fun e => e.2.sample? l e.1 := by
  induction ps using List.reverseRecOn with
  | nil => exact ⟨rfl, (List.append_nil _).symm⟩
  | append_singleton ps p ih =>
    obtain ⟨hcount, hsamples⟩ := ih
    have hstate : (playAll [Telemetry.middleware] s ps).value.state =
        s.state.reduceAll (ps.map Turn.action) := state_playAll_around _ _ _ _
    obtain ⟨hcount', hsamples'⟩ := kills_play (playAll [Telemetry.middleware] s ps).value p l
    rw [hstate] at hcount' hsamples'
    simp only [value_playAll_concat, hcount', hsamples', hcount, hsamples]
    rw [List.map_append, List.map_singleton, history_concat, timedHistory_concat,
      List.countP_append, List.filterMap_append]
    constructor
    · simp [Nat.add_assoc]
    · cases hs : Seen.sample? l p.clock (s.state.reduceAll (ps.map Turn.action), p.action) <;>
        simp [hs]

end Store

/-- A sample is recorded at a kill that is counted, so there are at most as many. -/
theorem length_samples_le (s : BrowserState) (ps : List Turn) (l : KillLabel) :
    ((timedHistory s ps).filterMap fun e => e.2.sample? l e.1).length ≤
      (history s (ps.map Turn.action)).countP fun e => e.killLabel? = some l := by
  have hlength : (history s (ps.map Turn.action)).length ≤ (ps.map Turn.clock).length := by
    simp [length_history]
  calc ((timedHistory s ps).filterMap fun e => e.2.sample? l e.1).length
      = (timedHistory s ps).countP fun e => (e.2.sample? l e.1).isSome :=
        List.length_filterMap_eq_countP
    _ ≤ (timedHistory s ps).countP fun e => e.2.killLabel? = some l := by
        refine List.countP_mono_left fun e _ hsample => ?_
        by_contra hlabel
        exact absurd hsample (by simp [Seen.sample?, of_decide_eq_false (by simpa using hlabel)])
    _ = ((timedHistory s ps).map Prod.snd).countP fun e => e.killLabel? = some l := by
        rw [List.countP_map]
        rfl
    _ = (history s (ps.map Turn.action)).countP fun e => e.killLabel? = some l := by
        rw [timedHistory, List.map_snd_zip hlength]

/-- Every kill is counted under one of the two labels. -/
theorem countP_killLabel? (h : List Seen) :
    h.countP (fun e => e.killLabel? = some .foreground) +
      h.countP (fun e => e.killLabel? = some .background) =
    h.countP fun e => e.killLabel?.isSome := by
  induction h with
  | nil => rfl
  | cons e rest ih =>
    simp only [List.countP_cons, ← ih]
    rcases e.killLabel? with _ | l
    · simp
    · cases l <;> simp <;> omega

/-- Between a kill of an id and a later one that finds an engine, something gave it one. -/
theorem renews_between {s : BrowserState} (hs : s.WellFormed) {actions : List BrowserAction}
    {id : String} {n m : Nat} (hlt : n < m) {e e' : Seen}
    (hn : (history s actions)[n]? = some e) (hkill : e.2 = .engine (.kill id))
    (hm : (history s actions)[m]? = some e') :
    e'.1.Unlinked id ∨ ∃ k f, n < k ∧ k < m ∧ (history s actions)[k]? = some f ∧
      BrowserState.Renews id f.1 f.2 := by
  have hafter : (e.1.reduce e.2).WellFormed ∧ (e.1.reduce e.2).Unlinked id := by
    refine ⟨(wellFormed_of_history hs hn).reduce e.2, ?_⟩
    rw [hkill]
    exact e.1.unlinked_kill id
  refine (holds_or_between (fun s => s.WellFormed ∧ s.Unlinked id) (BrowserState.Renews id) ?_
    hlt hn hafter hm).imp_left And.right
  rintro t a ⟨hwf, hunlinked⟩ hno
  exact ⟨hwf.reduce a, hunlinked.reduce hwf hno⟩

/-- Only a custom tab: it is never the selected one. -/
theorem killLabel?_of_customTab {s : BrowserState} (hs : s.WellFormed) {id : String}
    (htab : id ∉ s.tabs.map Session.id) (hcustom : id ∈ s.customTabs.map Session.id) :
    Seen.killLabel? (s, .engine (.kill id)) = some .background := by
  have hmem : id ∈ (s.tabs ++ s.customTabs).map Session.id := by
    rw [List.map_append]
    exact List.mem_append_right _ hcustom
  rw [Seen.killLabel?, if_pos hmem, if_neg fun hsel => htab (hs.selected_mem id hsel)]

/-- The engine whose age is recorded is the one that the state loses. -/
theorem reduce_of_killAge? {s : BrowserState} {id : String} {now : Clock} {nanos : Int64}
    (h : Seen.killAge? now (s, .engine (.kill id)) = some nanos) :
    ∃ u linkedAt, u.engine.linkedAt = some linkedAt ∧
      nanos = mulClamped (subClamped now.millis linkedAt) Sinks.nanosPerMilli ∧
      s.Replaces (s.reduce (.engine (.kill id))) u { u with engine := ⟨none⟩ } ∧
      (s.reduce (.engine (.kill id))).findSession id = some { u with engine := ⟨none⟩ } := by
  obtain ⟨u, hu, hage⟩ := Option.bind_eq_some_iff.1 h
  obtain ⟨linkedAt, hlinked, rfl⟩ := Option.map_eq_some_iff.1 hage
  exact ⟨u, linkedAt, hlinked, rfl, BrowserState.reduce_kill hu⟩

/-- **The accounts of killed engines.** Begin without tabs and without counts; then after any run

    * the two counts together are the number of kills that found a session;
    * each label counts the kills of its own, the selected tab being in the foreground; its samples
      are the ages at those of them whose session had an engine, in order, so that there are never
      more samples than kills;
    * a kill of a session that is a custom tab only counts in the background;
    * the session whose age is recorded is the one that loses its engine, no other session changes,
      and the id gives that session afterwards;
    * after a kill of an id another one records an age only if meanwhile an engine was linked to the
      id, or a session of the id was added or came to light. -/
theorem kills_of_run (t : Telemetry) (ht : t.sinks.metrics = .empty) (ps : List Turn) :
    let m := (Store.playAll [Telemetry.middleware] ⟨.empty, t⟩ ps).value.env.sinks.metrics
    let h := history .empty (ps.map Turn.action)
    m.killCount .foreground + m.killCount .background = h.countP (fun e => e.killLabel?.isSome) ∧
    (∀ l, m.killCount l = h.countP (fun e => e.killLabel? = some l) ∧
      (m.ages l).samples = (timedHistory .empty ps).filterMap (fun e => e.2.sample? l e.1) ∧
      (m.ages l).samples.length ≤ m.killCount l) ∧
    (∀ (s : BrowserState) (id : String), (s, .engine (.kill id)) ∈ h → id ∉ s.tabs.map Session.id →
      id ∈ s.customTabs.map Session.id →
      Seen.killLabel? (s, .engine (.kill id)) = some .background) ∧
    (∀ (s : BrowserState) (id : String) (now : Clock) (nanos : Int64),
      Seen.killAge? now (s, .engine (.kill id)) = some nanos →
      ∃ u linkedAt, u.engine.linkedAt = some linkedAt ∧
        nanos = mulClamped (subClamped now.millis linkedAt) Sinks.nanosPerMilli ∧
        s.Replaces (s.reduce (.engine (.kill id))) u { u with engine := ⟨none⟩ } ∧
        (s.reduce (.engine (.kill id))).findSession id = some { u with engine := ⟨none⟩ }) ∧
    ∀ (n m : Nat) (id : String) (s s' : BrowserState) (now : Clock), n < m →
      h[n]? = some (s, .engine (.kill id)) → h[m]? = some (s', .engine (.kill id)) →
      (Seen.killAge? now (s', .engine (.kill id))).isSome = true →
      ∃ k e, n < k ∧ k < m ∧ h[k]? = some e ∧ BrowserState.Renews id e.1 e.2 := by
  intro m h
  have hcounts : ∀ l, m.killCount l = h.countP (fun e => e.killLabel? = some l) ∧
      (m.ages l).samples = (timedHistory .empty ps).filterMap fun e => e.2.sample? l e.1 := by
    intro l
    obtain ⟨hcount, hsamples⟩ := Store.kills_playAll ⟨.empty, t⟩ ps l
    rw [show (⟨.empty, t⟩ : Store Telemetry).env.sinks.metrics = .empty from ht] at hcount hsamples
    refine ⟨hcount.trans ?_, hsamples.trans ?_⟩
    · cases l <;> exact Nat.zero_add _
    · cases l <;> rfl
  refine ⟨?_, fun l => ⟨(hcounts l).1, (hcounts l).2, ?_⟩, ?_, ?_, ?_⟩
  · rw [(hcounts .foreground).1, (hcounts .background).1]
    exact countP_killLabel? h
  · rw [(hcounts l).1, (hcounts l).2]
    exact length_samples_le .empty ps l
  · intro s id hmem htab hcustom
    obtain ⟨n, hn⟩ := List.getElem?_of_mem hmem
    have hwf : s.WellFormed := wellFormed_of_history BrowserState.wellFormed_empty hn
    exact killLabel?_of_customTab hwf htab hcustom
  · intro s id now nanos hage
    exact reduce_of_killAge? hage
  · intro n m id s s' now hlt hn hm hage
    refine (renews_between BrowserState.wellFormed_empty hlt hn rfl hm).resolve_left ?_
    intro hunlinked
    -- An age is told of a session that has an engine.
    obtain ⟨nanos, hnanos⟩ := Option.isSome_iff_exists.1 hage
    obtain ⟨u, hu, hlinked⟩ := Option.bind_eq_some_iff.1 hnanos
    rw [hunlinked u hu] at hlinked
    exact absurd hlinked (by simp)

/-- A tab stands before a custom tab of its id. Both have an engine and lose it, one after the
    other, as the tab is removed between the two kills; another kill finds none. -/
theorem kills_of_run_uncovered :
    let tab := Session.fresh "a" "https://a.test" false .epoch
    let custom := { tab with engine := ⟨some 7⟩ }
    let kill : BrowserAction := .engine (.kill "a")
    let actions : List BrowserAction :=
      [.tabList (.add tab true), .customTabList (.add custom), .engine (.link "a" 5), kill,
        .tabList .removeAllNormal, kill, kill, .engine (.kill "b")]
    let ps := actions.map fun a => Turn.mk ⟨9⟩ id a
    let t : Telemetry := ⟨⟨Database.blank, .unknown, .empty, ⟨0⟩, .refuse, []⟩, .empty⟩
    let m := (Store.playAll [Telemetry.middleware] ⟨.empty, t⟩ ps).value.env.sinks.metrics
    let h := history .empty (ps.map Turn.action)
    let s : BrowserState := ⟨[], [custom], none, .empty⟩
    m.killCount .foreground + m.killCount .background = 3 ∧
    m.killCount .foreground = 1 ∧ m.killCount .background = 2 ∧
    (m.ages .foreground).samples = [4000000] ∧ (m.ages .background).samples = [2000000] ∧
    (s, kill) ∈ h ∧ Seen.killLabel? (s, kill) = some .background ∧
    (∃ u linkedAt, u.engine.linkedAt = some linkedAt ∧
      2000000 = mulClamped (subClamped 9 linkedAt) Sinks.nanosPerMilli ∧
      s.Replaces (s.reduce kill) u { u with engine := ⟨none⟩ } ∧
      (s.reduce kill).findSession "a" = some { u with engine := ⟨none⟩ }) ∧
    ∃ k e, 3 < k ∧ k < 5 ∧ h[k]? = some e ∧ BrowserState.Renews "a" e.1 e.2 := by
  intro tab custom kill actions ps t m h s
  obtain ⟨hsum, hlabels, hcustom, hage, hbetween⟩ := kills_of_run t rfl ps
  have hmem : (s, kill) ∈ h := by decide
  obtain ⟨hcount, hsamples, -⟩ := hlabels .foreground
  obtain ⟨hcount', hsamples', -⟩ := hlabels .background
  refine ⟨hsum.trans (by decide), hcount.trans (by decide), hcount'.trans (by decide),
    hsamples.trans (by decide), hsamples'.trans (by decide), hmem,
    hcustom s "a" hmem (by decide) (by decide), hage s "a" ⟨9⟩ 2000000 (by decide), ?_⟩
  exact hbetween 3 5 "a" _ s ⟨9⟩ (by decide) rfl (by decide) (by decide)

end BrowserTelemetry
