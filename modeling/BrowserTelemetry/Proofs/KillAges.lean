import BrowserTelemetry.Proofs.EngineKills

/-!
# The age of a killed engine

An age is worked out in two steps, the milliseconds since the engine was linked and then their
nanoseconds, and each step by itself is brought into the range of 64 bits. The difference of two
readings can need a 65th bit, and its nanoseconds twenty more.

**Both steps come to one exact age, brought into range once** (`engineNanos_eq`): a difference that
is out of range is still so when it is multiplied, and beyond the same end. What else there is to
say of ages is said of whole numbers, and carried over (`clamp_le_clamp`, `sign_clamp`).
-/

namespace BrowserTelemetry

set_option autoImplicit false

/-! ## Bringing into range -/

theorem clamp_of_le {i : Int} (h : i ≤ Int64.minValue.toInt) : clamp i = Int64.minValue := by
  have hends : Int64.minValue.toInt ≤ Int64.maxValue.toInt := by decide
  rw [← Int64.toInt_inj, toInt_clamp]
  omega

theorem clamp_of_ge {i : Int} (h : Int64.maxValue.toInt ≤ i) : clamp i = Int64.maxValue := by
  have hends : Int64.minValue.toInt ≤ Int64.maxValue.toInt := by decide
  rw [← Int64.toInt_inj, toInt_clamp]
  omega

theorem clamp_le_clamp {i j : Int} (h : i ≤ j) : clamp i ≤ clamp j := by
  rw [Int64.le_iff_toInt_le, toInt_clamp, toInt_clamp]
  omega

theorem sign_clamp (i : Int) : (clamp i).toInt.sign = i.sign := by
  have hmin : Int64.minValue.toInt < 0 := by decide
  have hmax : 0 < Int64.maxValue.toInt := by decide
  rw [toInt_clamp]
  rcases Int.lt_trichotomy i 0 with hneg | rfl | hpos
  · rw [Int.sign_eq_neg_one_of_neg hneg, Int.sign_eq_neg_one_of_neg (by omega)]
  · rw [Int.min_eq_right (Int.le_of_lt hmax), Int.max_eq_right (Int.le_of_lt hmin)]
  · rw [Int.sign_eq_one_of_pos hpos, Int.sign_eq_one_of_pos (by omega)]

/-- To bring a factor into range before it is multiplied makes no difference. -/
theorem clamp_clamp_mul (i : Int) {k : Int} (hk : 1 ≤ k) :
    clamp ((clamp i).toInt * k) = clamp (i * k) := by
  have hk0 : 0 ≤ k := Int.le_trans (by decide) hk
  by_cases hlow : i < Int64.minValue.toInt
  · -- Both products are below the range: its lower end is negative, and moves away from it.
    have hend : Int64.minValue.toInt * k ≤ Int64.minValue.toInt := by
      calc Int64.minValue.toInt * k
          ≤ Int64.minValue.toInt * 1 := Int.mul_le_mul_of_nonpos_left (by decide) hk
        _ = Int64.minValue.toInt := Int.mul_one _
    have hprod : i * k ≤ Int64.minValue.toInt * k :=
      Int.mul_le_mul_of_nonneg_right (Int.le_of_lt hlow) hk0
    rw [clamp_of_le (Int.le_of_lt hlow), clamp_of_le hend, clamp_of_le (Int.le_trans hprod hend)]
  · by_cases hhigh : Int64.maxValue.toInt < i
    · have hend : Int64.maxValue.toInt ≤ Int64.maxValue.toInt * k := by
        calc Int64.maxValue.toInt
            = Int64.maxValue.toInt * 1 := (Int.mul_one _).symm
          _ ≤ Int64.maxValue.toInt * k := Int.mul_le_mul_of_nonneg_left hk (by decide)
      have hprod : Int64.maxValue.toInt * k ≤ i * k :=
        Int.mul_le_mul_of_nonneg_right (Int.le_of_lt hhigh) hk0
      rw [clamp_of_ge (Int.le_of_lt hhigh), clamp_of_ge hend, clamp_of_ge (Int.le_trans hend hprod)]
    · rw [toInt_clamp_of_mem (Int.not_lt.1 hlow) (Int.not_lt.1 hhigh)]

/-! ## Ages -/

/-- The nanoseconds from the time an engine was linked to a reading of the clock, both in
    milliseconds. -/
def engineNanos (now linkedAt : Int64) : Int64 :=
  mulClamped (subClamped now linkedAt) Sinks.nanosPerMilli

theorem engineNanos_eq (now linkedAt : Int64) :
    engineNanos now linkedAt = clamp ((now.toInt - linkedAt.toInt) * 1000000) :=
  clamp_clamp_mul (now.toInt - linkedAt.toInt) (by decide)

theorem engineNanos_le {now later linkedAt earlier : Int64} (hnow : now ≤ later)
    (hlinked : earlier ≤ linkedAt) : engineNanos now linkedAt ≤ engineNanos later earlier := by
  rw [Int64.le_iff_toInt_le] at hnow hlinked
  rw [engineNanos_eq, engineNanos_eq]
  apply clamp_le_clamp
  omega

theorem sign_engineNanos (now linkedAt : Int64) :
    (engineNanos now linkedAt).toInt.sign = (now.toInt - linkedAt.toInt).sign := by
  rw [engineNanos_eq, sign_clamp, Int.sign_mul, show (1000000 : Int).sign = 1 by decide,
    Int.mul_one]

/-! ## Ages that are recorded -/

theorem Seen.killAge?_eq_some_iff {s : BrowserState} {id : String} {now : Clock} {nanos : Int64} :
    Seen.killAge? now (s, .engine (.kill id)) = some nanos ↔
      ∃ u linkedAt, s.findSession id = some u ∧ u.engine.linkedAt = some linkedAt ∧
        nanos = engineNanos now.millis linkedAt := by
  simp only [Seen.killAge?, Option.bind_eq_some_iff, Option.map_eq_some_iff, engineNanos]
  constructor
  · rintro ⟨u, hu, linkedAt, hlinked, rfl⟩
    exact ⟨u, linkedAt, hu, hlinked, rfl⟩
  · rintro ⟨u, linkedAt, hu, hlinked, rfl⟩
    exact ⟨u, hu, linkedAt, hlinked, rfl⟩

namespace Store

/-- One kill: the age goes under the label of the session, and nothing under the other one. -/
theorem samples_play_kill (s : Store Telemetry) (meddle : Database → Database) {id : String}
    {u : Session} {now linkedAt : Int64} (hu : s.state.findSession id = some u)
    (hlinked : u.engine.linkedAt = some linkedAt) (l : KillLabel) :
    ((play [Telemetry.middleware] s
        ⟨⟨now⟩, meddle, .engine (.kill id)⟩).value.env.sinks.metrics.ages l).samples =
      (s.env.sinks.metrics.ages l).samples ++
        if l = .ofSelected (s.state.selected = some id) then [engineNanos now linkedAt]
        else [] := by
  have hage : Seen.killAge? ⟨now⟩ (s.state, .engine (.kill id)) = some (engineNanos now linkedAt) :=
    Seen.killAge?_eq_some_iff.2 ⟨u, linkedAt, hu, hlinked, rfl⟩
  rw [(kills_play s ⟨⟨now⟩, meddle, .engine (.kill id)⟩ l).2, Seen.sample?, Seen.killLabel?_kill,
    hu, hage, Option.map_some, BrowserState.id_of_findSession hu]
  by_cases hl : l = .ofSelected (s.state.selected = some id)
  · rw [if_pos hl, if_pos (congrArg some hl.symm)]
    rfl
  · rw [if_neg hl, if_neg fun heq => hl (Option.some.inj heq).symm]
    rfl

/-- A whole run: whatever age was recorded was that of an engine at its kill. -/
theorem of_mem_samples_playAll {s : Store Telemetry} (hs : s.env.sinks.metrics = .empty)
    {ps : List Turn} {l : KillLabel} {nanos : Int64}
    (h : nanos ∈ ((playAll [Telemetry.middleware] s ps).value.env.sinks.metrics.ages l).samples) :
    ∃ now state id u linkedAt,
      (now, (state, .engine (.kill id))) ∈ timedHistory s.state ps ∧
      state.findSession id = some u ∧ u.engine.linkedAt = some linkedAt ∧
      nanos = engineNanos now.millis linkedAt := by
  have hnone : (s.env.sinks.metrics.ages l).samples = [] := by
    rw [hs]
    cases l <;> rfl
  rw [(kills_playAll s ps l).2, hnone, List.nil_append] at h
  obtain ⟨⟨now, state, a⟩, hmem, hsample⟩ := List.mem_filterMap.1 h
  obtain ⟨hlabel, hage⟩ := Option.ite_none_right_eq_some.1 hsample
  -- Nothing but a kill has a label.
  obtain ⟨id, rfl⟩ : ∃ id, a = .engine (.kill id) := by
    by_contra hkill
    rw [Seen.killLabel?_of_ne state fun id heq => hkill ⟨id, heq⟩] at hlabel
    cases hlabel
  obtain ⟨u, linkedAt, hu, hlinked, hnanos⟩ := Seen.killAge?_eq_some_iff.1 hage
  exact ⟨now, state, id, u, linkedAt, hmem, hu, hlinked, hnanos⟩

end Store

/-- **Recorded ages are exact**, but for the range of 64 bits. For every reading of the clock and
    every time of linking

    * the nanoseconds are those of the exact difference, brought into range once;
    * they are negative, zero or positive as the difference is;
    * they do not get less when the clock goes on, nor more when the engine was linked later.

    They are what a kill records of the session it finds, in every state of a store and whatever has
    become of its database, and no run records anything else. -/
theorem recorded_ages_exact :
    (∀ now linkedAt, (engineNanos now linkedAt).toInt =
      max Int64.minValue.toInt
        (min Int64.maxValue.toInt ((now.toInt - linkedAt.toInt) * 1000000))) ∧
    (∀ now linkedAt, (engineNanos now linkedAt).toInt.sign = (now.toInt - linkedAt.toInt).sign) ∧
    (∀ now later linkedAt, now ≤ later → engineNanos now linkedAt ≤ engineNanos later linkedAt) ∧
    (∀ now linkedAt later, linkedAt ≤ later → engineNanos now later ≤ engineNanos now linkedAt) ∧
    (∀ (s : Store Telemetry) (meddle : Database → Database) (id : String) (u : Session)
      (now linkedAt : Int64), s.state.findSession id = some u → u.engine.linkedAt = some linkedAt →
      ∀ l, ((Store.play [Telemetry.middleware] s
          ⟨⟨now⟩, meddle, .engine (.kill id)⟩).value.env.sinks.metrics.ages l).samples =
        (s.env.sinks.metrics.ages l).samples ++
          if l = .ofSelected (s.state.selected = some id) then [engineNanos now linkedAt] else []) ∧
    ∀ (s : Store Telemetry) (ps : List Turn) (l : KillLabel) (nanos : Int64),
      s.env.sinks.metrics = .empty →
      nanos ∈ ((Store.playAll [Telemetry.middleware] s ps).value.env.sinks.metrics.ages l).samples →
      ∃ now state id u linkedAt, (now, (state, .engine (.kill id))) ∈ timedHistory s.state ps ∧
        state.findSession id = some u ∧ u.engine.linkedAt = some linkedAt ∧
        nanos = engineNanos now.millis linkedAt := by
  refine ⟨fun now linkedAt => ?_, sign_engineNanos, fun now later linkedAt hnow => ?_,
    fun now linkedAt later hlinked => ?_, ?_, ?_⟩
  · rw [engineNanos_eq, toInt_clamp]
  · exact engineNanos_le hnow (Int64.le_refl linkedAt)
  · exact engineNanos_le (Int64.le_refl now) hlinked
  · intro s meddle id u now linkedAt hu hlinked l
    exact Store.samples_play_kill s meddle hu hlinked l
  · intro s ps l nanos hs hmem
    exact Store.of_mem_samples_playAll hs hmem

/-- The engine was linked at the first reading there is and is killed at the last one: the
    difference has 65 bits, and both steps are out of range. -/
theorem recorded_ages_exact_at_both_ends :
    let u : Session :=
      { Session.fresh "a" "https://a.test" false .epoch with engine := ⟨some .minValue⟩ }
    let s : Store Telemetry :=
      ⟨.withTabs [u] (some "a"), ⟨⟨Database.blank, .unknown, .empty, ⟨0⟩, .refuse, []⟩, .empty⟩⟩
    let p : Turn := ⟨⟨.maxValue⟩, id, .engine (.kill "a")⟩
    engineNanos (.maxValue - 1) .minValue ≤ engineNanos .maxValue .minValue ∧
    engineNanos .maxValue .maxValue ≤ engineNanos .maxValue .minValue ∧
    ((Store.play [Telemetry.middleware] s p).value.env.sinks.metrics.ages .foreground).samples =
      [Int64.maxValue] ∧
    ∃ now state id u linkedAt, (now, (state, .engine (.kill id))) ∈ timedHistory s.state [p] ∧
      state.findSession id = some u ∧ u.engine.linkedAt = some linkedAt ∧
      Int64.maxValue = engineNanos now.millis linkedAt := by
  intro u s p
  obtain ⟨-, -, hnow, hlinked, hkill, hrun⟩ := recorded_ages_exact
  have hsamples : ((Store.play [Telemetry.middleware] s p).value.env.sinks.metrics.ages
      .foreground).samples = [Int64.maxValue] :=
    (hkill s id "a" u .maxValue .minValue rfl rfl .foreground).trans (by decide)
  refine ⟨hnow _ _ _ (by decide), hlinked _ _ _ (by decide), hsamples, ?_⟩
  exact hrun s [p] .foreground .maxValue rfl (hsamples ▸ List.mem_singleton_self _)

end BrowserTelemetry
