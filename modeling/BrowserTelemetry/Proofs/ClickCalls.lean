import BrowserTelemetry.Proofs.AdClicks

/-!
# Calls of the sink for ads

The sink on its own, called with one redirect chain after the other on a table that may hold
anything: counts below zero, full ones, and some that are no longer numbers of 64 bits. What a call
does depends on the chain and on whether there is a table, and on nothing that the table holds
(`value_call`). So a run of calls is a fold of clicks, and **each row of the table is its first
value after as many clicks as there were for its name** (`rows_callAll`).
-/

namespace BrowserTelemetry
namespace Attribution

set_option autoImplicit false

variable {providers : List SearchProvider} {name : String} {c : RedirectChain} {db : Database}
  {table : SortedMap String StoredCount}

/-- A call of the sink: what it returns, and the database after it. A call that fails leaves the
    database alone. -/
def call (providers : List SearchProvider) (db : Database) (c : RedirectChain) :
    Logged (Except StorageError Unit × Database) := do
  match ← track providers db c.root c.chain with
  | .ok db => return (.ok (), db)
  | .error e => return (.error e, db)

/-- Calls, one after the other: what each returns, and the database after them all. -/
def callAll (providers : List SearchProvider) (db : Database) :
    List RedirectChain → Logged (List (Except StorageError Unit) × Database)
  | [] => return ([], db)
  | c :: rest => do
    let (result, db) ← call providers db c
    let (results, db) ← callAll providers db rest
    return (result :: results, db)

/-- Is the chain a click on an ad of any provider? -/
def IsClick (providers : List SearchProvider) (c : RedirectChain) : Prop :=
  ∃ name, IsAdClick providers name c

theorem isClick_iff :
    IsClick providers c ↔ ((AdSink.attribute providers).clickFor? c).isSome = true := by
  simp only [IsClick, ← AdSink.clickFor?_eq_some_iff, Option.isSome_iff_exists]

instance (providers : List SearchProvider) (c : RedirectChain) :
    Decidable (IsClick providers c) := decidable_of_iff _ isClick_iff.symm

/-! ## One call -/

/-- What a call comes to, whatever the table holds. -/
theorem value_call (providers : List SearchProvider) (db : Database) (c : RedirectChain) :
    (call providers db c).value =
      (if db.adClicks = none ∧ IsClick providers c then .error .database else .ok (),
        db.clicked ((AdSink.attribute providers).clickFor? c)) := by
  simp only [call, Logged.value_bind, value_track, isClick_iff]
  cases (AdSink.attribute providers).clickFor? c with
  | none => simp [Database.clicked]
  | some name =>
    cases htable : db.adClicks with
    | none => simp [Database.recordAdClick, Database.clicked_of_none htable, htable]
    | some table => simp [Database.recordAdClick_eq htable, Database.clicked, htable]

/-- With a table, a call that is a click for a name bumps the row of that name. -/
theorem value_call_of_click (htable : db.adClicks = some table) (h : IsAdClick providers name c) :
    (call providers db c).value =
      (.ok (), { db with adClicks := some (table.insert name (bump (table.get? name))) }) := by
  rw [value_call, AdSink.clickFor?_eq_some_iff.2 h, if_neg (by simp [htable]), Database.clicked,
    htable, Option.map_some]

theorem value_call_of_not_click (h : ¬ IsClick providers c) :
    (call providers db c).value = (.ok (), db) := by
  have hnone : (AdSink.attribute providers).clickFor? c = none := by
    simpa using mt isClick_iff.2 h
  rw [value_call, hnone, if_neg fun hclick => h hclick.2, Database.clicked]

/-! ## Runs of calls -/

/-- Without a table those calls fail that are clicks, and nothing changes. -/
theorem value_callAll_of_none (htable : db.adClicks = none) (calls : List RedirectChain) :
    (callAll providers db calls).value =
      (calls.map fun c => if IsClick providers c then .error .database else .ok (), db) := by
  induction calls with
  | nil => rfl
  | cons c rest ih =>
    have hcall : (call providers db c).value =
        (if IsClick providers c then .error .database else .ok (), db) := by
      rw [value_call, Database.clicked_of_none htable]
      simp [htable]
    simp only [callAll, Logged.value_bind, hcall, ih]
    rfl

/-- With a table no call fails, and the calls add up row by row. -/
theorem rows_callAll (providers : List SearchProvider) (htable : db.adClicks = some table)
    (calls : List RedirectChain) :
    ∃ table', (callAll providers db calls).value =
        (calls.map fun _ => .ok (), { db with adClicks := some table' }) ∧
      ∀ name, table'.get? name =
        afterClicks (table.get? name) (calls.countP (IsAdClick providers name ·)) := by
  induction calls generalizing db table with
  | nil => exact ⟨table, by rw [← htable]; rfl, fun name => rfl⟩
  | cons c rest ih =>
    obtain ⟨table₁, hclicked, hrows₁⟩ := Database.clicked_clickFor? htable providers c
    have hcall : (call providers db c).value = (.ok (), { db with adClicks := some table₁ }) := by
      rw [value_call, hclicked, if_neg (by simp [htable])]
    have htable₁ : { db with adClicks := some table₁ }.adClicks = some table₁ := rfl
    obtain ⟨table', hrest, hrows⟩ := ih htable₁
    refine ⟨table', ?_, fun name => ?_⟩
    · simp only [callAll, Logged.value_bind, hcall, hrest]
      rfl
    · -- The first click is taken from the row that the others find.
      rw [hrows, hrows₁, List.countP_cons]
      by_cases hclick : IsAdClick providers name c
      · simp [hclick, afterClicks_bump]
      · simp [hclick]

/-- **Ad clicks, call by call.** With a table of ad clicks, of whatever counts, a call of the sink
    returns without an error and either is no click and changes nothing, or is a click for one name
    and adds one to the row of that name. So after any calls, of which `k` were clicks for a name
    that began with a count of `c` (0 without a row),

    * the row is as it was if `k` is zero;
    * as long as `c + k` fits in 64 bits the count is read as that number, or as 0 if that is
      negative;
    * beyond that it cannot be read;

    and the other tables are as they were. Without a table of ad clicks those calls fail that are
    clicks, and nothing changes. -/
theorem calls_add_clicks (providers : List SearchProvider) (db : Database) :
    (∀ table, db.adClicks = some table → ∀ c,
      (¬ IsClick providers c ∧ (call providers db c).value = (.ok (), db)) ∨
      ∃ name, IsAdClick providers name c ∧ (∀ other, IsAdClick providers other c → other = name) ∧
        (call providers db c).value =
          (.ok (), { db with adClicks := some (table.insert name (bump (table.get? name))) })) ∧
    (∀ table, db.adClicks = some table → ∀ calls, ∃ table',
      let db' : Database := { db with adClicks := some table' }
      (callAll providers db calls).value = (calls.map fun _ => .ok (), db') ∧
      ∀ name,
        let k := calls.countP (IsAdClick providers name ·)
        (k = 0 → table'.get? name = table.get? name) ∧
        ∀ c, rowCount? (table.get? name) = some c →
          (c + k ≤ Int64.maxValue.toInt → db'.adClicksOf name = .ok (c + k).toNat) ∧
          (Int64.maxValue.toInt < c + k → db'.adClicksOf name = .error .database)) ∧
    (db.adClicks = none → ∀ calls,
      (callAll providers db calls).value =
        (calls.map fun c => if IsClick providers c then .error .database else .ok (), db)) := by
  refine ⟨fun table htable c => ?_, fun table htable calls => ?_, value_callAll_of_none⟩
  · by_cases hclick : IsClick providers c
    · obtain ⟨name, hname⟩ := hclick
      exact .inr ⟨name, hname, fun other hother => hother.unique hname,
        value_call_of_click htable hname⟩
    · exact .inl ⟨hclick, value_call_of_not_click hclick⟩
  · obtain ⟨table', hcalls, hrows⟩ := rows_callAll providers htable calls
    refine ⟨table', hcalls, fun name => ⟨fun hnone => ?_, fun c hc => ⟨fun hfits => ?_, ?_⟩⟩⟩
    · rw [hrows, hnone, afterClicks]
    · refine Database.adClicksOf_eq rfl ?_
      rw [hrows, rowCount?_afterClicks hc hfits]
    · intro hbeyond
      refine Database.adClicksOf_eq_error rfl ?_
      rw [hrows, rowCount?_afterClicks_eq_none hc hbeyond]

/-- Two providers share a name, whose count fits for one more click; a third is in debt; a fourth is
    never asked, for the page is served by the first. One root is no address. -/
theorem calls_add_clicks_to_the_brim :
    let providers : List SearchProvider :=
      [⟨"local", ["[::1]"], ["[::1]/aclk"]⟩, ⟨"late", ["[::1]"], ["[::1]/aclk"]⟩,
        ⟨"local", ["[::2]"], ["[::2]/aclk"]⟩, ⟨"debt", ["[::3]"], ["[::3]/aclk"]⟩]
    let table : SortedMap String StoredCount :=
      (SortedMap.empty.insert "local" (.integer (Int64.maxValue - 1))).insert "debt" (.integer (-3))
    let db : Database := ⟨none, some table, none⟩
    let click := fun host =>
      RedirectChain.mk ("http://" ++ host ++ "/search") ["?", "http://" ++ host ++ "/aclk?q=1"]
    let calls := [click "[::1]", click "[::3]", ⟨"?", ["http://[::1]/aclk"]⟩]
    let after := fun calls => (callAll providers db calls).value
    ((after calls).2.adClicksOf "local" = .ok Int64.maxValue.toInt.toNat ∧
      (after calls).2.adClicksOf "debt" = .ok 0 ∧ (after calls).2.adClicksOf "late" = .ok 0) ∧
    (after (calls ++ [click "[::2]"])).2.adClicksOf "local" = .error .database ∧
    (callAll providers .blank calls).value =
      ([.error .database, .error .database, .ok ()], .blank) := by
  intro providers table db click calls after
  have hclicks : calls.countP (IsAdClick providers "local" ·) = 1 ∧
      calls.countP (IsAdClick providers "debt" ·) = 1 ∧
      calls.countP (IsAdClick providers "late" ·) = 0 ∧
      (calls ++ [click "[::2]"]).countP (IsAdClick providers "local" ·) = 2 := by
    decide +kernel
  obtain ⟨hlocal, hdebt, hlate, hbeyond⟩ := hclicks
  obtain ⟨-, hruns, -⟩ := calls_add_clicks providers db
  obtain ⟨table₁, hcalls₁, hrows₁⟩ := hruns table rfl calls
  obtain ⟨table₂, hcalls₂, hrows₂⟩ := hruns table rfl (calls ++ [click "[::2]"])
  refine ⟨⟨?_, ?_, ?_⟩, ?_, ?_⟩
  · have h := ((hrows₁ "local").2 _ rfl).1
    rw [hlocal] at h
    simp only [after, hcalls₁]
    exact h (by decide)
  · have h := ((hrows₁ "debt").2 _ rfl).1
    rw [hdebt] at h
    simp only [after, hcalls₁]
    exact h (by decide)
  · have h := ((hrows₁ "late").2 _ rfl).1
    rw [hlate] at h
    simp only [after, hcalls₁]
    exact h (by decide)
  · have h := ((hrows₂ "local").2 _ rfl).2
    rw [hbeyond] at h
    simp only [after, hcalls₂]
    exact h (by decide)
  · rw [(calls_add_clicks providers .blank).2.2 rfl calls]
    decide +kernel

end Attribution
end BrowserTelemetry
