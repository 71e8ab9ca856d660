import BrowserTelemetry.Proofs.TabCount

/-!
# The cache of the setting

The number of open tabs is kept twice, in a row of the settings and in a cache, and the two are
changed one after the other, with a write between them that may fail. The cache belongs to an
object, and the clones of an object share it (`Handle.Clones`).

The two copies agree in one direction: **a number that the cache knows is the one that the row
tells, if the row tells any** (`Desk.Coherent`). The other direction fails as soon as the table is
dropped, so what a handle answers from then on can be told from the history of the calls alone.
-/

namespace BrowserTelemetry

set_option autoImplicit false

/-! ## Objects and clones -/

/-- A handle on the setting, with the place of the cache that it refers to. -/
structure Handle where
  place : Nat
  deriving DecidableEq, Repr, Inhabited

/-- A clone refers to the cache of the original. -/
def Handle.clone (h : Handle) : Handle := ⟨h.place⟩

/-- A handle, its clones, the clones of those, and so on. -/
inductive Handle.Clones (h : Handle) : Handle → Prop
  | self : h.Clones h
  | clone {k : Handle} (hk : h.Clones k) : h.Clones k.clone

theorem Handle.Clones.place {h k : Handle} (hk : h.Clones k) : k.place = h.place := by
  induction hk with
  | self => rfl
  | clone _ ih => exact ih

/-- What the handles of a program work on: one database, and the cache at each place. -/
structure Desk where
  database : Database
  caches : Nat → OpenTabs

/-- Something that happens to the setting or to its database. -/
inductive DeskStep where
  | read (h : Handle)
  | write (h : Handle) (n : Nat)
  /-- Somebody else has been at the database. -/
  | outside (f : Database → Database)

/-- Between two databases: the row of the setting is as it was, or the whole table is gone. -/
def Database.SparesCount (db db' : Database) : Prop :=
  db'.settings = none ∨
    ∃ table table', db.settings = some table ∧ db'.settings = some table' ∧
      table'.get? OpenTabs.key = table.get? OpenTabs.key

/-- The number that a database tells: that of the stored text, or 0 without a row. -/
def Database.TellsCount (db : Database) (n : Nat) : Prop :=
  ∃ table, db.settings = some table ∧
    (table.get? OpenTabs.key = none ∧ n = 0 ∨
      ∃ text, table.get? OpenTabs.key = some (.text text) ∧ OpenTabs.parse text = some n)

/-- The step is a call through a clone of the handle, or leaves the row of the setting alone. -/
def DeskStep.Through (h : Handle) : DeskStep → Prop
  | .read k | .write k _ => h.Clones k
  | .outside f => ∀ db : Database, db.SparesCount (f db)

namespace Desk

variable {d : Desk} {h k : Handle}

/-- Read the setting through a handle. -/
def read (d : Desk) (h : Handle) : Except SettingError Nat × Desk :=
  let (r, cache) := (d.caches h.place).read d.database
  (r, { d with caches := Function.update d.caches h.place cache })

/-- Set the setting through a handle. -/
def write (d : Desk) (h : Handle) (n : Nat) : Except StorageError Unit × Desk :=
  match OpenTabs.write d.database n with
  | .ok (cache, database) => (.ok (), ⟨database, Function.update d.caches h.place cache⟩)
  | .error e => (.error e, d)

/-- One step. -/
def step (d : Desk) : DeskStep → Desk
  | .read h => (d.read h).2
  | .write h n => (d.write h n).2
  | .outside f => { d with database := f d.database }

/-- Steps, one after the other. -/
def run (d : Desk) (steps : List DeskStep) : Desk := steps.foldl step d

/-- The number that a step sets, if it does and succeeds. -/
def accepts? (d : Desk) : DeskStep → Option Nat
  | .write h n => if (d.write h n).1 = .ok () then some n else none
  | .read _ | .outside _ => none

/-- The numbers that are set in a run, in order; a set that fails does not count. -/
def accepted (d : Desk) : List DeskStep → List Nat
  | [] => []
  | s :: rest => (d.accepts? s).toList ++ (d.step s).accepted rest

theorem run_concat (d : Desk) (steps : List DeskStep) (s : DeskStep) :
    d.run (steps ++ [s]) = (d.run steps).step s := by
  rw [run, List.foldl_append]
  rfl

theorem accepted_concat (d : Desk) (steps : List DeskStep) (s : DeskStep) :
    d.accepted (steps ++ [s]) = d.accepted steps ++ ((d.run steps).accepts? s).toList := by
  induction steps generalizing d with
  | nil => simp [accepted, run]
  | cons t rest ih =>
    rw [List.cons_append, accepted, ih, accepted, List.append_assoc]
    rfl

/-! ## One call -/

theorem read_of_known {n : Nat} (h : d.caches k.place = ⟨some n⟩) : d.read k = (.ok n, d) := by
  have hsame : Function.update d.caches k.place ⟨some n⟩ = d.caches := by
    rw [← h, Function.update_eq_self]
  simp [read, OpenTabs.read, h, hsame]

theorem read_of_stored {n : Nat} (h : d.caches k.place = ⟨none⟩)
    (hstored : OpenTabs.stored d.database = .ok n) :
    d.read k = (.ok n, { d with caches := Function.update d.caches k.place ⟨some n⟩ }) := by
  simp [read, OpenTabs.read, h, hstored]

theorem read_of_failed {e : SettingError} (h : d.caches k.place = ⟨none⟩)
    (hstored : OpenTabs.stored d.database = .error e) : d.read k = (.error e, d) := by
  have hsame : Function.update d.caches k.place ⟨none⟩ = d.caches := by
    rw [← h, Function.update_eq_self]
  simp [read, OpenTabs.read, h, hstored, hsame]

theorem write_of_table {table : SortedMap String StoredValue} (h : d.database.settings = some table)
    (n : Nat) :
    d.write k n = (.ok (),
      ⟨{ d.database with settings := some (table.insert OpenTabs.key (.text (OpenTabs.print n))) },
        Function.update d.caches k.place ⟨some n⟩⟩) := by
  simp [write, OpenTabs.write, Database.setSetting, Database.putSetting, h]

theorem write_of_no_table (h : d.database.settings = none) (n : Nat) :
    d.write k n = (.error .database, d) := by
  simp [write, OpenTabs.write, Database.setSetting, Database.putSetting, h]

end Desk

namespace Database

variable {db db' : Database} {n m : Nat}

theorem stored_eq_ok_iff : OpenTabs.stored db = .ok n ↔ db.TellsCount n := by
  unfold OpenTabs.stored getSetting TellsCount
  cases db.settings with
  | none => simp
  | some table =>
    cases hrow : table.get? OpenTabs.key with
    | none => simp [hrow, eq_comm]
    | some value =>
      cases value with
      | blob => simp [hrow]
      | text text => cases hparse : OpenTabs.parse text <;> simp [hrow, hparse]

theorem TellsCount.unique (h : db.TellsCount n) (h' : db.TellsCount m) : m = n :=
  Except.ok.inj ((stored_eq_ok_iff.2 h').symm.trans (stored_eq_ok_iff.2 h))

theorem SparesCount.tellsCount (h : db.SparesCount db') (htells : db'.TellsCount n) :
    db.TellsCount n := by
  obtain ⟨table, htable, hrow⟩ := htells
  rcases h with hnone | ⟨old, new, hold, hnew, hsame⟩
  · exact absurd (hnone.symm.trans htable) nofun
  · obtain rfl := Option.some.inj (hnew.symm.trans htable)
    exact ⟨old, hold, hsame ▸ hrow⟩

/-- Where a number has just been stored no other number can be read. -/
theorem eq_of_tellsCount_insert {table : SortedMap String StoredValue}
    (h : db.settings = some (table.insert OpenTabs.key (.text (OpenTabs.print n))))
    (htells : db.TellsCount m) : m = n := by
  obtain ⟨table', htable', hrow⟩ := htells
  obtain rfl := Option.some.inj (h.symm.trans htable')
  rw [SortedMap.get?_insert_self] at hrow
  rcases hrow with ⟨hnone, -⟩ | ⟨text, htext, hparse⟩
  · exact absurd hnone nofun
  · obtain rfl : OpenTabs.print n = text := by simpa using htext
    rw [OpenTabs.parse_print_eq_filter, Option.filter_eq_some_iff] at hparse
    exact (Option.some.inj hparse.1).symm

end Database

/-! ## Runs -/

namespace Desk

variable {d : Desk} {h k : Handle} {db₀ : Database} {sets : List Nat}

/-- What the cache of a handle has to do with the row, with what was stored at first and with what
    has been set since. -/
structure Coherent (db₀ : Database) (h : Handle) (sets : List Nat) (d : Desk) : Prop where
  /-- A number in the cache is the only one that the row can tell. -/
  row : ∀ n m, d.caches h.place = ⟨some n⟩ → d.database.TellsCount m → m = n
  /-- It is the last that was set, or else the first that was stored. -/
  known : ∀ n, d.caches h.place = ⟨some n⟩ → sets.getLast? = some n ∨ sets = [] ∧ db₀.TellsCount n
  /-- As long as the cache knows nothing, nothing has been set. -/
  unknown : d.caches h.place = ⟨none⟩ → sets = [] ∧ ∀ n, d.database.TellsCount n → db₀.TellsCount n

theorem coherent_of_new (db : Database) {caches : Nat → OpenTabs} (h : caches k.place = .unknown) :
    Coherent db k [] ⟨db, caches⟩ where
  row := by
    intro n m hknown
    exact absurd (h.symm.trans hknown) nofun
  known := by
    intro n hknown
    exact absurd (h.symm.trans hknown) nofun
  unknown := by
    intro _
    exact ⟨rfl, fun _ htells => htells⟩

theorem Coherent.read (hd : Coherent db₀ h sets d) (hk : h.Clones k) :
    Coherent db₀ h sets (d.read k).2 := by
  have hplace := hk.place
  rcases hcache : d.caches k.place with ⟨_ | n⟩
  · cases hstored : OpenTabs.stored d.database with
    | error e =>
      rw [read_of_failed hcache hstored]
      exact hd
    | ok n =>
      -- The cache is filled with the number that the row tells.
      rw [read_of_stored hcache hstored]
      rw [hplace] at hcache
      have htells : d.database.TellsCount n := Database.stored_eq_ok_iff.1 hstored
      obtain ⟨hsets, hfirst⟩ := hd.unknown hcache
      refine ⟨?_, ?_, ?_⟩ <;> simp only [hplace, Function.update_self]
      · intro _ m hn hm
        cases hn
        exact htells.unique hm
      · intro _ hn
        cases hn
        exact .inr ⟨hsets, hfirst n htells⟩
      · exact nofun
  · rw [read_of_known hcache]
    exact hd

theorem Coherent.write (hd : Coherent db₀ h sets d) (hk : h.Clones k) (n : Nat) :
    Coherent db₀ h (sets ++ (d.accepts? (.write k n)).toList) (d.write k n).2 := by
  cases htable : d.database.settings with
  | none =>
    rw [accepts?, write_of_no_table htable]
    simpa using hd
  | some table =>
    rw [accepts?, write_of_table htable, if_pos rfl]
    refine ⟨?_, ?_, ?_⟩ <;> simp only [hk.place, Function.update_self]
    · intro _ m hn hm
      cases hn
      exact Database.eq_of_tellsCount_insert rfl hm
    · intro _ hn
      cases hn
      exact .inl (by simp)
    · intro hnone
      cases hnone

theorem Coherent.outside (hd : Coherent db₀ h sets d) {f : Database → Database}
    (hf : ∀ db : Database, db.SparesCount (f db)) :
    Coherent db₀ h sets { d with database := f d.database } where
  row := by
    intro n m hn hm
    exact hd.row n m hn ((hf d.database).tellsCount hm)
  known := hd.known
  unknown := by
    intro hnone
    obtain ⟨hsets, hfirst⟩ := hd.unknown hnone
    exact ⟨hsets, fun n hn => hfirst n ((hf d.database).tellsCount hn)⟩

theorem Coherent.step (hd : Coherent db₀ h sets d) {s : DeskStep} (hs : s.Through h) :
    Coherent db₀ h (sets ++ (d.accepts? s).toList) (d.step s) := by
  cases s with
  | read k =>
    rw [accepts?, Option.toList_none, List.append_nil]
    exact hd.read hs
  | write k n => exact hd.write hs n
  | outside f =>
    rw [accepts?, Option.toList_none, List.append_nil]
    exact hd.outside hs

theorem coherent_run (db : Database) {caches : Nat → OpenTabs} (hnew : caches h.place = .unknown)
    {steps : List DeskStep} (hsteps : ∀ s ∈ steps, s.Through h) :
    Coherent db h (accepted ⟨db, caches⟩ steps) (run ⟨db, caches⟩ steps) := by
  induction steps using List.reverseRecOn with
  | nil => exact coherent_of_new db hnew
  | append_singleton steps s ih =>
    rw [run_concat, accepted_concat]
    exact (ih fun t ht => hsteps t (List.mem_append_left _ ht)).step (hsteps s (by simp))

/-- A read changes nothing when it fails. -/
theorem read_of_error {e : SettingError} (h : (d.read k).1 = .error e) : (d.read k).2 = d := by
  rcases hcache : d.caches k.place with ⟨_ | n⟩
  · cases hstored : OpenTabs.stored d.database with
    | error e' => rw [read_of_failed hcache hstored]
    | ok n =>
      rw [read_of_stored hcache hstored] at h
      exact absurd h nofun
  · rw [read_of_known hcache] at h
    exact absurd h nofun

/-- A write changes nothing when it fails. -/
theorem write_of_error {e : StorageError} {n : Nat} (h : (d.write k n).1 = .error e) :
    (d.write k n).2 = d := by
  cases htable : d.database.settings with
  | none => rw [write_of_no_table htable]
  | some table =>
    rw [write_of_table htable] at h
    exact absurd h nofun

/-- What a handle answers, once the caches and the row are coherent. -/
theorem Coherent.read_of_getLast? (hd : Coherent db₀ h sets d) (hk : h.Clones k) {n : Nat}
    (hlast : sets.getLast? = some n) : (d.read k).1 = .ok n := by
  rcases hcache : d.caches h.place with ⟨_ | m⟩
  · obtain ⟨hsets, -⟩ := hd.unknown hcache
    exact absurd (hsets ▸ hlast) nofun
  · rw [read_of_known (hk.place ▸ hcache)]
    rcases hd.known m hcache with hm | ⟨hsets, -⟩
    · rw [Option.some.inj (hm.symm.trans hlast)]
    · exact absurd (hsets ▸ hlast) nofun

theorem Coherent.tellsCount_of_read (hd : Coherent db₀ h sets d) (hk : h.Clones k) {n : Nat}
    (hsets : sets = []) (hread : (d.read k).1 = .ok n) : db₀.TellsCount n := by
  rcases hcache : d.caches h.place with ⟨_ | m⟩
  · cases hstored : OpenTabs.stored d.database with
    | error e =>
      rw [read_of_failed (hk.place ▸ hcache) hstored] at hread
      exact absurd hread nofun
    | ok m =>
      rw [read_of_stored (hk.place ▸ hcache) hstored] at hread
      obtain rfl := Except.ok.inj hread
      exact (hd.unknown hcache).2 m (Database.stored_eq_ok_iff.1 hstored)
  · rw [read_of_known (hk.place ▸ hcache)] at hread
    obtain rfl := Except.ok.inj hread
    rcases hd.known m hcache with hm | ⟨-, htells⟩
    · exact absurd (hsets ▸ hm) nofun
    · exact htells

/-- What a new object can read, every handle answers. -/
theorem Coherent.read_of_fresh (hd : Coherent db₀ h sets d) (hk : h.Clones k) {n : Nat}
    (hfresh : (OpenTabs.unknown.read d.database).1 = .ok n) : (d.read k).1 = .ok n := by
  have hstored : OpenTabs.stored d.database = .ok n := by
    cases hstored : OpenTabs.stored d.database with
    | error e => simp [OpenTabs.read, OpenTabs.unknown, hstored] at hfresh
    | ok m => simpa [OpenTabs.read, OpenTabs.unknown, hstored] using hfresh
  rcases hcache : d.caches h.place with ⟨_ | m⟩
  · rw [read_of_stored (hk.place ▸ hcache) hstored]
  · rw [read_of_known (hk.place ▸ hcache)]
    rw [hd.row m n hcache (Database.stored_eq_ok_iff.1 hstored)]

/-- **The cache is coherent with what is stored.** An object is new, and it is read and set through
    it and its clones, while others may write to the database as long as they leave the row of the
    setting alone or drop the whole table. Then at every moment

    * after a set that succeeded every handle answers with the last number set;
    * before, a handle answers with the number that was stored at first, or 0 if there was no row,
      or not at all;
    * a read or a set that fails changes neither the database nor the cache;
    * if a new object on the same database can read the number, every handle answers with it. -/
theorem cache_coherent (db : Database) (caches : Nat → OpenTabs) (h : Handle)
    (hnew : caches h.place = .unknown) (steps : List DeskStep)
    (hsteps : ∀ s ∈ steps, s.Through h) :
    let d := run ⟨db, caches⟩ steps
    let sets := accepted ⟨db, caches⟩ steps
    (∀ n, sets.getLast? = some n → ∀ k, h.Clones k → (d.read k).1 = .ok n) ∧
    (sets = [] → ∀ k n, h.Clones k → (d.read k).1 = .ok n → db.TellsCount n) ∧
    (∀ k e, (d.read k).1 = .error e → (d.read k).2 = d) ∧
    (∀ k n e, (d.write k n).1 = .error e → (d.write k n).2 = d) ∧
    ∀ n, (OpenTabs.unknown.read d.database).1 = .ok n → ∀ k, h.Clones k → (d.read k).1 = .ok n := by
  intro d sets
  have hd : Coherent db h sets d := coherent_run db hnew hsteps
  refine ⟨?_, ?_, ?_, ?_, ?_⟩
  · intro n hlast k hk
    exact hd.read_of_getLast? hk hlast
  · intro hsets k n hk hread
    exact hd.tellsCount_of_read hk hsets hread
  · intro k e herror
    exact read_of_error herror
  · intro k n e herror
    exact write_of_error herror
  · intro n hfresh k hk
    exact hd.read_of_fresh hk hfresh

/-- The number is read, set through a clone and set again; another setting is written meanwhile.
    Then the table is dropped, and the last set fails. -/
theorem cache_coherent_dropped :
    let h : Handle := ⟨0⟩
    let db : Database := ⟨some (.ofList [(OpenTabs.key, .text "+07")]), none, none⟩
    let put := fun db : Database => { db with settings := db.settings.map (·.insert "other" .blob) }
    let drop := fun db : Database => { db with settings := none }
    let steps := [DeskStep.read h.clone, .write h.clone 4, .outside put, .write h 5, .outside drop,
      .write h.clone 6]
    let d := run ⟨db, fun _ => .unknown⟩ steps
    (∀ s ∈ steps, s.Through h) ∧ accepted ⟨db, fun _ => .unknown⟩ steps = [4, 5] ∧
    (d.read h.clone.clone).1 = .ok 5 ∧ (d.write h 8).2 = d := by
  intro h db put drop steps d
  have hput : ∀ db : Database, db.SparesCount (put db) := by
    intro db
    cases htable : db.settings with
    | none => exact .inl (by simp [put, htable])
    | some table =>
      refine .inr ⟨table, table.insert "other" .blob, htable, by simp [put, htable], ?_⟩
      exact SortedMap.get?_insert_of_ne table _ (by decide)
  have hdrop : ∀ db : Database, db.SparesCount (drop db) := fun _ => .inl rfl
  have hsteps : ∀ s ∈ steps, s.Through h := by
    simp only [steps, List.forall_mem_cons, DeskStep.Through]
    exact ⟨.clone .self, .clone .self, hput, .self, hdrop, .clone .self, by simp⟩
  obtain ⟨hlast, -, -, hwrite, -⟩ := cache_coherent db (fun _ => .unknown) h rfl steps hsteps
  refine ⟨hsteps, rfl, ?_, ?_⟩
  · exact hlast 5 rfl h.clone.clone (.clone (.clone .self))
  · exact hwrite h 8 .database rfl

end Desk
end BrowserTelemetry
