import BrowserTelemetry.Browser.Volume
import BrowserTelemetry.Proofs.CodecLaws
import BrowserTelemetry.Proofs.SinkEffects
import BrowserTelemetry.Proofs.Turns

/-!
# Stored search providers

A list of search providers can be kept among the settings, as a JSON text. There it is read back as
it was written, whatever its strings hold, and the other settings do not notice
(`Database.getJson_setJson`).

A browser looks for such a list **once, when it is built**: a stored list wins over the configured
one, and a text that is no such list keeps the browser from being built. After that no action and
nothing that others do to the database can change whose ads are counted, because the list is a part
of the sinks that telemetry never writes (`ads_playAll`).
-/

namespace BrowserTelemetry

set_option autoImplicit false

/-! ## Settings that hold JSON -/

namespace Codec

variable {n : Nat}

theorem lawful_searchProvider : searchProvider.Lawful (n + 2) :=
  lawful_record (.need lawful_string <| .need lawful_string.list <| .need lawful_string.list .none)
    (by decide) fun _ => rfl

/-- The form in which a list of providers is stored. -/
abbrev providerList : Codec (List SearchProvider) := list searchProvider

theorem lawful_providerList : providerList.Lawful (n + 3) := lawful_searchProvider.list

end Codec

namespace Database

variable {α : Type} {c : Codec α} {db : Database} {table : SortedMap String StoredValue}
  {key text : String} {a : α}

theorem setJson_eq (htable : db.settings = some table) (c : Codec α) (key : String) (a : α) :
    db.setJson c key a =
      .ok { db with settings := some (table.insert key (.text (c.write a))) } := by
  simp only [setJson, setSetting, putSetting, htable]

/-- Without a table of settings, or with bytes in place of a text, there is nothing to read. -/
theorem getJson_of_getSetting_error (c : Codec α) {e : StorageError}
    (h : db.getSetting key = .error e) : db.getJson c key = .error e := by
  rw [getJson, h]
  rfl

theorem getJson_of_missing (c : Codec α) (h : db.getSetting key = .ok none) :
    db.getJson c key = .ok none := by
  rw [getJson, h]
  rfl

theorem getJson_of_text (h : db.getSetting key = .ok (some text)) :
    db.getJson c key =
      match c.read text with
      | .ok a => .ok (some a)
      | .error issue => .error (.json issue) := by
  rw [getJson, h]
  show (match c.read text with | .ok a => _ | .error issue => _) = _
  cases c.read text <;> rfl

/-- What was stored is read back. -/
theorem getJson_setJson (hread : c.read (c.write a) = .ok a)
    (htable : db.settings = some (table.insert key (.text (c.write a)))) :
    db.getJson c key = .ok (some a) := by
  have hget : db.getSetting key = .ok (some (c.write a)) := by
    simp only [getSetting, htable, SortedMap.get?_insert_self]
  rw [getJson_of_text hget, hread]

end Database

/-! ## Whose ads are counted -/

/-- What a database is after the report of a chain to the ads of some providers: one that fails
    leaves it as it is. -/
def Attribution.afterReport (providers : List SearchProvider) (db : Database) (c : RedirectChain) :
    Database :=
  match (track providers db c.root c.chain).value with
  | .ok db => db
  | .error _ => db

theorem Attribution.afterReport_nil (db : Database) (c : RedirectChain) :
    afterReport [] db c = db := by
  unfold afterReport track of
  cases Url.parse? c.root <;> rfl

theorem Sinks.database_report {s : Sinks} {list : List SearchProvider}
    (hads : s.ads = .attribute list) (c : RedirectChain) :
    (s.report c).value.2.database = Attribution.afterReport list s.database c := by
  unfold report Attribution.afterReport
  simp only [hads, Logged.value_bind]
  cases (Attribution.track list s.database c.root c.chain).value <;> rfl

theorem Telemetry.ads_before (state : BrowserState) (a : BrowserAction) (t : Telemetry) :
    (before state a t).value.sinks.ads = t.sinks.ads := by
  obtain ⟨_, _, _, hsinks⟩ := sinks_before_eq state a t
  rw [hsinks]

namespace Browser

variable {b : Browser} {list : List SearchProvider}

theorem ads_dispatch (b : Browser) (a : BrowserAction) :
    (b.dispatch a).value.sinks.ads = b.sinks.ads := by
  rw [value_dispatch]
  unfold middleware
  split
  · have hafter := (Telemetry.adClicks_after (b.state.reduce a) a
      (Telemetry.before b.state a b.store.env).value).2
    exact hafter.trans (Telemetry.ads_before b.state a b.store.env)
  · rfl

theorem ads_playAll (b : Browser) (ps : List Turn) :
    (b.playAll ps).value.sinks.ads = b.sinks.ads := by
  induction ps generalizing b with
  | nil => rfl
  | cons p rest ih =>
    calc (b.playAll (p :: rest)).value.sinks.ads
        = ((b.play p).value.playAll rest).value.sinks.ads := rfl
      _ = (b.play p).value.sinks.ads := ih _
      _ = b.sinks.ads := ads_dispatch _ _

/-- Whatever the browser goes through, and whatever others do to its database meanwhile, a commit
    has the open chain of its session reported to the ads of `list`, if telemetry is enabled, and
    nothing else touches the clicks. -/
structure AttributesBy (b : Browser) (list : List SearchProvider) : Prop where
  commit (ps : List Turn) {p : Turn} {id url : String} (hp : p.action = .content ⟨id, .url url⟩) :
    let b' := (b.playAll ps).value
    (b'.play p).value.database =
      if b.config.telemetryEnabled then
        match b'.store.env.chains.chain? id with
        | some c => Attribution.afterReport list (p.meddle b'.database) c
        | none => p.meddle b'.database
      else p.meddle b'.database
  other (ps : List Turn) {p : Turn} (hp : ∀ id url, p.action ≠ .content ⟨id, .url url⟩) :
    let b' := (b.playAll ps).value
    (b'.play p).value.database.adClicks = (p.meddle b'.database).adClicks

theorem database_dispatch_commit (hads : b.sinks.ads = .attribute list) (id url : String) :
    (b.dispatch (.content ⟨id, .url url⟩)).value.database =
      if b.config.telemetryEnabled then
        match b.store.env.chains.chain? id with
        | some c => Attribution.afterReport list b.database c
        | none => b.database
      else b.database := by
  rw [value_dispatch]
  unfold middleware
  split
  · -- After a commit there is nothing to count, so the work before it is all.
    have hbefore := Telemetry.sinks_before_commit b.state id url b.store.env
    show (Telemetry.before b.state _ b.store.env).value.sinks.database = _
    rw [hbefore]
    cases b.store.env.chains.chain? id with
    | none => rfl
    | some c => exact Sinks.database_report hads c
  · rfl

theorem adClicks_dispatch_of_ne (b : Browser) {a : BrowserAction}
    (hne : ∀ id url, a ≠ .content ⟨id, .url url⟩) :
    (b.dispatch a).value.database.adClicks = b.database.adClicks := by
  rw [value_dispatch]
  unfold middleware
  split
  · have hbefore := (Telemetry.database_before_of_ne b.state hne b.store.env).1
    have hafter := (Telemetry.adClicks_after (b.state.reduce a) a
      (Telemetry.before b.state a b.store.env).value).1
    exact hafter.trans (congrArg Database.adClicks hbefore)
  · rfl

/-- The list that a browser is built with is the one it goes by. -/
theorem attributesBy_of_ads (hads : b.sinks.ads = .attribute list) : b.AttributesBy list where
  commit ps p id url hp := by
    intro b'
    have hconfig : b'.config = b.config := by
      simp only [b', value_playAll]
    have hads' : (b'.withSinks (p.prepare b'.sinks)).sinks.ads = .attribute list :=
      (b.ads_playAll ps).trans hads
    have hcommit := database_dispatch_commit hads' id url
    rw [← hp] at hcommit
    rw [← hconfig]
    exact hcommit
  other ps p hp := by
    intro b'
    exact adClicks_dispatch_of_ne (b'.withSinks (p.prepare b'.sinks)) hp

theorem AttributesBy.adClicks_of_nil (h : b.AttributesBy []) (ps : List Turn) (p : Turn) :
    let b' := (b.playAll ps).value
    (b'.play p).value.database.adClicks = (p.meddle b'.database).adClicks := by
  intro b'
  by_cases hcommit : ∃ id url, p.action = .content ⟨id, .url url⟩
  · obtain ⟨id, url, hp⟩ := hcommit
    have hdatabase : (b'.play p).value.database = p.meddle b'.database := by
      rw [h.commit ps hp]
      split
      · cases (b.playAll ps).value.store.env.chains.chain? id with
        | none => rfl
        | some c => exact Attribution.afterReport_nil _ c
      · rfl
    rw [hdatabase]
  · exact h.other ps fun id url heq => hcommit ⟨id, url, heq⟩

/-! ## Building -/

variable {db : Database}

theorem attributesBy_of_providers {config : Config} (h : (providers config db).value = .ok list)
    (clock : Clock) :
    ∃ b, (build config db clock).value = .ok b ∧ b.database = db ∧ b.AttributesBy list := by
  obtain ⟨b, hbuild, -, -, hdb, -, hads, -⟩ := build_of_providers h clock
  exact ⟨b, hbuild, hdb, attributesBy_of_ads hads⟩

theorem providers_of_stored (config : Config)
    (h : db.getJson Codec.providerList providersKey = .ok (some list)) :
    (providers config db).value = .ok list := by
  unfold providers
  rw [h]
  rfl

theorem providers_of_missing (config : Config) (h : db.getSetting providersKey = .ok none) :
    (providers config db).value = .ok config.searchProviders := by
  unfold providers
  rw [Database.getJson_of_missing _ h]
  rfl

/-- No browser is built on the database, whatever the configuration; and where one was to be
    started, the database stays as opening it has left it. -/
def Refused (db : Database) (e : StorageError) : Prop :=
  ∀ (config : Config) (clock : Clock),
    (build config db clock).value = .error (.storage e) ∧
    ∀ v v₁ v₂ : Volume, config.validate = .ok () → v.prepare config.databasePath = .ok v₁ →
      (v₁.openDatabase config.databasePath).value = (.ok db, v₂) →
      (start config v clock).value = (.error (.storage e), v₂)

theorem refused_of_getJson {e : StorageError}
    (h : db.getJson Codec.providerList providersKey = .error e) : Refused db e := by
  intro config clock
  have hproviders : (providers config db).value = .error e := by
    unfold providers
    rw [h]
    rfl
  have hbuild : (build config db clock).value = .error (.storage e) := by
    simp only [build, Logged.value_bind, hproviders]
    rfl
  refine ⟨hbuild, fun v v₁ v₂ hvalid hprepare hopen => ?_⟩
  simp only [start, hvalid, hprepare, Logged.value_bind, hopen, hbuild]
  rfl

/-- **Stored providers govern.** A list of providers that is stored under any key is read back as it
    is, and no other setting and no other table changes. A browser

    * goes by the list that it finds under its own key, whatever its configuration lists, and
      however that setting is changed after the browser was built; by an empty list nothing is ever
      counted;
    * goes by the list of its configuration if there is no such setting;
    * cannot be built if the setting cannot be read, or is no list of providers, with telemetry
      enabled or not, and leaves the database as it is. -/
theorem stored_list_governs :
    (∀ (db : Database) (table : SortedMap String StoredValue), db.settings = some table →
      ∀ (key : String) (list : List SearchProvider), ∃ table',
        db.setJson Codec.providerList key list = .ok { db with settings := some table' } ∧
        { db with settings := some table' }.getJson Codec.providerList key = .ok (some list) ∧
        ∀ k, k ≠ key → table'.get? k = table.get? k) ∧
    (∀ (db : Database) (list : List SearchProvider),
      db.getJson Codec.providerList providersKey = .ok (some list) → ∀ config clock,
        ∃ b, (build config db clock).value = .ok b ∧ b.database = db ∧ b.AttributesBy list ∧
          (list = [] → ∀ ps p, ((b.playAll ps).value.play p).value.database.adClicks =
            (p.meddle (b.playAll ps).value.database).adClicks)) ∧
    (∀ db : Database, db.getSetting providersKey = .ok none → ∀ config clock,
      ∃ b, (build config db clock).value = .ok b ∧ b.database = db ∧
        b.AttributesBy config.searchProviders) ∧
    (∀ (db : Database) (e : StorageError), db.getSetting providersKey = .error e → Refused db e) ∧
    ∀ (db : Database) (text : String) (issue : Issue),
      db.getSetting providersKey = .ok (some text) →
      Codec.providerList.read text = .error issue → Refused db (.json issue) := by
  refine ⟨?_, ?_, ?_, ?_, ?_⟩
  · intro db table htable key list
    have hread := Codec.lawful_providerList.read_write (n := 3) (by decide) list
    refine ⟨_, Database.setJson_eq htable _ key list, Database.getJson_setJson hread rfl, ?_⟩
    intro k hk
    exact SortedMap.get?_insert_of_ne table _ (Ne.symm hk)
  · intro db list hstored config clock
    obtain ⟨b, hbuild, hdb, hby⟩ :=
      attributesBy_of_providers (providers_of_stored config hstored) clock
    refine ⟨b, hbuild, hdb, hby, ?_⟩
    rintro rfl
    exact hby.adClicks_of_nil
  · intro db hmissing config clock
    exact attributesBy_of_providers (providers_of_missing config hmissing) clock
  · intro db e hfail
    exact refused_of_getJson (Database.getJson_of_getSetting_error _ hfail)
  · intro db text issue htext hread
    apply refused_of_getJson
    rw [Database.getJson_of_text htext, hread]

/-- The configuration lists another provider, and the setting is removed once the browser is
    built. -/
theorem stored_list_governs_removed :
    let stored : List SearchProvider := [⟨"st\u00f6red \"one\"", ["[::1]"], ["[::1]/click"]⟩]
    let config : Config := ⟨"", true, "info", [⟨"configured", ["[::1]"], ["[::1]/click"]⟩]⟩
    let db : Database := ⟨some .empty, some .empty, none⟩
    let drop := fun db : Database => { db with settings := none }
    let tab := Session.fresh "a" "http://[::1]/search" false .epoch
    let ps := [Turn.mk ⟨5⟩ drop (.tabList (.add tab true)),
      Turn.mk ⟨5⟩ id (.content ⟨"a", .loadRequest (.plain "http://[::1]/click?q")⟩)]
    let commit := Turn.mk ⟨5⟩ id (.content ⟨"a", .url "http://[::2]/"⟩)
    ∃ table,
      db.setJson Codec.providerList providersKey stored =
        .ok { db with settings := some table } ∧
      ∃ b, (build config { db with settings := some table } ⟨0⟩).value = .ok b ∧
        ((b.playAll ps).value.play commit).value.database =
          ⟨none, some (.insert .empty "st\u00f6red \"one\"" (.integer 1)), none⟩ ∧
        Refused { db with settings := some (.insert .empty providersKey .blob) } .database := by
  intro stored config db drop tab ps commit
  obtain ⟨hstores, hgoverns, -, hfails, -⟩ := stored_list_governs
  obtain ⟨table, hset, hget, -⟩ := hstores db .empty rfl providersKey stored
  obtain ⟨b, hbuild, hdb, hby, -⟩ := hgoverns _ stored hget config ⟨0⟩
  refine ⟨table, hset, b, hbuild, ?_, hfails _ _ rfl⟩
  have hclick : Attribution.of stored "http://[::1]/search" ["http://[::1]/click?q"] =
      .click ⟨"st\u00f6red \"one\"", ["[::1]"], ["[::1]/click"]⟩ := by
    decide +kernel
  have hafter : Attribution.afterReport stored ⟨none, some .empty, none⟩
      ⟨"http://[::1]/search", ["http://[::1]/click?q"]⟩ =
        ⟨none, some (.insert .empty "st\u00f6red \"one\"" (.integer 1)), none⟩ := by
    unfold Attribution.afterReport Attribution.track
    rw [hclick]
    rfl
  have hcommit := hby.commit ps (p := commit) rfl
  rw [value_build (providers_of_stored config hget)] at hbuild
  obtain rfl := Except.ok.inj hbuild
  -- At the commit the chain of the tab is open, with its one request.
  refine hcommit.trans ?_
  rw [if_pos rfl]
  exact hafter

end Browser

end BrowserTelemetry
