import BrowserTelemetry.Browser.Config
import BrowserTelemetry.Proofs.SoundReading
import BrowserTelemetry.Proofs.StoredProviders

/-!
# Configuration files

A configuration file holds some members of the object that a configuration is written as, in any
order and among members of other names (`Config.HeldIn`). Loading it gives these members, and the
defaults for the rest. Whatever a file holds, a configuration that is loaded from it is one to start
with, and is loaded again from its own text.
-/

namespace BrowserTelemetry

set_option autoImplicit false

theorem FileContent.text_toUTF8 (s : String) : (FileContent.bytes s.toUTF8).text = .ok s := by
  have hread : String.fromUTF8? s.toUTF8 = some s := by
    unfold String.fromUTF8?
    rw [String.toUTF8_eq_toByteArray, dif_pos s.isValidUTF8]
    rfl
  simp only [text, hread]

namespace Config

variable {env : Environment} {c d : Config} {keep : String → Bool} {text : String}
  {file : FileContent}

/-! ## Configurations to start with -/

theorem validate_iff :
    c.validate = .ok () ↔ c.databasePath ≠ "" ∧ Text.allBlank c.logLevel = false := by
  unfold validate
  by_cases hpath : c.databasePath = ""
  · rw [if_pos hpath]
    exact iff_of_false nofun fun h => h.1 hpath
  · rw [if_neg hpath]
    cases hblank : Text.allBlank c.logLevel with
    | false => exact iff_of_true rfl ⟨hpath, rfl⟩
    | true => exact iff_of_false nofun fun h => nomatch h.2

theorem validate_standard (env : Environment) : (standard env).validate = .ok () := by
  have hlevel : Text.allBlank "info" = false := by decide
  refine validate_iff.2 ⟨?_, hlevel⟩
  show FilePath.join env.dataDirectory "kestrel.db" ≠ ""
  unfold FilePath.join
  split_ifs <;> simp

/-! ## The text of a file -/

/-- The members of the object that the configuration is written as. -/
def members (c : Config) : List (String × Json) :=
  [("database_path", .string c.databasePath), ("telemetry_enabled", .bool c.telemetryEnabled),
    ("log_level", .string c.logLevel),
    ("search_providers", Codec.providerList.encode c.searchProviders)]

/-- The text is an object that holds those members of the configuration whose names are to be kept.
    They may stand in any order, among members of other names. -/
def HeldIn (c : Config) (keep : String → Bool) (text : String) : Prop :=
  ∃ entries extra, Document.read text = (.object entries none, false) ∧
    entries.Perm (Json.toEntries (c.members.filter fun m => keep m.1) ++ extra) ∧
    ∀ e ∈ extra, ∃ key, e.1 = some key ∧ ∀ m ∈ c.members, key ≠ m.1

/-- The fields of `c` that are kept, and those of `d` for the rest. -/
def keptOver (keep : String → Bool) (c d : Config) : Config where
  databasePath := if keep "database_path" then c.databasePath else d.databasePath
  telemetryEnabled := if keep "telemetry_enabled" then c.telemetryEnabled else d.telemetryEnabled
  logLevel := if keep "log_level" then c.logLevel else d.logLevel
  searchProviders := if keep "search_providers" then c.searchProviders else d.searchProviders

theorem validate_keptOver (hc : c.validate = .ok ()) (hd : d.validate = .ok ()) :
    (c.keptOver keep d).validate = .ok () := by
  obtain ⟨hcpath, hclevel⟩ := validate_iff.1 hc
  obtain ⟨hdpath, hdlevel⟩ := validate_iff.1 hd
  apply validate_iff.2
  constructor
  · show (if keep "database_path" then c.databasePath else d.databasePath) ≠ ""
    split_ifs <;> assumption
  · show Text.allBlank (if keep "log_level" then c.logLevel else d.logLevel) = false
    split_ifs <;> assumption

theorem lawful_fields (env : Environment) : (fields env).Lawful 3 :=
  ⟨Codec.lawful_string, Codec.lawful_bool, Codec.lawful_string, Codec.lawful_providerList, trivial⟩

theorem nodup_names (env : Environment) : (fields env).names.Nodup := by
  show ["database_path", "telemetry_enabled", "log_level", "search_providers"].Nodup
  decide

theorem finish_given (env : Environment) (c : Config) (keep : String → Bool) :
    (fields env).finish Fields.absentMember
        ((fields env).given (fun name => keep name = true) c.parts) =
      .ok (c.keptOver keep (standard env)).parts := by
  unfold fields parts
  simp only [Fields.finish_given]
  rfl

/-- Loading gives what the file holds, and the defaults for what it leaves out. -/
theorem load_of_heldIn (hc : c.validate = .ok ()) (hheld : c.HeldIn keep text) (env : Environment) :
    load env (.bytes text.toUTF8) = .ok (c.keptOver keep (standard env)) := by
  obtain ⟨entries, extra, hread, hperm, hextra⟩ := hheld
  have hsound := Document.sound_of_read hread
  have hforeign : ∀ e ∈ extra, Fields.Foreign (fields env).names e := by
    intro e he
    obtain ⟨key, hkey, hne⟩ := hextra e he
    refine ⟨⟨key, hkey, fun hname => ?_⟩, hsound e (hperm.mem_iff.2 (List.mem_append_right _ he))⟩
    obtain ⟨m, hm, rfl⟩ := List.mem_map.1 (Fields.map_fst_encode (fields env) c.parts ▸ hname)
    exact hne m hm rfl
  have hroom : (Source.text 0).HasRoom 4 := by
    show 0 + 4 ≤ Source.deepest
    decide
  have hdecode : (codec env).decode (.text 0) (.object entries none) =
      .ok (c.keptOver keep (standard env)) := by
    show ((fields env).decode true (.text 0) (.object entries none)).map ofParts = _
    rw [(lawful_fields env).decode_perm (nodup_names env) hroom true c.parts keep hperm hforeign,
      finish_given]
    rfl
  have htext : (codec env).read text = .ok (c.keptOver keep (standard env)) := by
    unfold Codec.read
    rw [hread]
    show ((codec env).decode (.text 0) (.object entries none) >>= _) = _
    rw [hdecode]
    rfl
  simp only [load, FileContent.text_toUTF8, htext, validate_keptOver hc (validate_standard env)]

theorem fits_members (c : Config) : ∀ m ∈ c.members, m.2.Fits 3 :=
  (lawful_fields default).fits c.parts

/-- A text of an object with these members holds them, whatever the blanks between its tokens and
    whatever its other members are. -/
theorem heldIn_layout {n : Nat} {members extra : List (String × Json)}
    (hperm : members.Perm (c.members.filter (fun m => keep m.1) ++ extra))
    (hextra : ∀ e ∈ extra, e.2.Fits n ∧ ∀ m ∈ c.members, e.1 ≠ m.1)
    (htext : Token.Renders (Json.object members).tokens text.toList) : c.HeldIn keep text := by
  have hfits : (Json.object members).Fits (max 3 n + 1) := by
    refine .object fun m hm => ?_
    rcases List.mem_append.1 (hperm.mem_iff.1 hm) with hkept | hadded
    · exact (fits_members c m (List.mem_filter.1 hkept).1).mono (Nat.le_max_left 3 n)
    · exact (hextra m hadded).1.mono (Nat.le_max_right 3 n)
  refine ⟨Json.toEntries members, Json.toEntries extra, hfits.read_layout htext, ?_, ?_⟩
  · simp only [Json.toEntries_eq_map]
    rw [← List.map_append]
    exact hperm.map _
  · rw [Json.toEntries_eq_map]
    intro e he
    obtain ⟨m, hm, rfl⟩ := List.mem_map.1 he
    exact ⟨m.1, rfl, (hextra m hm).2⟩

theorem heldIn_write (env : Environment) (c : Config) :
    c.HeldIn (fun _ => true) ((codec env).write c) := by
  have hperm : c.members.Perm (c.members.filter (fun _ => true) ++ []) :=
    .of_eq (List.append_nil c.members).symm
  have hnone : ∀ e ∈ ([] : List (String × Json)), e.2.Fits 0 ∧ ∀ m ∈ c.members, e.1 ≠ m.1 := nofun
  exact heldIn_layout hperm hnone (Json.object c.members).renders_render

/-- What is loaded from a file has passed the check. -/
theorem validate_of_load (h : load env file = .ok d) : d.validate = .ok () := by
  unfold load at h
  split at h
  · cases h
  · split at h
    · cases h
    · split at h
      · cases h
      · next hvalid =>
        cases h
        exact hvalid

/-- Loading fills in the defaults of the environment for whatever a file leaves out, and passes over
    whatever else it holds. A text of an object with the members holds them, in any layout. And what
    any file is loaded as is a configuration to start with, whose own text is loaded as it again. -/
theorem load_over_defaults (env : Environment) :
    (∀ (c : Config) (keep : String → Bool) (text : String), c.validate = .ok () →
      c.HeldIn keep text → load env (.bytes text.toUTF8) = .ok (c.keptOver keep (standard env))) ∧
    (∀ (c : Config) (keep : String → Bool) (members extra : List (String × Json)) (n : Nat)
        (text : String), members.Perm (c.members.filter (fun m => keep m.1) ++ extra) →
      (∀ e ∈ extra, e.2.Fits n ∧ ∀ m ∈ c.members, e.1 ≠ m.1) →
      Token.Renders (Json.object members).tokens text.toList → c.HeldIn keep text) ∧
    (∀ (file : FileContent) (d : Config), load env file = .ok d →
      d.validate = .ok () ∧ d.databasePath ≠ "" ∧ Text.allBlank d.logLevel = false ∧
      ∀ env' : Environment, load env' (.bytes ((codec env').write d).toUTF8) = .ok d) := by
  refine ⟨?_, ?_, ?_⟩
  · intro c keep text hc hheld
    exact load_of_heldIn hc hheld env
  · intro c keep members extra n text hperm hextra htext
    exact heldIn_layout hperm hextra htext
  · intro file d hload
    have hvalid := validate_of_load hload
    obtain ⟨hpath, hlevel⟩ := validate_iff.1 hvalid
    refine ⟨hvalid, hpath, hlevel, fun env' => ?_⟩
    exact load_of_heldIn hvalid (heldIn_write env' d) env'

/-- Two files with two members of the four, not in their order and after one that nobody knows. One
    has blanks and an escape, the other one is written without either. -/
theorem load_over_defaults_two_members :
    let env : Environment := ⟨none, some "/home/kestrel"⟩
    let text := " \x7b\"theme\": [1.5, \x7b\"dark\": null\x7d],\n" ++
      "\"log_level\" : \"de\\u0062ug\", \"telemetry_enabled\":false\x7d\n"
    let text' :=
      (Json.object
        [("theme", .int 3), ("log_level", .string "debug"),
          ("telemetry_enabled", .bool false)]).render
    let loaded : Config :=
      ⟨"/home/kestrel/.local/share/Kestrel/kestrel.db", false, "debug", SearchProvider.defaults⟩
    load env (.bytes text.toUTF8) = .ok loaded ∧ load env (.bytes text'.toUTF8) = .ok loaded ∧
      ∀ env', load env' (.bytes ((codec env').write loaded).toUTF8) = .ok loaded := by
  intro env text text' loaded
  obtain ⟨hload, hlayout, hloaded⟩ := load_over_defaults env
  let keep (name : String) : Bool := name = "log_level" ∨ name = "telemetry_enabled"
  let held : Config := ⟨"k.db", false, "debug", []⟩
  have hvalid : held.validate = .ok () := validate_iff.2 ⟨by decide, by decide⟩
  have hkept : held.keptOver keep (standard env) = loaded := by decide +kernel
  have hheld : held.HeldIn keep text := by
    let dark : Document := .object [(some "dark", .null)] none
    let theme : Document := .array [.number (.real false ⟨6755399441055744, -52⟩), dark] none
    have hscan : Token.scan text.toList =
        [.openObject, .string (some "theme"), .colon, .openArray,
          .number (.real false ⟨6755399441055744, -52⟩), .comma, .openObject, .string (some "dark"),
          .colon, .null, .closeObject, .closeArray, .comma, .string (some "log_level"), .colon,
          .string (some "debug"), .comma, .string (some "telemetry_enabled"), .colon, .bool false,
          .closeObject] := by
      decide +kernel
    refine ⟨[(some "theme", theme), (some "log_level", .string "debug"),
      (some "telemetry_enabled", .bool false)], [(some "theme", theme)], ?_, ?_, ?_⟩
    · rw [Document.read, hscan]
      rfl
    · exact List.reverse_perm [(some "telemetry_enabled", Document.bool false),
        (some "log_level", .string "debug"), (some "theme", theme)]
    · intro e he
      obtain rfl := List.mem_singleton.1 he
      exact ⟨"theme", rfl, by decide⟩
  have hheld' : held.HeldIn keep text' := by
    refine hlayout held keep
      [("theme", .int 3), ("log_level", .string "debug"), ("telemetry_enabled", .bool false)]
      [("theme", .int 3)] 0 text' ?_ ?_ (Json.renders_render _)
    · exact List.reverse_perm
        [("telemetry_enabled", Json.bool false), ("log_level", .string "debug"), ("theme", .int 3)]
    · intro e he
      obtain rfl := List.mem_singleton.1 he
      exact ⟨.int ⟨by decide, by decide⟩, by decide⟩
  have htext : load env (.bytes text.toUTF8) = .ok loaded :=
    hkept ▸ hload held keep text hvalid hheld
  have htext' : load env (.bytes text'.toUTF8) = .ok loaded :=
    hkept ▸ hload held keep text' hvalid hheld'
  exact ⟨htext, htext', (hloaded _ loaded htext).2.2.2⟩

end Config
end BrowserTelemetry
