import BrowserTelemetry.Json.Labelled
import BrowserTelemetry.Json.Map
import BrowserTelemetry.Json.Tagged
import BrowserTelemetry.Proofs.JsonText

/-!
# Codecs that read what they write

A codec is lawful when it reads every value back from what it writes (`Codec.Lawful`). The lawful
codecs are closed under all that codecs are built with: options, lists, maps, records, tagged
records and labelled values. With a lawful codec the text of a value is read as the value
(`Lawful.read_write`).

A member that stands before its reader is known is put aside, and a text must not be too deep for
that. So a law counts the levels that a codec writes, and demands that there is room for them.
-/

namespace BrowserTelemetry

set_option autoImplicit false

/-! ## Room -/

namespace Source

variable {n : Nat} {src : Source}

/-- `n` more arrays and objects may stand inside one another. -/
def HasRoom (n : Nat) : Source → Prop
  | .text level => level + n ≤ deepest
  | .tree | .buffer => True

theorem HasRoom.inner (h : src.HasRoom (n + 1)) : src.inner.HasRoom n := by
  cases src with
  | text level =>
    simp only [HasRoom, Source.inner] at h ⊢
    omega
  | tree | buffer => trivial

end Source

theorem Json.Fits.putAside {n : Nat} {j : Json} {src : Source} (h : j.Fits n)
    (hroom : src.HasRoom n) :
    j.toDocument.putAside src = .ok () := by
  cases src with
  | text level =>
    have hle : n ≤ Source.deepest - level := Nat.le_sub_of_add_le' hroom
    rw [Document.putAside, (h.mono hle).readFault?_eq_none]
  | tree | buffer => rfl

/-! ## The law -/

namespace Codec

variable {α : Type} {c : Codec α} {n : Nat}

/-- The codec reads every value back from what it writes, which takes up at most `n` levels. -/
structure Lawful (n : Nat) (c : Codec α) : Prop where
  fits (a : α) : (c.encode a).Fits n
  decode_encode {src : Source} (hroom : src.HasRoom n) (a : α) :
    c.decode src (c.encode a).toDocument = .ok a

/-- The text of a value is read as the value. -/
theorem Lawful.read_write (h : c.Lawful n) (hdeep : n ≤ Source.deepest) (a : α) :
    c.read (c.write a) = .ok a := by
  have hroom : (Source.text 0).HasRoom n := Nat.le_trans (Nat.le_of_eq (Nat.zero_add n)) hdeep
  rw [read, write, (h.fits a).read_render]
  simp only [h.decode_encode hroom]
  rfl

/-! ## Plain values -/

theorem lawful_string : string.Lawful n := ⟨fun s => .string s, fun _ _ => rfl⟩

theorem lawful_bool : bool.Lawful n := ⟨fun b => .bool b, fun _ _ => rfl⟩

theorem lawful_int64 : int64.Lawful n where
  fits t := by
    refine .int ⟨t.minValue_le_toInt, ?_⟩
    have := t.toInt_le
    have hmax : Int64.maxValue.toInt < UInt64.size := by decide
    omega
  decode_encode _ t := by
    simp only [int64, Json.toDocument]
    rw [if_pos ⟨t.minValue_le_toInt, t.toInt_le⟩, Int64.ofInt_toInt]

theorem lawful_form {print : α → String} {parse : String → Option α}
    (h : ∀ a, parse (print a) = some a) : (form print parse).Lawful n where
  fits a := .string (print a)
  decode_encode _ a := by simp only [form, Json.toDocument, h]

/-! ## Options and lists -/

theorem Lawful.option (h : c.Lawful n) (hnull : ∀ a, c.encode a ≠ .null) : c.option.Lawful n where
  fits a := by
    cases a with
    | none => exact .null
    | some a => exact h.fits a
  decode_encode {src} hroom a := by
    cases a with
    | none => rfl
    | some a =>
      have hdoc : (c.encode a).toDocument ≠ .null := by
        have := hnull a
        cases hj : c.encode a <;> simp_all [Json.toDocument]
      -- Only null is read as none, so the reader of the values gets to see it.
      have hdecode : c.option.decode src (c.encode a).toDocument =
          (c.decode src (c.encode a).toDocument).map some := by
        simp only [Codec.option]
      exact hdecode.trans (by rw [h.decode_encode hroom]; rfl)

theorem Lawful.list (h : c.Lawful n) : c.list.Lawful (n + 1) where
  fits l := by
    refine .array fun j hj => ?_
    obtain ⟨a, -, rfl⟩ := List.mem_map.1 hj
    exact h.fits a
  decode_encode {src} hroom l := by
    have hitems : (Json.toDocuments (l.map c.encode)).mapM (c.decode src.inner) = .ok l := by
      induction l with
      | nil => rfl
      | cons a rest ih =>
        rw [List.map_cons, Json.toDocuments, List.mapM_cons, h.decode_encode hroom.inner, ih]
        rfl
    simp only [Codec.list, Json.toDocument, hitems]
    rfl

end Codec

/-! ## Maps -/

namespace SortedMap

variable {κ α : Type} [LT κ] [DecidableLT κ] [KeyOrder κ]

/-- A key above all others goes to the end. -/
theorem insertEntry_of_lt {k : κ} {a : α} {l : List (κ × α)} (h : ∀ e ∈ l, e.1 < k) :
    insertEntry k a l = l ++ [(k, a)] := by
  induction l with
  | nil => rfl
  | cons e rest ih =>
    obtain ⟨he, hrest⟩ := List.forall_mem_cons.1 h
    have hge : ¬ k < e.1 := fun hlt => KeyOrder.irrefl k (KeyOrder.trans hlt he)
    rw [insertEntry, if_neg hge, if_pos he, ih hrest, List.cons_append]

theorem entries_foldl_insert (m : SortedMap κ α) {l : List (κ × α)}
    (h : Ascending (m.entries ++ l)) :
    (l.foldl (fun m e => m.insert e.1 e.2) m).entries = m.entries ++ l := by
  induction l generalizing m with
  | nil => exact (List.append_nil _).symm
  | cons e rest ih =>
    -- `e` is above all that is bound so far, and below the rest.
    have hlast : (m.insert e.1 e.2).entries = m.entries ++ [e] :=
      insertEntry_of_lt fun x hx => (List.pairwise_append.1 h).2.2 x hx e List.mem_cons_self
    rw [List.foldl_cons, ih (m.insert e.1 e.2) (by rwa [hlast, List.append_assoc]), hlast,
      List.append_assoc]
    rfl

/-- A map is made again by binding its entries in order. -/
theorem foldl_insert_entries (m : SortedMap κ α) :
    m.entries.foldl (fun m e => m.insert e.1 e.2) empty = m := by
  have hentries : (m.entries.foldl (fun m e => m.insert e.1 e.2) empty).entries = m.entries :=
    entries_foldl_insert empty m.ascending
  generalize m.entries.foldl (fun m e => m.insert e.1 e.2) empty = m' at hentries
  cases m
  cases m'
  congr

end SortedMap

namespace Codec

variable {κ α : Type} [LT κ] [DecidableLT κ] [KeyOrder κ] {c : Codec α} {n : Nat} {src : Source}

theorem Lawful.foldlM_bindEntry (h : c.Lawful n) (hroom : src.HasRoom n) {key : KeyForm κ}
    (hkey : ∀ k, key.parse (key.print k) = .ok k) (l : List (κ × α)) (m : SortedMap κ α) :
    (Json.toEntries (l.map fun e => (key.print e.1, c.encode e.2))).foldlM (bindEntry key c src) m =
      .ok (l.foldl (fun m e => m.insert e.1 e.2) m) := by
  induction l generalizing m with
  | nil => rfl
  | cons e rest ih =>
    have hentry : bindEntry key c src m (some (key.print e.1), (c.encode e.2).toDocument) =
        .ok (m.insert e.1 e.2) := by
      simp only [bindEntry, hkey, h.decode_encode hroom]
      rfl
    rw [List.map_cons, Json.toEntries, List.foldlM_cons, hentry]
    exact ih _

theorem Lawful.map (h : c.Lawful n) {key : KeyForm κ}
    (hkey : ∀ k, key.parse (key.print k) = .ok k) :
    (Codec.map key c).Lawful (n + 1) where
  fits m := by
    refine .object fun j hj => ?_
    obtain ⟨e, -, rfl⟩ := List.mem_map.1 hj
    exact h.fits e.2
  decode_encode {src} hroom m := by
    have hbind := h.foldlM_bindEntry hroom.inner hkey m.entries .empty
    simp only [Codec.map, Json.toDocument, hbind, SortedMap.foldl_insert_entries]
    rfl

end Codec

/-! ## Records -/

namespace Fields

variable {n : Nat} {src : Source}

/-- Every field reads what it writes. -/
def Lawful (n : Nat) : {γ δ : Type} → Fields γ δ → Prop
  | _, _, .none => True
  | _, _, .field _ codec _ rest => codec.Lawful n ∧ rest.Lawful n

/-- All fields found. -/
def full : {γ δ : Type} → Fields γ δ → γ → δ
  | _, _, .none, _ => ()
  | _, _, .field _ _ _ rest, (a, more) => (some a, rest.full more)

theorem Lawful.none : Fields.none.Lawful n := trivial

variable {α γ δ : Type} {c : Codec α} {fs : Fields γ δ}

theorem Lawful.need {name : String} (hc : c.Lawful n) (h : fs.Lawful n) :
    (Fields.need name c fs).Lawful n := ⟨hc, h⟩

theorem Lawful.allow {name : String} (hc : c.Lawful n) (hnull : ∀ a, c.encode a ≠ .null)
    (h : fs.Lawful n) : (Fields.allow name c fs).Lawful n := ⟨hc.option hnull, h⟩

theorem map_fst_encode (fs : Fields γ δ) (values : γ) :
    (fs.encode values).map Prod.fst = fs.names := by
  induction fs with
  | none => rfl
  | field name codec absent rest ih => rw [encode, List.map_cons, ih, names]

theorem mem_names {values : γ} {m : String × Json} (h : m ∈ fs.encode values) : m.1 ∈ fs.names :=
  map_fst_encode fs values ▸ List.mem_map_of_mem h

theorem Lawful.fits (h : fs.Lawful n) (values : γ) : ∀ m ∈ fs.encode values, m.2.Fits n := by
  induction fs with
  | none => nofun
  | field name codec absent rest ih =>
    obtain ⟨hcodec, hrest⟩ := h
    exact List.forall_mem_cons.2 ⟨hcodec.fits _, ih hrest _⟩

/-! ### Members in any order -/

/-- What has been found of the values when the fields of some names have been met. -/
def given (met : String → Prop) [DecidablePred met] : {γ δ : Type} → Fields γ δ → γ → δ
  | _, _, .none, _ => ()
  | _, _, .field name _ _ rest, (a, more) =>
    (if met name then some a else Option.none, rest.given met more)

/-- A member that is none of the fields and can be passed over. -/
structure Foreign (names : List String) (e : Option String × Document) : Prop where
  named : ∃ key, e.1 = some key ∧ key ∉ names
  sound : e.2.skipFault? = Option.none

theorem Foreign.ne {names : List String} {e : Option String × Document} (h : Foreign names e)
    {name : String} (hname : name ∈ names) : e.1 ≠ some name := by
  intro hfst
  obtain ⟨key, hkey, hnot⟩ := h.named
  obtain rfl := Option.some.inj (hkey.symm.trans hfst)
  exact hnot hname

section

variable {met met' : String → Prop} [DecidablePred met] [DecidablePred met']

theorem given_congr (h : ∀ name ∈ fs.names, met name ↔ met' name) (values : γ) :
    fs.given met values = fs.given met' values := by
  induction fs with
  | none => rfl
  | field name codec absent rest ih =>
    obtain ⟨hname, hrest⟩ := List.forall_mem_cons.1 h
    simp only [given, hname, ih hrest]

theorem given_nothing (h : ∀ name ∈ fs.names, ¬ met name) (values : γ) :
    fs.given met values = fs.blank := by
  induction fs with
  | none => rfl
  | field name codec absent rest ih =>
    obtain ⟨hname, hrest⟩ := List.forall_mem_cons.1 h
    rw [given, if_neg hname, ih hrest, blank]

theorem given_all (h : ∀ name ∈ fs.names, met name) (values : γ) :
    fs.given met values = fs.full values := by
  induction fs with
  | none => rfl
  | field name codec absent rest ih =>
    obtain ⟨hname, hrest⟩ := List.forall_mem_cons.1 h
    rw [given, if_pos hname, ih hrest, full]

/-- A member of another name is passed over, if it can be. -/
theorem fill_of_notMem {key : String} {d : Document} (hkey : key ∉ fs.names)
    (hsound : d.skipFault? = Option.none) (found : δ) : fs.fill src found key d = .ok found := by
  induction fs with
  | none =>
    rw [fill, Document.skip, hsound]
    rfl
  | field name codec absent rest ih =>
    obtain ⟨hname, hrest⟩ := List.ne_and_not_mem_of_not_mem_cons hkey
    simp only [fill, if_neg hname, ih hrest]
    rfl

/-- A member that was not met before fills the slot of its field. -/
theorem Lawful.fill_given (h : fs.Lawful n) (hnames : fs.names.Nodup) (hroom : src.HasRoom n)
    {values : γ} {key : String} {j : Json} (hmem : (key, j) ∈ fs.encode values) (hnew : ¬ met key) :
    fs.fill src (fs.given met values) key j.toDocument =
      .ok (fs.given (fun name => name = key ∨ met name) values) := by
  induction fs with
  | none => exact absurd hmem List.not_mem_nil
  | field name codec absent rest ih =>
    obtain ⟨hcodec, hrest⟩ := h
    obtain ⟨hname, hnames⟩ := List.nodup_cons.1 hnames
    obtain ⟨a, more⟩ := values
    rcases List.mem_cons.1 hmem with hfirst | hlater
    · obtain ⟨rfl, rfl⟩ := Prod.mk.inj hfirst
      have hothers : rest.given (fun name => name = key ∨ met name) more = rest.given met more := by
        refine given_congr (fun other hother => or_iff_right ?_) more
        rintro rfl
        exact hname hother
      simp only [given, fill, if_pos, if_neg hnew, hcodec.decode_encode hroom, hothers, true_or]
      rfl
    · have hne : key ≠ name := by
        rintro rfl
        exact hname (mem_names hlater)
      have hslot : (name = key ∨ met name) ↔ met name := or_iff_right hne.symm
      simp only [given, fill, if_neg hne, ih hrest hnames hlater, hslot]
      rfl

end

/-- Whatever the order of the members, and whatever stands beside them, the fields that are met get
    their values. -/
theorem Lawful.fillAll_given (h : fs.Lawful n) (hnames : fs.names.Nodup) (hroom : src.HasRoom n)
    (values : γ) {entries : List (Option String × Document)}
    (hentries : ∀ e ∈ entries, Foreign fs.names e ∨
      ∃ m ∈ fs.encode values, e = (some m.1, m.2.toDocument))
    (honce : entries.Pairwise fun e e' => ∀ name ∈ fs.names, e.1 = some name → e'.1 ≠ some name) :
    fs.fillAll src fs.blank entries =
      .ok (fs.given (fun name => some name ∈ entries.map Prod.fst) values) := by
  -- The induction is from the end of the members: what is known is what those before have filled.
  induction entries using List.reverseRecOn with
  | nil => exact congrArg Except.ok (given_nothing (fun _ _ => List.not_mem_nil) values).symm
  | append_singleton before e ih =>
    obtain ⟨hbefore, he⟩ := List.forall_mem_append.1 hentries
    obtain ⟨hfirst, -, hlast⟩ := List.pairwise_append.1 honce
    obtain ⟨key?, d⟩ := e
    rw [fillAll, List.foldlM_append, ← fillAll, ih hbefore hfirst]
    rcases he _ List.mem_cons_self with ⟨⟨key, rfl, hforeign⟩, hsound⟩ | ⟨m, hm, he⟩
    · have hmet : ∀ name ∈ fs.names, some name ∈ before.map Prod.fst ↔
          some name ∈ (before ++ [(some key, d)]).map Prod.fst := by
        intro name hname
        have hne : some name ≠ some key := by
          rintro ⟨⟩
          exact hforeign hname
        rw [List.map_append, List.mem_append, List.map_singleton, List.mem_singleton,
          or_iff_left hne]
      rw [← given_congr hmet]
      exact congrArg (· >>= _) (fill_of_notMem hforeign hsound _)
    · obtain ⟨rfl, rfl⟩ := Prod.mk.inj he
      have hnew : some m.1 ∉ before.map Prod.fst := by
        intro hold
        obtain ⟨e, he, hfst⟩ := List.mem_map.1 hold
        exact hlast e he _ List.mem_cons_self m.1 (mem_names hm) hfst rfl
      have hmet : ∀ name ∈ fs.names, (name = m.1 ∨ some name ∈ before.map Prod.fst) ↔
          some name ∈ (before ++ [(some m.1, m.2.toDocument)]).map Prod.fst := by
        intro name _
        rw [List.map_append, List.mem_append, List.map_singleton, List.mem_singleton, or_comm,
          Option.some_inj]
      rw [← given_congr hmet]
      exact congrArg (· >>= _) (h.fill_given hnames hroom hm hnew)

/-- No name stands twice in an object of members that are written and of others that no field
    takes. -/
theorem pairwise_once (hnames : fs.names.Nodup) (values : γ) (keep : String × Json → Bool)
    {extra : List (Option String × Document)} (hextra : ∀ e ∈ extra, Foreign fs.names e) :
    (Json.toEntries ((fs.encode values).filter keep) ++ extra).Pairwise
      fun e e' => ∀ name ∈ fs.names, e.1 = some name → e'.1 ≠ some name := by
  rw [Json.toEntries_eq_map]
  refine List.pairwise_append.2 ⟨?_, ?_, ?_⟩
  · rw [← map_fst_encode fs values, List.Nodup, List.pairwise_map] at hnames
    rw [List.pairwise_map]
    refine (hnames.filter keep).imp fun hne name _ he he' => ?_
    exact hne (Option.some.inj (he.trans he'.symm))
  · exact List.pairwise_of_forall_mem_list fun e he _ _ name hname hfst =>
      absurd hfst ((hextra e he).ne hname)
  · intro _ _ e he name hname _
    exact (hextra e he).ne hname

/-- Some of the members that are written, in any order among others that no field takes. -/
theorem Lawful.fillAll_perm (h : fs.Lawful n) (hnames : fs.names.Nodup) (hroom : src.HasRoom n)
    (values : γ) (keep : String → Bool) {entries extra : List (Option String × Document)}
    (hperm : entries.Perm
      (Json.toEntries ((fs.encode values).filter fun m => keep m.1) ++ extra))
    (hextra : ∀ e ∈ extra, Foreign fs.names e) :
    fs.fillAll src fs.blank entries = .ok (fs.given (fun name => keep name = true) values) := by
  have honce : entries.Pairwise fun e e' =>
      ∀ name ∈ fs.names, e.1 = some name → e'.1 ≠ some name :=
    (hperm.pairwise_iff fun hne name hname he' he => hne name hname he he').2
      (pairwise_once hnames values _ hextra)
  rw [Json.toEntries_eq_map] at hperm
  have hentries : ∀ e ∈ entries, Foreign fs.names e ∨
      ∃ m ∈ fs.encode values, e = (some m.1, m.2.toDocument) := by
    intro e he
    rcases List.mem_append.1 (hperm.mem_iff.1 he) with hkept | hadded
    · obtain ⟨m, hm, rfl⟩ := List.mem_map.1 hkept
      exact Or.inr ⟨m, (List.mem_filter.1 hm).1, rfl⟩
    · exact Or.inl (hextra e hadded)
  rw [h.fillAll_given hnames hroom values hentries honce]
  refine congrArg Except.ok (given_congr (fun name hname => ?_) values)
  rw [(hperm.map Prod.fst).mem_iff, List.map_append, List.mem_append, List.map_map]
  constructor
  · rintro (hkept | hadded)
    · obtain ⟨m, hm, hfst⟩ := List.mem_map.1 hkept
      obtain rfl := Option.some.inj hfst
      exact (List.mem_filter.1 hm).2
    · obtain ⟨e, he, hfst⟩ := List.mem_map.1 hadded
      exact absurd hfst ((hextra e he).ne hname)
  · intro hkeep
    rw [← map_fst_encode fs values] at hname
    obtain ⟨m, hm, rfl⟩ := List.mem_map.1 hname
    exact Or.inl (List.mem_map.2 ⟨m, List.mem_filter.2 ⟨hm, hkeep⟩, rfl⟩)

theorem Lawful.decode_perm (h : fs.Lawful n) (hnames : fs.names.Nodup)
    (hroom : src.HasRoom (n + 1)) (lenient : Bool) (values : γ) (keep : String → Bool)
    {entries extra : List (Option String × Document)}
    (hperm : entries.Perm
      (Json.toEntries ((fs.encode values).filter fun m => keep m.1) ++ extra))
    (hextra : ∀ e ∈ extra, Foreign fs.names e) :
    fs.decode lenient src (.object entries Option.none) =
      fs.finish absentMember (fs.given (fun name => keep name = true) values) := by
  rw [decode, h.fillAll_perm hnames hroom.inner values keep hperm hextra]
  rfl

/-- A field that was not met takes the value for its absence. -/
theorem finish_given {met : String → Prop} [DecidablePred met] (name : String) (c : Codec α)
    (default a : α) (fs : Fields γ δ) (values : γ) :
    (Fields.field name c (some default) fs).finish absentMember
        ((Fields.field name c (some default) fs).given met (a, values)) =
      (fs.finish absentMember (fs.given met values)).map
        fun values => (if met name then a else default, values) := by
  simp only [given, finish]
  split_ifs with hmet <;> rfl

theorem finish_full (absence : {α : Type} → String → Option α → Except Issue α) (fs : Fields γ δ)
    (values : γ) : fs.finish absence (fs.full values) = .ok values := by
  induction fs with
  | none => rfl
  | field name codec absent rest ih =>
    obtain ⟨a, more⟩ := values
    simp only [full, finish, ih]
    rfl

/-- The fields are read from the object they are written as. -/
theorem Lawful.decode_encode (h : fs.Lawful n) (hnames : fs.names.Nodup)
    (hroom : src.HasRoom (n + 1)) (lenient : Bool) (values : γ) :
    fs.decode lenient src (.object (Json.toEntries (fs.encode values)) Option.none) =
      .ok values := by
  have hall : (fs.encode values).filter (fun _ => true) = fs.encode values :=
    List.filter_eq_self.2 fun _ _ => rfl
  have hperm : (Json.toEntries (fs.encode values)).Perm
      (Json.toEntries ((fs.encode values).filter fun _ => true) ++ []) := by
    rw [hall, List.append_nil]
  calc fs.decode lenient src (.object (Json.toEntries (fs.encode values)) Option.none)
      = fs.finish absentMember (fs.given (fun _ => true = true) values) :=
        h.decode_perm hnames hroom lenient values (fun _ => true) hperm
          fun _ he => absurd he List.not_mem_nil
    _ = fs.finish absentMember (fs.full values) := by rw [given_all fun _ _ => rfl]
    _ = .ok values := finish_full absentMember fs values

end Fields

theorem Codec.lawful_record {α γ δ : Type} {fs : Fields γ δ} {n : Nat} (h : fs.Lawful n)
    (hnames : fs.names.Nodup) {parts : α → γ} {make : γ → α} (hmake : ∀ a, make (parts a) = a) :
    (Codec.record fs parts make).Lawful (n + 1) where
  fits a := .object (h.fits (parts a))
  decode_encode {src} hroom a := by
    simp only [Codec.record, Json.toDocument, h.decode_encode hnames hroom]
    exact congrArg Except.ok (hmake a)

/-! ## Tagged records -/

namespace Variant

variable {α γ δ : Type} {tag : String} {vs : List (Variant α)} {n : Nat}
  {written : String × List (String × Json)} {a : α}

/-- What is written under a tag is read back as the value: some variant has the name, and makes the
    value of the members. -/
structure Recovers (tag : String) (vs : List (Variant α)) (n : Nat)
    (written : String × List (String × Json)) (a : α) : Prop where
  fits : ∀ m ∈ written.2, m.2.Fits n
  untagged : ∀ m ∈ written.2, m.1 ≠ tag
  named : ∃ v, vs.find? (fun v => v.name = written.1) = some v ∧
    v.payload (.object (Json.toEntries written.2) none) = .ok a

theorem Recovers.record (fs : Fields γ δ) (values : γ) {make : γ → α}
    (hnamed : vs.find? (fun v => v.name = written.1) = some (.record written.1 fs make))
    (hwritten : written.2 = fs.encode values) (hmake : make values = a) (h : fs.Lawful n)
    (hnames : (tag :: fs.names).Nodup) : Recovers tag vs n written a := by
  obtain ⟨htag, hnames⟩ := List.nodup_cons.1 hnames
  refine ⟨hwritten ▸ h.fits values, ?_, _, hnamed, ?_⟩
  · rw [hwritten]
    rintro m hm rfl
    exact htag (Fields.mem_names hm)
  · have hroom : Source.buffer.HasRoom (n + 1) := trivial
    simp only [Variant.record, hwritten, h.decode_encode hnames hroom]
    exact congrArg Except.ok hmake

theorem Recovers.unit
    (hnamed : vs.find? (fun v => v.name = written.1) = some (.unit written.1 a))
    (hwritten : written.2 = []) : Recovers tag vs n written a := by
  refine ⟨by rw [hwritten]; nofun, by rw [hwritten]; nofun, _, hnamed, ?_⟩
  rw [hwritten]
  rfl

end Variant

/-- The members beside the tag are put aside. -/
theorem Gathered.foldlM_add {α : Type} {tag : String} {vs : List (Variant α)} {n : Nat}
    {src : Source} (hroom : src.HasRoom n) {members : List (String × Json)}
    (hfits : ∀ m ∈ members, m.2.Fits n) (hne : ∀ m ∈ members, m.1 ≠ tag) (g : Gathered α) :
    (Json.toEntries members).foldlM (Gathered.add tag vs src) g =
      .ok { g with aside := (Json.toEntries members).reverse ++ g.aside } := by
  induction members generalizing g with
  | nil => rfl
  | cons m rest ih =>
    obtain ⟨hm, hrest⟩ := List.forall_mem_cons.1 hfits
    obtain ⟨hkey, hkeys⟩ := List.forall_mem_cons.1 hne
    have hadd : Gathered.add tag vs src g (some m.1, m.2.toDocument) =
        .ok { g with aside := (some m.1, m.2.toDocument) :: g.aside } := by
      simp only [Gathered.add, if_neg hkey, hm.putAside hroom]
      rfl
    rw [Json.toEntries, List.foldlM_cons, hadd]
    refine (ih hrest hkeys _).trans ?_
    rw [List.reverse_cons, List.append_assoc]
    rfl

theorem Codec.lawful_tagged {α : Type} {tag : String} {write : α → String × List (String × Json)}
    {vs : List (Variant α)} {n : Nat} (h : ∀ a, Variant.Recovers tag vs n (write a) a) :
    (Codec.tagged tag write vs).Lawful (n + 1) where
  fits a := .object (List.forall_mem_cons.2 ⟨.string _, (h a).fits⟩)
  decode_encode {src} hroom a := by
    obtain ⟨hfits, hne, v, hnamed, hpayload⟩ := h a
    -- The tag stands first. Even so the members after it are put aside before the variant sees
    -- them.
    have hgather : ((some tag, .string (write a).1) :: Json.toEntries (write a).2).foldlM
        (Gathered.add tag vs src.inner) .start =
          .ok ⟨some v, (Json.toEntries (write a).2).reverse⟩ := by
      have hadd : Gathered.add tag vs src.inner .start (some tag, .string (write a).1) =
          .ok ⟨some v, []⟩ := by
        simp only [Gathered.add, Gathered.start, Variant.choose, hnamed]
        rfl
      rw [List.foldlM_cons, hadd]
      refine (Gathered.foldlM_add hroom.inner hfits hne _).trans ?_
      rw [List.append_nil]
    simp only [Codec.tagged, Json.toDocument, Json.toEntries, decodeTagged]
    rw [hgather]
    simp only [atEnd, bind, Except.bind, List.reverse_reverse, hpayload]

/-! ## Labelled values -/

namespace Labelled

variable {α ι : Type} [Named ι] {names : LabelNames} {kind : ι → Kind α} {n : Nat} {src : Source}

/-- What is written beside a label is read back as the value by the kind that the label names. -/
def Recovers (n : Nat) (k : Kind α) (a : α) : Option Json → Prop
  | some j => j.Fits n ∧ ∀ {src : Source}, src.HasRoom n → k.content src j.toDocument = .ok a
  | none => k.absent = some a

theorem add_label {i : ι} (hbyName : Named.byName? (Named.name i) = some i) :
    add names (fun src d => (readName src d).map kind) src .nothing
      (some names.label, .string (Named.name i)) = .ok (.label (kind i)) := by
  simp only [add, readName, Named.byName, hbyName, if_pos]
  rfl

theorem add_content (hnames : names.content ≠ names.label) {readKind : Decoder (Kind α)}
    {k : Kind α} {a : α} {j : Json} (h : Recovers n k a (some j)) (hroom : src.HasRoom n) :
    add names readKind src (.label k) (some names.content, j.toDocument) = .ok (.whole a) := by
  simp only [add, if_neg hnames, if_pos, h.2 hroom]
  rfl

end Labelled

theorem Codec.lawful_labelled {α ι : Type} [Named ι] {names : LabelNames}
    {write : α → ι × Option Json} {kind : ι → Kind α} {n : Nat}
    (hnames : names.content ≠ names.label)
    (hbyName : ∀ i : ι, Named.byName? (Named.name i) = some i)
    (h : ∀ a, Labelled.Recovers n (kind (write a).1) a (write a).2) :
    (Codec.labelled names write kind).Lawful (n + 1) where
  fits a := by
    have ha := h a
    simp only [Codec.labelled]
    cases hw : (write a).2 with
    | none => exact .object (List.forall_mem_singleton.2 (.string _))
    | some j =>
      rw [hw] at ha
      exact .object (List.forall_mem_cons.2 ⟨.string _, List.forall_mem_singleton.2 ha.1⟩)
  decode_encode {src} hroom a := by
    have ha := h a
    simp only [Codec.labelled, Json.toDocument, Json.toEntries, Labelled.decode, List.foldlM_cons,
      Labelled.add_label (hbyName _)]
    cases hw : (write a).2 with
    | none =>
      rw [hw] at ha
      have hfinish : (Labelled.label (kind (write a).1)).finish names = .ok a := by
        rw [Labelled.finish, show (kind (write a).1).absent = some a from ha]
      exact hfinish
    | some j =>
      rw [hw] at ha
      simp only [Option.toList_some, List.map_cons, List.map_nil, Json.toEntries, List.foldlM_cons,
        bind, Except.bind, Labelled.add_content hnames ha hroom.inner]
      rfl

end BrowserTelemetry
