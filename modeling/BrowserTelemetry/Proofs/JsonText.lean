import BrowserTelemetry.Json.Reader
import BrowserTelemetry.Proofs.JsonTokens

/-!
# Values that are written are read

The text of a value holds its tokens, one after the other, and it may have blanks between them
(`Renders`). It is cut into these tokens again, and the tokens put together spell the document of
the value wherever a value may stand (`Spells`), a document without a fault. So reading the text
gives that document and nothing is left over (`read_layout`, and `read_render` for the text that is
written).

`Fits` says which values have a text that can be read, and every induction here is on it: one case
for each kind of value, with what is known of the items of an array and of the members of an object.
-/

namespace BrowserTelemetry

set_option autoImplicit false

namespace Json

/-- The numbers of the value have at most 64 bits, and at most `n` of its arrays and objects stand
    inside one another. -/
inductive Fits : Nat → Json → Prop where
  | null {n : Nat} : Fits n .null
  | bool {n : Nat} (b : Bool) : Fits n (.bool b)
  | int {n : Nat} {i : Int} (h : Token.InRange i) : Fits n (.int i)
  | string {n : Nat} (s : String) : Fits n (.string s)
  | array {n : Nat} {items : List Json} (h : ∀ j ∈ items, Fits n j) : Fits (n + 1) (.array items)
  | object {n : Nat} {members : List (String × Json)} (h : ∀ m ∈ members, Fits n m.2) :
      Fits (n + 1) (.object members)

theorem Fits.mono {m n : Nat} {j : Json} (h : j.Fits m) (hle : m ≤ n) : j.Fits n := by
  induction h generalizing n with
  | null => exact .null
  | bool b => exact .bool b
  | int h => exact .int h
  | string s => exact .string s
  | array _ ih =>
    obtain ⟨n, rfl⟩ := Nat.exists_eq_add_one.2 (Nat.zero_lt_of_lt hle)
    exact .array fun j hj => ih j hj (Nat.le_of_succ_le_succ hle)
  | object _ ih =>
    obtain ⟨n, rfl⟩ := Nat.exists_eq_add_one.2 (Nat.zero_lt_of_lt hle)
    exact .object fun m hm => ih m hm (Nat.le_of_succ_le_succ hle)

/-! ## The tokens and the document of a list -/

theorem itemTokens_cons_cons (j k : Json) (rest : List Json) :
    itemTokens (j :: k :: rest) = j.tokens ++ .comma :: itemTokens (k :: rest) := by
  rw [itemTokens]
  nofun

theorem memberTokens_cons_cons (name : String) (j : Json) (m : String × Json)
    (rest : List (String × Json)) :
    memberTokens ((name, j) :: m :: rest) =
      .string (some name) :: .colon :: (j.tokens ++ .comma :: memberTokens (m :: rest)) := by
  rw [memberTokens]
  nofun

theorem toDocuments_eq_map (items : List Json) : toDocuments items = items.map toDocument := by
  induction items with
  | nil => rfl
  | cons j rest ih => rw [toDocuments, ih, List.map_cons]

theorem toEntries_eq_map (members : List (String × Json)) :
    toEntries members = members.map fun m => (some m.1, m.2.toDocument) := by
  induction members with
  | nil => rfl
  | cons m rest ih => rw [toEntries, ih, List.map_cons]

end Json

/-! ## Cutting the text -/

namespace Token

variable {t u : Token} {ts us : List Token} {blanks text : List Char}

/-- Tokens that are told apart even without blanks: a delimited one follows each number. -/
inductive Separate : List Token → Prop
  | nil : Separate []
  | delimited {t : Token} {ts : List Token} (ht : t.Delimited) (hts : Separate ts) :
      Separate (t :: ts)
  | integer {i : Int} {ts : List Token} (hi : InRange i) (hnext : ∀ t ∈ ts.head?, t.Delimited)
      (hts : Separate ts) : Separate (.number (.integer i) :: ts)

/-- The text holds the tokens in order, with any blanks before, between and after them. -/
inductive Renders : List Token → List Char → Prop
  | nil {blanks : List Char} (h : ∀ c ∈ blanks, isSpace c = true) : Renders [] blanks
  | cons {blanks text : List Char} {ts : List Token} (h : ∀ c ∈ blanks, isSpace c = true)
      (t : Token) (hts : Renders ts text) : Renders (t :: ts) (blanks ++ (t.write ++ text))

theorem renders_flatMap_write (ts : List Token) : Renders ts (ts.flatMap write) := by
  induction ts with
  | nil => exact .nil (fun _ hc => absurd hc List.not_mem_nil)
  | cons t rest ih => exact .cons (fun _ hc => absurd hc List.not_mem_nil) t ih

theorem scan_blanks (h : ∀ c ∈ blanks, isSpace c = true) (rest : List Char) :
    scan (blanks ++ rest) = scan rest := by
  induction blanks with
  | nil => rfl
  | cons c blanks ih =>
    obtain ⟨hc, hblanks⟩ := List.forall_mem_cons.1 h
    rw [List.cons_append, scan, if_pos hc, ih hblanks]

/-- Neither a blank nor the end goes on a number. -/
theorem endsNumber_blanks (h : ∀ c ∈ blanks, isSpace c = true) {rest : List Char}
    (hrest : EndsNumber rest) : EndsNumber (blanks ++ rest) := by
  cases blanks with
  | nil => exact hrest
  | cons c blanks =>
    have hspace := h c List.mem_cons_self
    simp only [isSpace, Bool.or_eq_true, decide_eq_true_eq] at hspace
    apply endsNumber_cons
    rcases hspace with ((rfl | rfl) | rfl) | rfl <;> decide

theorem Renders.endsNumber (h : Renders ts text) (hts : ∀ t ∈ ts.head?, t.Delimited) :
    EndsNumber text := by
  cases h with
  | nil h => exact text.append_nil ▸ endsNumber_blanks h (fun _ hc => nomatch hc)
  | cons h t hrest => exact endsNumber_blanks h ((hts t rfl).endsNumber _)

/-- The text is cut into the tokens that it holds. -/
theorem Renders.scan_eq (h : Renders ts text) (hts : Separate ts) : scan text = ts := by
  induction h with
  | @nil blanks h => rw [← blanks.append_nil, scan_blanks h, scan]
  | cons h t hrest ih =>
    rw [scan_blanks h]
    cases hts with
    | delimited ht hts => rw [scan_write ht, ih hts]
    | integer hi hnext hts =>
      show scan (Json.integer _ ++ _) = _
      rw [scan_integer hi (hrest.endsNumber hnext), ih hts]

theorem Separate.append (hts : Separate ts) (hu : u.Delimited) (hus : Separate us) :
    Separate (ts ++ u :: us) := by
  induction hts with
  | nil => exact .delimited hu hus
  | delimited ht _ ih => exact .delimited ht ih
  | @integer i ts hi hnext _ ih =>
    refine .integer hi ?_ ih
    cases ts with
    | nil => exact fun t ht => Option.some.inj ht ▸ hu
    | cons t ts => exact hnext

theorem separate_itemTokens {items : List Json} (h : ∀ j ∈ items, Separate j.tokens) :
    Separate (Json.itemTokens items) := by
  induction items with
  | nil => exact .nil
  | cons j rest ih =>
    obtain ⟨hj, hrest⟩ := List.forall_mem_cons.1 h
    cases rest with
    | nil => exact hj
    | cons k rest =>
      rw [Json.itemTokens_cons_cons]
      exact hj.append trivial (ih hrest)

theorem separate_memberTokens {members : List (String × Json)}
    (h : ∀ m ∈ members, Separate m.2.tokens) : Separate (Json.memberTokens members) := by
  induction members with
  | nil => exact .nil
  | cons m rest ih =>
    obtain ⟨name, j⟩ := m
    obtain ⟨hj, hrest⟩ := List.forall_mem_cons.1 h
    cases rest with
    | nil => exact .delimited trivial (.delimited trivial hj)
    | cons k rest =>
      rw [Json.memberTokens_cons_cons]
      exact .delimited trivial (.delimited trivial (hj.append trivial (ih hrest)))

end Token

theorem Json.Fits.separate {n : Nat} {j : Json} (h : j.Fits n) : Token.Separate j.tokens := by
  induction h with
  | null | bool | string => exact .delimited trivial .nil
  | int h => exact .integer h (fun _ ht => nomatch ht) .nil
  | array _ ih => exact .delimited trivial ((Token.separate_itemTokens ih).append trivial .nil)
  | object _ ih => exact .delimited trivial ((Token.separate_memberTokens ih).append trivial .nil)

/-! ## Putting the tokens together -/

namespace Document

/-- The tokens spell the document wherever a value may stand. -/
def Spells (ts : List Token) (d : Document) : Prop :=
  ∀ outer, ts.foldl Reading.step (.value outer) = deliver d outer

/-- Further items of an array, after those read `before`. -/
theorem foldl_itemTokens (j : Json) (rest : List Json)
    (h : ∀ k ∈ j :: rest, Spells k.tokens k.toDocument) (before : List Document)
    (outer : List Frame) :
    (Json.itemTokens (j :: rest)).foldl Reading.step (.value (.array before :: outer)) =
      .afterItem (((j :: rest).map Json.toDocument).reverse ++ before) outer := by
  induction rest generalizing j before with
  | nil => exact h j List.mem_cons_self _
  | cons k rest ih =>
    obtain ⟨hj, hrest⟩ := List.forall_mem_cons.1 h
    -- After `j` and its comma, the items of `rest` stand where `j` stood, with one more before
    -- them.
    rw [Json.itemTokens_cons_cons, List.foldl_append, hj, List.foldl_cons]
    calc (Json.itemTokens (k :: rest)).foldl Reading.step
          (.value (.array (j.toDocument :: before) :: outer))
        = _ := ih k hrest (j.toDocument :: before)
      _ = _ := by simp

/-- Further members of an object, after those read `before`. -/
theorem foldl_memberTokens (m : String × Json) (rest : List (String × Json))
    (h : ∀ m' ∈ m :: rest, Spells m'.2.tokens m'.2.toDocument)
    (before : List (Option String × Document)) (outer : List Frame) :
    (Json.memberTokens (m :: rest)).foldl Reading.step (.nextKey before outer) =
      .afterEntry (((m :: rest).map fun m => (some m.1, m.2.toDocument)).reverse ++ before)
        outer := by
  induction rest generalizing m before with
  | nil => exact h m List.mem_cons_self _
  | cons m' rest ih =>
    obtain ⟨name, j⟩ := m
    obtain ⟨hj, hrest⟩ := List.forall_mem_cons.1 h
    have hvalue : (j.tokens.foldl Reading.step (.value (.object before (some name) :: outer))) =
        .afterEntry ((some name, j.toDocument) :: before) outer := hj _
    rw [Json.memberTokens_cons_cons, List.foldl_cons, List.foldl_cons, List.foldl_append]
    simp only [Reading.step, beginEntry]
    rw [hvalue, List.foldl_cons]
    calc (Json.memberTokens (m' :: rest)).foldl Reading.step
          (.nextKey ((some name, j.toDocument) :: before) outer)
        = _ := ih m' hrest ((some name, j.toDocument) :: before)
      _ = _ := by simp

/-- A first item is read as any other: no value begins with the end of an array. -/
theorem foldl_firstItem (j : Json) (rest : List Json) (ts : List Token) (outer : List Frame) :
    (Json.itemTokens (j :: rest) ++ ts).foldl Reading.step (.firstItem outer) =
      (Json.itemTokens (j :: rest) ++ ts).foldl Reading.step (.value (.array [] :: outer)) := by
  have hvalue : ∀ ts : List Token, (j.tokens ++ ts).foldl Reading.step (.firstItem outer) =
      (j.tokens ++ ts).foldl Reading.step (.value (.array [] :: outer)) := by
    intro ts
    cases j <;> rfl
  cases rest with
  | nil => exact hvalue ts
  | cons k rest =>
    rw [Json.itemTokens_cons_cons, List.append_assoc]
    exact hvalue _

theorem spells_array {items : List Json} (h : ∀ j ∈ items, Spells j.tokens j.toDocument) :
    Spells (Json.array items).tokens (Json.array items).toDocument := by
  intro outer
  rw [Json.tokens, List.foldl_cons, Json.toDocument, Json.toDocuments_eq_map]
  cases items with
  | nil => rfl
  | cons j rest =>
    calc (Json.itemTokens (j :: rest) ++ [Token.closeArray]).foldl Reading.step (.firstItem outer)
        = Reading.step (.afterItem (((j :: rest).map Json.toDocument).reverse ++ []) outer)
            .closeArray := by
          rw [foldl_firstItem, List.foldl_append, foldl_itemTokens j rest h]
          rfl
      _ = deliver (.array ((j :: rest).map Json.toDocument) none) outer := by
          rw [Reading.step, List.append_nil, List.reverse_reverse]

theorem spells_object {members : List (String × Json)}
    (h : ∀ m ∈ members, Spells m.2.tokens m.2.toDocument) :
    Spells (Json.object members).tokens (Json.object members).toDocument := by
  intro outer
  rw [Json.tokens, List.foldl_cons, Json.toDocument, Json.toEntries_eq_map]
  cases members with
  | nil => rfl
  | cons m rest =>
    calc (Json.memberTokens (m :: rest) ++ [Token.closeObject]).foldl Reading.step (.firstKey outer)
        = (Json.memberTokens (m :: rest) ++ [Token.closeObject]).foldl Reading.step
            (.nextKey [] outer) := by
          cases rest <;> rfl
      _ = Reading.step (.afterEntry
            (((m :: rest).map fun m => (some m.1, m.2.toDocument)).reverse ++ []) outer)
            .closeObject := by
          rw [List.foldl_append, foldl_memberTokens m rest h]
          rfl
      _ = deliver (.object ((m :: rest).map fun m => (some m.1, m.2.toDocument)) none) outer := by
          rw [Reading.step, List.append_nil, List.reverse_reverse]

end Document

theorem Json.Fits.spells {n : Nat} {j : Json} (h : j.Fits n) :
    Document.Spells j.tokens j.toDocument := by
  induction h with
  | null => exact fun _ => rfl
  | bool b => exact fun _ => rfl
  | int h => exact fun _ => rfl
  | string s => exact fun _ => rfl
  | array _ ih => exact Document.spells_array ih
  | object _ ih => exact Document.spells_object ih

theorem Json.renders_render (j : Json) : Token.Renders j.tokens j.render.toList := by
  rw [Json.render, String.toList_ofList]
  exact Token.renders_flatMap_write j.tokens

/-- A text that holds the tokens of a value is read as the document of the value, and nothing is
    left over. -/
theorem Json.Fits.read_layout {n : Nat} {j : Json} (h : j.Fits n) {text : String}
    (htext : Token.Renders j.tokens text.toList) : Document.read text = (j.toDocument, false) := by
  rw [Document.read, htext.scan_eq h.separate, Document.ofTokens, h.spells]
  rfl

theorem Json.Fits.read_render {n : Nat} {j : Json} (h : j.Fits n) :
    Document.read j.render = (j.toDocument, false) := h.read_layout j.renders_render

/-! ## No faults -/

namespace Document

theorem readItems?_eq_none {n : Nat} {ds : List Document} (h : ∀ d ∈ ds, d.readFault? n = none) :
    readItems? n ds = none := by
  induction ds with
  | nil => rfl
  | cons d rest ih =>
    obtain ⟨hd, hrest⟩ := List.forall_mem_cons.1 h
    rw [readItems?, hd, Option.none_or, ih hrest]

theorem readEntries?_eq_none {n : Nat} {members : List (String × Json)}
    (h : ∀ m ∈ members, m.2.toDocument.readFault? n = none) :
    readEntries? n (Json.toEntries members) = none := by
  induction members with
  | nil => rfl
  | cons m rest ih =>
    obtain ⟨hm, hrest⟩ := List.forall_mem_cons.1 h
    rw [Json.toEntries, readEntries?, hm, Option.none_or, ih hrest]

end Document

theorem Json.Fits.readFault?_eq_none {n : Nat} {j : Json} (h : j.Fits n) :
    j.toDocument.readFault? n = none := by
  induction h with
  | null | bool | int | string => rfl
  | array _ ih =>
    rw [toDocument, Document.readFault?, toDocuments_eq_map,
      Document.readItems?_eq_none (by simpa using ih)]
    rfl
  | object _ ih =>
    rw [toDocument, Document.readFault?, Document.readEntries?_eq_none ih]
    rfl

end BrowserTelemetry
