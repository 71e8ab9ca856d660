/-!
# Sorted maps

A finite map that keeps its keys in ascending order, as a list of pairs. The order of the keys is
what is written when a map is written, and two maps with the same bindings are the same map.

Every operation is pinned by what it does to `get?`; nobody has to look at the list.
-/

namespace BrowserTelemetry

set_option autoImplicit false

/-- A strict order under which two different keys always compare. -/
class KeyOrder (κ : Type) [LT κ] : Prop where
  irrefl (a : κ) : ¬ a < a
  trans {a b c : κ} : a < b → b < c → a < c
  trichotomy (a b : κ) : a < b ∨ a = b ∨ b < a

instance : KeyOrder String where
  irrefl := String.lt_irrefl
  trans := String.lt_trans
  trichotomy := Std.lt_trichotomy

instance : KeyOrder Nat where
  irrefl := Nat.lt_irrefl
  trans := Nat.lt_trans
  trichotomy := Nat.lt_trichotomy

/-- Are the keys ascending? -/
abbrev Ascending {κ α : Type} [LT κ] (l : List (κ × α)) : Prop :=
  l.Pairwise fun x y => x.1 < y.1

/-- A map from `κ` to `α` with its keys in ascending order. -/
structure SortedMap (κ α : Type) [LT κ] where
  entries : List (κ × α)
  ascending : Ascending entries

namespace SortedMap

variable {κ α : Type} [LT κ]

/-- The map without bindings. -/
def empty : SortedMap κ α := ⟨[], .nil⟩

instance : Inhabited (SortedMap κ α) := ⟨empty⟩

instance [DecidableEq κ] [DecidableEq α] : DecidableEq (SortedMap κ α) := fun m n =>
  decidable_of_iff (m.entries = n.entries) (by cases m; cases n; simp)

instance [Repr κ] [Repr α] : Repr (SortedMap κ α) := ⟨fun m n => reprPrec m.entries n⟩

/-- Does the map hold nothing? -/
def isEmpty (m : SortedMap κ α) : Bool := m.entries.isEmpty

/-- The number of bindings. -/
def size (m : SortedMap κ α) : Nat := m.entries.length

variable [DecidableLT κ]

/-! ## On lists -/

/-- Bind a key in an ascending list. -/
def insertEntry (k : κ) (a : α) : List (κ × α) → List (κ × α)
  | [] => [(k, a)]
  | (j, b) :: rest =>
    if k < j then (k, a) :: (j, b) :: rest
    else if j < k then (j, b) :: insertEntry k a rest
    else (k, a) :: rest

/-- Is the key neither below nor above the other? In a `KeyOrder` it is the other then. -/
def sameKey (j k : κ) : Bool := !(decide (j < k) || decide (k < j))

/-- The value of a key in a list. -/
def lookup (k : κ) : List (κ × α) → Option α
  | [] => none
  | (j, b) :: rest => if sameKey j k then some b else lookup k rest

theorem mem_insertEntry {k : κ} {a : α} {x : κ × α} {l : List (κ × α)}
    (h : x ∈ insertEntry k a l) : x = (k, a) ∨ x ∈ l := by
  fun_induction insertEntry k a l with
  | case1 => simpa using h
  | case2 => simpa using h
  | case3 j b rest _ _ ih =>
    rcases List.mem_cons.1 h with rfl | h
    · exact .inr (.head _)
    · rcases ih h with h | h
      · exact .inl h
      · exact .inr (.tail _ h)
  | case4 j b rest =>
    rcases List.mem_cons.1 h with h | h
    · exact .inl h
    · exact .inr (.tail _ h)

/-! ## On maps -/

/-- The value of a key. -/
def get? (m : SortedMap κ α) (k : κ) : Option α := lookup k m.entries

/-- Is the key bound? -/
def contains (m : SortedMap κ α) (k : κ) : Bool := (m.get? k).isSome

/-- Unbind a key. -/
def erase (m : SortedMap κ α) (k : κ) : SortedMap κ α :=
  ⟨m.entries.filter fun e => !sameKey e.1 k, m.ascending.filter _⟩

/-- The keys and values, in order. -/
def toList (m : SortedMap κ α) : List (κ × α) := m.entries

@[simp] theorem get?_empty (k : κ) : (empty : SortedMap κ α).get? k = none := rfl

@[simp] theorem get?_erase_self (m : SortedMap κ α) (k : κ) : (m.erase k).get? k = none := by
  obtain ⟨l, _⟩ := m
  simp only [get?, erase]
  induction l with
  | nil => rfl
  | cons e rest ih =>
    have ih := ih (List.pairwise_cons.1 ‹_›).2
    by_cases he : sameKey e.1 k = true <;> simp [lookup, he, ih]

variable [KeyOrder κ]

theorem sameKey_iff {j k : κ} : sameKey j k = true ↔ j = k := by
  constructor
  · intro h
    rcases KeyOrder.trichotomy j k with hlt | heq | hgt
    · simp [sameKey, hlt] at h
    · exact heq
    · simp [sameKey, hgt] at h
  · rintro rfl
    simp [sameKey, KeyOrder.irrefl j]

theorem ascending_insertEntry (k : κ) (a : α) {l : List (κ × α)} (h : Ascending l) :
    Ascending (insertEntry k a l) := by
  fun_induction insertEntry k a l with
  | case1 => simp
  | case2 j b rest hlt =>
    refine List.pairwise_cons.2 ⟨fun x hx => ?_, h⟩
    rcases List.mem_cons.1 hx with rfl | hx
    · exact hlt
    · exact KeyOrder.trans hlt ((List.pairwise_cons.1 h).1 x hx)
  | case3 j b rest _ hlt ih =>
    obtain ⟨hj, hrest⟩ := List.pairwise_cons.1 h
    refine List.pairwise_cons.2 ⟨fun x hx => ?_, ih hrest⟩
    rcases mem_insertEntry hx with rfl | hx
    · exact hlt
    · exact hj x hx
  | case4 j b rest hkj hjk =>
    obtain ⟨hj, hrest⟩ := List.pairwise_cons.1 h
    obtain rfl : j = k := by
      rcases KeyOrder.trichotomy j k with h | h | h
      · exact absurd h hjk
      · exact h
      · exact absurd h hkj
    exact List.pairwise_cons.2 ⟨hj, hrest⟩

theorem lookup_insertEntry (k : κ) (a : α) (i : κ) {l : List (κ × α)} :
    lookup i (insertEntry k a l) = if sameKey k i then some a else lookup i l := by
  fun_induction insertEntry k a l with
  | case1 => simp [lookup]
  | case2 => simp [lookup]
  | case3 j b rest _ hlt ih =>
    simp only [lookup, ih]
    by_cases hj : sameKey j i = true
    · by_cases hk : sameKey k i = true
      · obtain rfl := sameKey_iff.1 hj
        obtain rfl := sameKey_iff.1 hk
        exact absurd hlt (KeyOrder.irrefl _)
      · simp [hj, hk]
    · simp [hj]
  | case4 j b rest hkj hjk =>
    obtain rfl : j = k := sameKey_iff.1 (by simp [sameKey, hkj, hjk])
    by_cases hj : sameKey j i = true <;> simp [lookup, hj]

theorem lookup_isSome_iff {k : κ} {l : List (κ × α)} :
    (lookup k l).isSome = true ↔ k ∈ l.map Prod.fst := by
  induction l with
  | nil => simp [lookup]
  | cons e rest ih =>
    rw [lookup]
    split
    · rename_i hsame
      simp [sameKey_iff.1 hsame]
    · rename_i hsame
      have hne : k ≠ e.1 := fun heq => hsame (sameKey_iff.2 heq.symm)
      simp [ih, hne]

theorem lookup_eq_some_iff {k : κ} {a : α} {l : List (κ × α)} (h : Ascending l) :
    lookup k l = some a ↔ (k, a) ∈ l := by
  induction l with
  | nil => simp [lookup]
  | cons e rest ih =>
    obtain ⟨hfirst, hrest⟩ := List.pairwise_cons.1 h
    rw [lookup, List.mem_cons]
    split
    · rename_i hsame
      obtain rfl := sameKey_iff.1 hsame
      -- The key of the first entry is below all others.
      have hout : (e.1, a) ∉ rest := fun hmem => KeyOrder.irrefl e.1 (hfirst (e.1, a) hmem)
      simp [hout, Prod.ext_iff, eq_comm]
    · rename_i hsame
      have hne : k ≠ e.1 := fun heq => hsame (sameKey_iff.2 heq.symm)
      simp [ih hrest, Prod.ext_iff, hne]

/-- Two maps with the same bindings are the same map. -/
theorem eq_of_get? {m n : SortedMap κ α} (h : ∀ k, m.get? k = n.get? k) : m = n := by
  have hnodup : ∀ o : SortedMap κ α, o.entries.Nodup := by
    intro o
    refine o.ascending.imp fun hlt heq => ?_
    subst heq
    exact KeyOrder.irrefl _ hlt
  have hperm : m.entries.Perm n.entries := by
    refine (List.perm_ext_iff_of_nodup (hnodup m) (hnodup n)).2 fun e => ?_
    rw [← lookup_eq_some_iff m.ascending, ← lookup_eq_some_iff n.ascending,
      show lookup e.1 m.entries = lookup e.1 n.entries from h e.1]
  have hentries : m.entries = n.entries :=
    hperm.eq_of_pairwise
      (fun _ _ _ _ hlt hgt => absurd (KeyOrder.trans hlt hgt) (KeyOrder.irrefl _))
      m.ascending n.ascending
  cases m
  cases n
  congr

/-- The size counts keys: it is the number of bound keys in any list without repetitions that has
    all of them. -/
theorem size_eq_length_filter (m : SortedMap κ α) {ks : List κ} (hnodup : ks.Nodup)
    (hall : ∀ k, (m.get? k).isSome = true → k ∈ ks) :
    m.size = (ks.filter fun k => (m.get? k).isSome).length := by
  have hkeys : (m.entries.map Prod.fst).Nodup := by
    refine List.pairwise_map.2 (m.ascending.imp fun hlt heq => ?_)
    exact KeyOrder.irrefl _ (heq ▸ hlt)
  have hperm : (m.entries.map Prod.fst).Perm (ks.filter fun k => (m.get? k).isSome) := by
    refine (List.perm_ext_iff_of_nodup hkeys (hnodup.filter _)).2 fun k => ?_
    rw [← lookup_isSome_iff, List.mem_filter]
    exact ⟨fun hk => ⟨hall k hk, hk⟩, And.right⟩
  rw [← hperm.length_eq, List.length_map]
  rfl

/-! ## Binding a key -/

/-- Bind a key, whether or not it was bound. -/
def insert (m : SortedMap κ α) (k : κ) (a : α) : SortedMap κ α :=
  ⟨insertEntry k a m.entries, ascending_insertEntry k a m.ascending⟩

/-- The map with the bindings of a list; of several for one key the last stays. -/
def ofList (l : List (κ × α)) : SortedMap κ α := l.foldl (fun m e => m.insert e.1 e.2) empty

@[simp] theorem get?_insert_self (m : SortedMap κ α) (k : κ) (a : α) :
    (m.insert k a).get? k = some a := by
  simp [get?, insert, lookup_insertEntry, sameKey_iff.2 rfl]

theorem get?_insert_of_ne (m : SortedMap κ α) {k i : κ} (a : α) (h : k ≠ i) :
    (m.insert k a).get? i = m.get? i := by
  have : sameKey k i = false := by simpa using mt sameKey_iff.1 h
  simp [get?, insert, lookup_insertEntry, this]

theorem get?_insert (m : SortedMap κ α) (k i : κ) (a : α) [DecidableEq κ] :
    (m.insert k a).get? i = if k = i then some a else m.get? i := by
  split
  · rename_i heq
    subst heq
    exact get?_insert_self m k a
  · rename_i hne
    exact get?_insert_of_ne m a hne

theorem get?_erase_of_ne (m : SortedMap κ α) {k i : κ} (h : k ≠ i) :
    (m.erase k).get? i = m.get? i := by
  obtain ⟨l, _⟩ := m
  simp only [get?, erase]
  induction l with
  | nil => rfl
  | cons e rest ih =>
    have ih := ih (List.pairwise_cons.1 ‹_›).2
    by_cases he : sameKey e.1 k = true
    · have hi : sameKey e.1 i = false := by
        obtain rfl := sameKey_iff.1 he
        simpa using mt sameKey_iff.1 h
      simp [lookup, he, hi, ih]
    · by_cases hi : sameKey e.1 i = true <;> simp [lookup, he, hi, ih]

theorem insert_insert (m : SortedMap κ α) (k : κ) (a b : α) :
    (m.insert k a).insert k b = m.insert k b := by
  refine eq_of_get? fun i => ?_
  by_cases hi : k = i
  · subst hi
    rw [get?_insert_self, get?_insert_self]
  · rw [get?_insert_of_ne _ _ hi, get?_insert_of_ne _ _ hi, get?_insert_of_ne _ _ hi]

theorem erase_erase (m : SortedMap κ α) (k : κ) : (m.erase k).erase k = m.erase k := by
  refine eq_of_get? fun i => ?_
  by_cases hi : k = i
  · subst hi
    rw [get?_erase_self, get?_erase_self]
  · rw [get?_erase_of_ne _ hi]

end SortedMap

end BrowserTelemetry
