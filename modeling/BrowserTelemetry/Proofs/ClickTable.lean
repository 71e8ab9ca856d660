import BrowserTelemetry.Telemetry.Attribution
import BrowserTelemetry.Telemetry.RedirectChain

/-!
# The table of ad clicks

A row of the table is missing, a whole number, or a number that has outgrown 64 bits. `bump` is what
one click makes of a row and `afterClicks` what several make of it; `rowCount?` is what is read off
it. The three are tied by `rowCount?_afterClicks`: **as long as the count fits, clicks add up**. In
which order they come never matters (`Database.clicked_comm`).

`IsAdClick` says when a redirect chain is a click on an ad of a provider: that provider is the first
to serve the root, and the chain came through an ad server of it. How addresses are read, which
hosts serve and what an ad server is, it takes as they are (`Url.parse?`, `SearchProvider.serves`,
`SearchProvider.isAdServer`); what the pattern of an ad server describes is told by
`SearchProvider.patternMatches_iff`.
-/

namespace BrowserTelemetry

set_option autoImplicit false

/-! ## Rows -/

/-- A row after one more click. -/
def bump : Option StoredCount → StoredCount
  | none => .integer 1
  | some n => n.next

/-- A row after some clicks. -/
def afterClicks (row : Option StoredCount) : Nat → Option StoredCount
  | 0 => row
  | k + 1 => some (bump (afterClicks row k))

/-- The count that a row stands for, unless it has outgrown 64 bits. -/
def rowCount? : Option StoredCount → Option Int
  | none => some 0
  | some (.integer n) => some n.toInt
  | some .real => none

theorem toInt_add_one {n : Int64} (h : n ≠ Int64.maxValue) : (n + 1).toInt = n.toInt + 1 := by
  have hne : n.toInt ≠ Int64.maxValue.toInt := fun heq => h (Int64.toInt_inj.1 heq)
  have hle := n.toInt_le
  have hge := n.le_toInt
  rw [Int64.toInt_maxValue] at hne hle
  have hone : (1 : Int64).toInt = 1 := rfl
  rw [Int64.toInt_add, hone]
  exact Int.bmod_eq_of_le (by omega) (by omega)

theorem rowCount?_bump {row : Option StoredCount} {c : Int} (h : rowCount? row = some c)
    (hc : c < Int64.maxValue.toInt) : rowCount? (some (bump row)) = some (c + 1) := by
  cases row with
  | none =>
    obtain rfl := Option.some.inj h
    rfl
  | some n =>
    cases n with
    | real => exact absurd h (by simp [rowCount?])
    | integer n =>
      obtain rfl := Option.some.inj h
      have hn : n ≠ Int64.maxValue := by
        rintro rfl
        exact absurd hc (Int.lt_irrefl _)
      simp only [bump, StoredCount.next, hn, if_false, rowCount?, toInt_add_one hn]

theorem rowCount?_of_nonneg {row : Option StoredCount}
    (h : ∀ n, row = some n → ∃ i : Int64, n = .integer i ∧ 0 ≤ i.toInt) :
    ∃ c : Nat, rowCount? row = some (c : Int) := by
  cases row with
  | none => exact ⟨0, rfl⟩
  | some n =>
    obtain ⟨i, rfl, hi⟩ := h n rfl
    exact ⟨i.toInt.toNat, by rw [rowCount?, Int.toNat_of_nonneg hi]⟩

/-- Clicks add up as long as the count fits. -/
theorem rowCount?_afterClicks {row : Option StoredCount} {c : Int} (h : rowCount? row = some c)
    {k : Nat} (hk : c + k ≤ Int64.maxValue.toInt) :
    rowCount? (afterClicks row k) = some (c + k) := by
  induction k with
  | zero => simpa [afterClicks] using h
  | succ k ih =>
    -- One click less fits as well.
    have hprev := ih (by omega)
    rw [afterClicks, rowCount?_bump hprev (by omega)]
    congr 1
    omega

theorem afterClicks_bump (row : Option StoredCount) (k : Nat) :
    afterClicks (some (bump row)) k = afterClicks row (k + 1) := by
  induction k with
  | zero => rfl
  | succ k ih => rw [afterClicks, ih, ← afterClicks]

theorem rowCount?_le {row : Option StoredCount} {c : Int} (h : rowCount? row = some c) :
    c ≤ Int64.maxValue.toInt := by
  match row with
  | none =>
    obtain rfl := Option.some.inj h
    decide
  | some (.integer n) =>
    obtain rfl := Option.some.inj h
    exact n.toInt_le
  | some .real => exact absurd h (by simp [rowCount?])

/-- A click on a row that is full, or was before, leaves no count. -/
theorem rowCount?_bump_eq_none {row : Option StoredCount}
    (h : ∀ c, rowCount? row = some c → Int64.maxValue.toInt ≤ c) :
    rowCount? (some (bump row)) = none := by
  match row with
  | none => exact absurd (h 0 rfl) (by decide)
  | some (.integer n) =>
    have hn : n = Int64.maxValue := Int64.toInt_inj.1 (Int.le_antisymm n.toInt_le (h _ rfl))
    rw [bump, StoredCount.next, if_pos hn, rowCount?]
  | some .real => rfl

/-- From the first click beyond 64 bits on there is no count. -/
theorem rowCount?_afterClicks_eq_none {row : Option StoredCount} {c : Int}
    (h : rowCount? row = some c) {k : Nat} (hk : Int64.maxValue.toInt < c + k) :
    rowCount? (afterClicks row k) = none := by
  induction k with
  | zero =>
    have hle := rowCount?_le h
    omega
  | succ k ih =>
    refine rowCount?_bump_eq_none fun d hd => ?_
    -- Either the last click came to a full row, or the row had outgrown its bits before it.
    by_cases hfull : c + k ≤ Int64.maxValue.toInt
    · rw [rowCount?_afterClicks h hfull] at hd
      obtain rfl := Option.some.inj hd
      omega
    · rw [ih (Int.not_le.1 hfull)] at hd
      exact absurd hd (by simp)

namespace Database

variable {db : Database} {table : SortedMap String StoredCount}

theorem adClicksOf_eq (htable : db.adClicks = some table) {provider : String} {c : Int}
    (h : rowCount? (table.get? provider) = some c) : db.adClicksOf provider = .ok c.toNat := by
  simp only [adClicksOf, htable]
  cases hrow : table.get? provider with
  | none =>
    rw [hrow] at h
    obtain rfl := Option.some.inj h
    rfl
  | some n =>
    rw [hrow] at h
    cases n with
    | real => exact absurd h (by simp [rowCount?])
    | integer n =>
      obtain rfl := Option.some.inj h
      rfl

theorem adClicksOf_eq_error (htable : db.adClicks = some table) {provider : String}
    (h : rowCount? (table.get? provider) = none) : db.adClicksOf provider = .error .database := by
  simp only [adClicksOf, htable]
  cases hrow : table.get? provider with
  | none => exact absurd h (by simp [hrow, rowCount?])
  | some n =>
    cases n with
    | integer n => exact absurd h (by simp [hrow, rowCount?])
    | real => rfl

theorem adClicksOf_congr {db' : Database} {table' : SortedMap String StoredCount}
    (htable : db.adClicks = some table) (htable' : db'.adClicks = some table') {provider : String}
    (hrow : table'.get? provider = table.get? provider) :
    db'.adClicksOf provider = db.adClicksOf provider := by
  simp only [adClicksOf, htable, htable', hrow]

/-- The database after an ad click of a provider, if there was one. Without a table for clicks
    nothing changes. -/
def clicked (db : Database) : Option String → Database
  | none => db
  | some provider =>
    { db with
      adClicks := db.adClicks.map fun table => table.insert provider (bump (table.get? provider)) }

theorem clicked_of_none (h : db.adClicks = none) (provider? : Option String) :
    db.clicked provider? = db := by
  cases db
  cases h
  cases provider? <;> rfl

/-- Clicks can be recorded in either order, also of one provider, and whatever their rows hold. -/
theorem clicked_comm (db : Database) (p q : Option String) :
    (db.clicked p).clicked q = (db.clicked q).clicked p := by
  match p, q, hdb : db.adClicks with
  | none, _, _ => rfl
  | _, none, _ => rfl
  | p, q, none => rw [clicked_of_none hdb, clicked_of_none hdb, clicked_of_none hdb]
  | some p, some q, some table =>
    by_cases hpq : p = q
    · rw [hpq]
    · -- Neither click looks at the row of the other.
      simp only [clicked, hdb, Option.map_some, SortedMap.get?_insert, if_neg hpq,
        if_neg (Ne.symm hpq)]
      congr 2
      refine SortedMap.eq_of_get? fun k => ?_
      simp only [SortedMap.get?_insert]
      by_cases hp : p = k
      · simp [hp, hp ▸ Ne.symm hpq]
      · simp [hp]

/-- A click bumps the row of its provider and leaves the other rows and tables alone. -/
theorem recordAdClick_eq (htable : db.adClicks = some table) (provider : String) :
    db.recordAdClick provider =
      .ok { db with adClicks := some (table.insert provider (bump (table.get? provider))) } := by
  simp only [recordAdClick, htable]
  cases table.get? provider <;> rfl

end Database

/-! ## Attribution -/

/-- Is the chain a click on an ad of the provider called `name`? Its root is an address that some
    provider serves; the first of these has that name; and one of the addresses of the chain is on
    an ad server of it. -/
def IsAdClick (providers : List SearchProvider) (name : String) (c : RedirectChain) : Prop :=
  ∃ u p, Url.parse? c.root = some u ∧ providers.find? (fun p => p.serves u) = some p ∧
    p.name = name ∧ ∃ url ∈ c.chain, ∃ v, Url.parse? url = some v ∧ p.isAdServer v = true

namespace Attribution

theorem of_eq_click_iff {providers : List SearchProvider} {c : RedirectChain} {p : SearchProvider} :
    of providers c.root c.chain = .click p ↔
      ∃ u, Url.parse? c.root = some u ∧ providers.find? (fun p => p.serves u) = some p ∧
        ∃ url ∈ c.chain, ∃ v, Url.parse? url = some v ∧ p.isAdServer v = true := by
  unfold of
  cases hroot : Url.parse? c.root with
  | none => simp
  | some u =>
    cases hfind : providers.find? fun p => p.serves u with
    | none => simp [hfind]
    | some q =>
      simp only [Option.some.injEq, exists_eq_left', hfind]
      have hany : (c.chain.filterMap Url.parse?).any q.isAdServer = true ↔
          ∃ url ∈ c.chain, ∃ v, Url.parse? url = some v ∧ q.isAdServer v = true := by
        rw [List.any_eq_true]
        constructor
        · rintro ⟨v, hv, hserver⟩
          obtain ⟨url, hurl, hparse⟩ := List.mem_filterMap.1 hv
          exact ⟨url, hurl, v, hparse, hserver⟩
        · rintro ⟨url, hurl, v, hparse, hserver⟩
          exact ⟨v, List.mem_filterMap.2 ⟨url, hurl, hparse⟩, hserver⟩
      constructor
      · intro h
        split at h
        · rename_i hserver
          obtain rfl := Attribution.click.inj h
          exact ⟨rfl, hany.1 hserver⟩
        · exact absurd h (by simp)
      · rintro ⟨rfl, hserver⟩
        rw [if_pos (hany.2 hserver)]

/-- What the code finds out about a chain is whether it is a click, and for whom. -/
theorem isAdClick_iff {providers : List SearchProvider} {name : String} {c : RedirectChain} :
    IsAdClick providers name c ↔ ∃ p, of providers c.root c.chain = .click p ∧ p.name = name := by
  constructor
  · rintro ⟨u, p, hroot, hfind, hname, hserver⟩
    exact ⟨p, of_eq_click_iff.2 ⟨u, hroot, hfind, hserver⟩, hname⟩
  · rintro ⟨p, hof, hname⟩
    obtain ⟨u, hroot, hfind, hserver⟩ := of_eq_click_iff.1 hof
    exact ⟨u, p, hroot, hfind, hname, hserver⟩

instance (providers : List SearchProvider) (name : String) (c : RedirectChain) :
    Decidable (IsAdClick providers name c) :=
  decidable_of_iff
    ((match of providers c.root c.chain with
      | .click p => decide (p.name = name)
      | .unreadableRoot | .organic => false) = true)
    (by
      rw [isAdClick_iff]
      cases of providers c.root c.chain <;> simp)

end Attribution

end BrowserTelemetry
