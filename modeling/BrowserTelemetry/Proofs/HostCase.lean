import Mathlib.Data.List.Forall2
import Mathlib.Tactic.SplitIfs
import BrowserTelemetry.Proofs.SmallLetters
import BrowserTelemetry.Storage.Migration
import BrowserTelemetry.Telemetry.Attribution

/-!
# Capitals in the hosts of a provider

The host of a page is lowered before it is compared, the host that a provider is known by is not. So
a host that is written with a capital is no page's host, nor the end of one
(`hostMatches_of_hasCapital`). A list of providers counts the same clicks without such hosts, and
two lists that differ in letter case count the same if they have their capitals in the same hosts.
-/

namespace BrowserTelemetry

set_option autoImplicit false

open Unicode

/-! ## Capitals -/

/-- The same text, but for the case of ASCII letters. -/
def SameButCase (s t : String) : Prop := s.toList.map Char.toLower = t.toList.map Char.toLower

/-- There is a capital letter in the text. -/
def HasCapital (s : String) : Prop := ∃ c ∈ s.toList, ¬ isSmall c = true

instance (s : String) : Decidable (HasCapital s) :=
  decidable_of_iff (s.toList.any (!isSmall ·) = true) (by simp [HasCapital])

instance (s t : String) : Decidable (SameButCase s t) :=
  inferInstanceAs (Decidable (s.toList.map Char.toLower = t.toList.map Char.toLower))

variable {s t : String}

theorem isSmall_of_not_hasCapital (h : ¬ HasCapital s) : ∀ c ∈ s.toList, isSmall c = true :=
  fun c hc => Decidable.byContradiction fun hcapital => h ⟨c, hc, hcapital⟩

theorem map_toLower_of_not_hasCapital (h : ¬ HasCapital s) :
    s.toList.map Char.toLower = s.toList := by
  refine (List.map_congr_left fun c hc => ?_).trans s.toList.map_id
  exact toLower_of_isSmall (isSmall_of_not_hasCapital h c hc)

theorem SameButCase.eq (h : SameButCase s t) (hs : ¬ HasCapital s) (ht : ¬ HasCapital t) :
    s = t := by
  apply String.toList_inj.1
  rw [← map_toLower_of_not_hasCapital hs, ← map_toLower_of_not_hasCapital ht]
  exact h

namespace SearchProvider

variable {p p' : SearchProvider}

/-! ## One host -/

theorem mem_lower_of_hostMatches {host : String} (h : hostMatches host s = true) :
    ∀ c ∈ s.toList, c ∈ lower host.toList := by
  intro c hc
  unfold hostMatches at h
  rcases Bool.or_eq_true _ _ ▸ h with hsame | hsuffix
  · rwa [of_decide_eq_true hsame]
  · exact (List.isSuffixOf_iff_suffix.1 hsuffix).mem (List.mem_cons_of_mem _ hc)

theorem hostMatches_of_hasCapital (h : HasCapital s) (host : String) :
    hostMatches host s = false := by
  rw [Bool.eq_false_iff]
  intro hmatch
  obtain ⟨c, hc, hcapital⟩ := h
  exact hcapital (isSmall_of_mem_lower (mem_lower_of_hostMatches hmatch c hc))

theorem hostMatches_self (h : ¬ HasCapital s) : hostMatches s s = true := by
  unfold hostMatches
  simp only [lower_of_isSmall (isSmall_of_not_hasCapital h), decide_true, Bool.true_or]

/-- No host of a page tells the two apart. -/
def MatchAlike (s t : String) : Prop := ∀ host, hostMatches host s = hostMatches host t

theorem MatchAlike.hasCapital (h : MatchAlike s t) (ht : HasCapital t) : HasCapital s := by
  by_contra hs
  -- Without a capital, `s` matches itself.
  have hself := hostMatches_self hs
  rw [h, hostMatches_of_hasCapital ht] at hself
  cases hself

/-- Two spellings of a host match the same hosts just if both have a capital or none has. -/
theorem matchAlike_iff (h : SameButCase s t) : MatchAlike s t ↔ (HasCapital s ↔ HasCapital t) := by
  constructor
  · intro halike
    exact ⟨MatchAlike.hasCapital fun host => (halike host).symm, halike.hasCapital⟩
  · intro hcapital host
    by_cases hs : HasCapital s
    · rw [hostMatches_of_hasCapital hs, hostMatches_of_hasCapital (hcapital.1 hs)]
    · rw [h.eq hs (mt hcapital.2 hs)]

/-! ## The hosts of a provider -/

/-- The host of an ad server: the text before the first slash. -/
def patternHost (pattern : String) : String := String.ofList (splitPattern pattern).1

/-- The providers are the same but for their hosts, which are related by `R` one by one. -/
structure Alike (R : String → String → Prop) (p p' : SearchProvider) : Prop where
  name : p.name = p'.name
  searchHosts : List.Forall₂ R p.searchHosts p'.searchHosts
  adServers : List.Forall₂
    (fun s t => R (patternHost s) (patternHost t) ∧
      s.toList.dropWhile (· ≠ '/') = t.toList.dropWhile (· ≠ '/')) p.adServers p'.adServers

/-- The provider without the hosts that have a capital. -/
def withoutCapitals (p : SearchProvider) : SearchProvider where
  name := p.name
  searchHosts := p.searchHosts.filter fun d => ¬ HasCapital d
  adServers := p.adServers.filter fun s => ¬ HasCapital (patternHost s)

/-- The providers cannot be told apart by what they count. -/
structure Agrees (p p' : SearchProvider) : Prop where
  name : p.name = p'.name
  serves (u : Url) : p.serves u = p'.serves u
  isAdServer (u : Url) : p.isAdServer u = p'.isAdServer u

theorem patternMatches_eq (host path pattern : String) :
    patternMatches host path pattern =
      (hostMatches host (patternHost pattern) &&
        ((pattern.toList.dropWhile (· ≠ '/')).drop 1).isPrefixOf
          (path.toList.dropWhile (· = '/'))) := by
  rw [patternMatches, patternHost, splitPattern_eq]

theorem any_of_forall₂ {α : Type} {f g : α → Bool} {l l' : List α}
    (h : List.Forall₂ (fun a b => f a = g b) l l') : l.any f = l'.any g := by
  induction h with
  | nil => rfl
  | cons hab _ ih => rw [List.any_cons, List.any_cons, hab, ih]

theorem any_filter_of {α : Type} {f keep : α → Bool} (h : ∀ a, keep a = false → f a = false)
    (l : List α) : (l.filter keep).any f = l.any f := by
  rw [List.any_filter]
  refine List.any_congr rfl fun a => ?_
  cases hkeep : keep a with
  | true => rfl
  | false => rw [h a hkeep, Bool.and_false]

theorem Alike.agrees (h : Alike MatchAlike p p') : Agrees p p' := by
  refine ⟨h.name, fun u => ?_, fun u => ?_⟩
  · unfold serves
    cases u.host? with
    | none => rfl
    | some host => exact any_of_forall₂ (h.searchHosts.imp fun _ _ halike => halike host)
  · unfold isAdServer
    cases u.host? with
    | none => rfl
    | some host =>
      refine any_of_forall₂ (h.adServers.imp fun s t hst => ?_)
      obtain ⟨halike, hpath⟩ := hst
      rw [patternMatches_eq, patternMatches_eq, hpath, halike]

theorem forall₂_imp₂ {α : Type} {R S T : α → α → Prop} {l l' : List α} (hR : List.Forall₂ R l l')
    (hS : List.Forall₂ S l l') (h : ∀ a b, R a b → S a b → T a b) : List.Forall₂ T l l' := by
  induction hR with
  | nil => exact .nil
  | cons hab _ ih =>
    obtain ⟨hab', hrest⟩ := List.forall₂_cons.1 hS
    exact .cons (h _ _ hab hab') (ih hrest)

theorem Alike.imp₂ {R S T : String → String → Prop} (hR : Alike R p p') (hS : Alike S p p')
    (h : ∀ s t, R s t → S s t → T s t) : Alike T p p' where
  name := hR.name
  searchHosts := forall₂_imp₂ hR.searchHosts hS.searchHosts h
  adServers := forall₂_imp₂ hR.adServers hS.adServers fun _ _ hr hs => ⟨h _ _ hr.1 hs.1, hr.2⟩

theorem agrees_withoutCapitals (p : SearchProvider) : Agrees p p.withoutCapitals := by
  refine ⟨rfl, fun u => ?_, fun u => ?_⟩
  · unfold serves
    cases u.host? with
    | none => rfl
    | some host =>
      refine (any_filter_of (fun d hd => ?_) p.searchHosts).symm
      exact hostMatches_of_hasCapital (not_not.1 (of_decide_eq_false hd)) host
  · unfold isAdServer
    cases u.host? with
    | none => rfl
    | some host =>
      refine (any_filter_of (fun s hs => ?_) p.adServers).symm
      rw [patternMatches_eq, hostMatches_of_hasCapital (not_not.1 (of_decide_eq_false hs)),
        Bool.false_and]

end SearchProvider

/-! ## Whole lists -/

namespace Attribution

open SearchProvider

variable {L L' : List SearchProvider}

theorem find?_serves (h : List.Forall₂ Agrees L L') (u : Url) :
    Option.Rel Agrees (L.find? (·.serves u)) (L'.find? (·.serves u)) := by
  induction h with
  | nil => exact .none
  | @cons p p' rest rest' hp _ ih =>
    rw [List.find?_cons, List.find?_cons, ← hp.serves u]
    cases p.serves u with
    | true => exact .some hp
    | false => exact ih

theorem track_congr (h : List.Forall₂ Agrees L L') (db : Database) (root : String)
    (chain : List String) : track L db root chain = track L' db root chain := by
  unfold track of
  cases Url.parse? root with
  | none => rfl
  | some u =>
    dsimp only
    have hfound := find?_serves h u
    generalize L.find? (·.serves u) = found, L'.find? (·.serves u) = found' at hfound ⊢
    cases hfound with
    | none => rfl
    | some hp =>
      simp only [funext hp.isAdServer]
      split_ifs
      · simp only [hp.name]
      · rfl

theorem track_withoutCapitals (L : List SearchProvider) (db : Database) (root : String)
    (chain : List String) :
    track L db root chain = track (L.map withoutCapitals) db root chain := by
  refine track_congr ?_ db root chain
  rw [List.forall₂_map_right_iff]
  exact List.forall₂_same.2 fun p _ => agrees_withoutCapitals p

/-- For two lists that differ in the case of their hosts. Each records what it records without the
    hosts that have a capital, since these match nothing. Each host of one list matches what its
    other spelling matches just if both have a capital or neither has, and then the lists record the
    same. -/
theorem track_ignores_capitals (h : List.Forall₂ (Alike SameButCase) L L') :
    (∀ db root chain, track L db root chain = track (L.map withoutCapitals) db root chain ∧
      track L' db root chain = track (L'.map withoutCapitals) db root chain) ∧
    (List.Forall₂ (Alike MatchAlike) L L' ↔
      List.Forall₂ (Alike fun s t => HasCapital s ↔ HasCapital t) L L') ∧
    (List.Forall₂ (Alike fun s t => HasCapital s ↔ HasCapital t) L L' →
      ∀ db root chain, track L db root chain = track L' db root chain) := by
  have hiff : List.Forall₂ (Alike MatchAlike) L L' ↔
      List.Forall₂ (Alike fun s t => HasCapital s ↔ HasCapital t) L L' := by
    constructor
    · intro halike
      refine forall₂_imp₂ h halike fun p p' hcase halike => hcase.imp₂ halike ?_
      exact fun s t hst => (matchAlike_iff hst).1
    · intro hcapital
      refine forall₂_imp₂ h hcapital fun p p' hcase hcapital => hcase.imp₂ hcapital ?_
      exact fun s t hst => (matchAlike_iff hst).2
  refine ⟨?_, hiff, ?_⟩
  · intro db root chain
    exact ⟨track_withoutCapitals L db root chain, track_withoutCapitals L' db root chain⟩
  · intro hcapital db root chain
    exact track_congr ((hiff.2 hcapital).imp fun _ _ halike => halike.agrees) db root chain

/-- Two spellings with their capitals in the same hosts: those hosts might as well be left out. -/
theorem track_ignores_capitals_beside_small_hosts :
    let p : SearchProvider :=
      ⟨"google", ["google.com", "Google.de"], ["google.com/aclk", "aD.test/Go"]⟩
    let p' : SearchProvider :=
      ⟨"google", ["google.com", "gOOGLE.de"], ["google.com/aclk", "Ad.test/Go"]⟩
    ∀ db root chain, track [p] db root chain = track [p'] db root chain ∧
      track [p] db root chain =
        track [⟨"google", ["google.com"], ["google.com/aclk"]⟩] db root chain := by
  intro p p' db root chain
  have hcase : Alike SameButCase p p' :=
    ⟨rfl, .cons (by decide) (.cons (by decide) .nil), .cons (by decide) (.cons (by decide) .nil)⟩
  have hcapital : Alike (fun s t => HasCapital s ↔ HasCapital t) p p' :=
    ⟨rfl, .cons (by decide) (.cons (by decide) .nil), .cons (by decide) (.cons (by decide) .nil)⟩
  have hreduced : [p].map withoutCapitals = [⟨"google", ["google.com"], ["google.com/aclk"]⟩] := by
    decide
  obtain ⟨hwithout, -, hlists⟩ := track_ignores_capitals (.cons hcase .nil)
  exact ⟨hlists (.cons hcapital .nil) db root chain, hreduced ▸ (hwithout db root chain).1⟩

/-- A capital in the hosts of a provider loses the clicks on its ads. -/
theorem click_lost_by_capital :
    let small : SearchProvider := ⟨"google", ["google.com"], ["google.com/aclk"]⟩
    let capital : SearchProvider := ⟨"google", ["Google.com"], ["Google.com/aclk"]⟩
    let clicks (p : SearchProvider) : Except StorageError Nat :=
      (track [p] .fresh "gemini://www.google.com/search?q=shoes"
        ["gemini://www.google.com/aclk?sa=l"]).value.bind (·.adClicksOf "google")
    Alike SameButCase small capital ∧ clicks small = .ok 1 ∧ clicks capital = .ok 0 := by
  refine ⟨⟨rfl, ?_, ?_⟩, ?_, ?_⟩
  · exact .cons (by decide) .nil
  · exact .cons (by decide) .nil
  · decide +kernel
  · decide +kernel

end Attribution
end BrowserTelemetry
