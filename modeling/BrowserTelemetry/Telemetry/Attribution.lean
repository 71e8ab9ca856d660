import BrowserTelemetry.Storage.Database
import BrowserTelemetry.Unicode.LowerCase
import BrowserTelemetry.Url.Parse

/-!
# Ad clicks

A redirect chain that begins on the results page of a search provider and leads through one of the
provider's ad servers is a click on an ad. It is counted for the first provider, in the order of the
list, that serves the page; no other one is considered.
-/

namespace BrowserTelemetry

set_option autoImplicit false

/-- A search provider. -/
structure SearchProvider where
  name : String
  /-- Hosts that, with their subdomains, serve the results page. -/
  searchHosts : List String
  /-- Ad servers, each a host with a path that has to come first, parted by a slash. -/
  adServers : List String
  deriving DecidableEq, Repr, Inhabited

namespace SearchProvider

/-- The providers that are known from the start. -/
def defaults : List SearchProvider :=
  [⟨"google", ["google.com"], ["googleadservices.com/pagead/aclk", "google.com/aclk"]⟩,
    ⟨"bing", ["bing.com"], ["bing.com/aclk", "bing.com/aclick"]⟩,
    ⟨"duckduckgo", ["duckduckgo.com"], ["duckduckgo.com/y.js"]⟩]

/-- Is the host the domain, or a subdomain of it? Letters of the host may be of either case. -/
def hostMatches (host domain : String) : Bool :=
  let h := Unicode.lower host.toList
  h = domain.toList || ('.' :: domain.toList).isSuffixOf h

/-- The host and the path of an ad server. -/
def splitPattern (pattern : String) : List Char × List Char :=
  let host := pattern.toList.takeWhile (· ≠ '/')
  (host, pattern.toList.drop (host.length + 1))

theorem splitPattern_eq (pattern : String) :
    splitPattern pattern =
      (pattern.toList.takeWhile (· ≠ '/'), (pattern.toList.dropWhile (· ≠ '/')).drop 1) := by
  have hdrop :=
    calc pattern.toList.drop (pattern.toList.takeWhile (· ≠ '/')).length
        = (pattern.toList.takeWhile (· ≠ '/') ++ pattern.toList.dropWhile (· ≠ '/')).drop
            (pattern.toList.takeWhile (· ≠ '/')).length := by
          rw [List.takeWhile_append_dropWhile]
      _ = pattern.toList.dropWhile (· ≠ '/') := List.drop_left
  rw [splitPattern, ← List.drop_drop, hdrop]

/-- The host goes to the first slash, if there is one, and the path comes after it. -/
theorem splitPattern_eq_iff {pattern : String} {host path : List Char} :
    splitPattern pattern = (host, path) ↔
      '/' ∉ host ∧
        (pattern.toList = host ++ '/' :: path ∨ pattern.toList = host ∧ path = []) := by
  rw [splitPattern_eq, Prod.mk.injEq]
  constructor
  · rintro ⟨rfl, rfl⟩
    constructor
    · intro hslash
      have hne := List.all_eq_true.1 List.all_takeWhile _ hslash
      exact of_decide_eq_true hne rfl
    · have hparts := @List.takeWhile_append_dropWhile _ (· ≠ '/') pattern.toList
      have hfirst := List.head?_dropWhile_not (· ≠ '/') pattern.toList
      cases hback : pattern.toList.dropWhile (· ≠ '/') with
      | nil =>
        rw [hback, List.append_nil] at hparts
        exact .inr ⟨hparts.symm, rfl⟩
      | cons c path =>
        rw [hback] at hparts hfirst
        obtain rfl : c = '/' := Decidable.not_not.1 (of_decide_eq_false hfirst)
        exact .inl hparts.symm
  · rintro ⟨hslash, hpattern⟩
    have hhost : ∀ c ∈ host, decide (c ≠ '/') = true := by
      intro c hc
      refine decide_eq_true ?_
      rintro rfl
      exact hslash hc
    rcases hpattern with hpattern | ⟨hpattern, rfl⟩
    · rw [hpattern, List.takeWhile_append_of_pos hhost, List.dropWhile_append_of_pos hhost]
      simp
    · rw [hpattern, ← List.append_nil host, List.takeWhile_append_of_pos hhost,
        List.dropWhile_append_of_pos hhost]
      simp

/-- Does a page at the address show results of the provider? -/
def serves (p : SearchProvider) (u : Url) : Bool :=
  match u.host? with
  | none => false
  | some host => p.searchHosts.any (hostMatches host)

/-- Does a pattern of an ad server describe the host and path? Slashes at the beginning of the path
    do not count. -/
def patternMatches (host path pattern : String) : Bool :=
  let (patternHost, patternPath) := splitPattern pattern
  hostMatches host (String.ofList patternHost) &&
    patternPath.isPrefixOf (path.toList.dropWhile (· = '/'))

/-- The path without the slashes that it begins with. -/
theorem dropWhile_slash_eq_iff {path rest : List Char} :
    path.dropWhile (· = '/') = rest ↔
      rest.head? ≠ some '/' ∧ ∃ slashes, (∀ c ∈ slashes, c = '/') ∧ path = slashes ++ rest := by
  constructor
  · rintro rfl
    constructor
    · intro hslash
      have hfirst := List.head?_dropWhile_not (· = '/') path
      rw [hslash] at hfirst
      exact of_decide_eq_false hfirst rfl
    · refine ⟨path.takeWhile (· = '/'), fun c hc => ?_, List.takeWhile_append_dropWhile.symm⟩
      exact of_decide_eq_true (List.all_eq_true.1 List.all_takeWhile c hc)
  · rintro ⟨hfirst, slashes, hslashes, rfl⟩
    rw [List.dropWhile_append_of_pos fun c hc => decide_eq_true (hslashes c hc)]
    cases rest with
    | nil => rfl
    | cons c rest => exact List.dropWhile_cons_of_neg (by simpa using hfirst)

/-- What a pattern describes. Its host is all up to its first slash, its path all after that slash.
    The host of an address has to match the host, and the path of the address has to begin with the
    path once its own leading slashes are gone. -/
theorem patternMatches_iff {host path pattern : String} :
    patternMatches host path pattern = true ↔
      ∃ front back slashes rest,
        '/' ∉ front ∧
        (pattern.toList = front ++ '/' :: back ∨ pattern.toList = front ∧ back = []) ∧
        (∀ c ∈ slashes, c = '/') ∧ rest.head? ≠ some '/' ∧ path.toList = slashes ++ rest ∧
        hostMatches host (String.ofList front) = true ∧ back <+: rest := by
  rw [patternMatches, Bool.and_eq_true, List.isPrefixOf_iff_prefix]
  constructor
  · rintro ⟨hhost, hprefix⟩
    obtain ⟨hfront, hpattern⟩ := splitPattern_eq_iff.1 (rfl : splitPattern pattern = (_, _))
    obtain ⟨hfirst, slashes, hslashes, hpath⟩ :=
      dropWhile_slash_eq_iff.1 (rfl : path.toList.dropWhile (· = '/') = _)
    exact ⟨_, _, slashes, _, hfront, hpattern, hslashes, hfirst, hpath, hhost, hprefix⟩
  · rintro ⟨front, back, slashes, rest, hfront, hpattern, hslashes, hfirst, hpath, hhost, hprefix⟩
    rw [splitPattern_eq_iff.2 ⟨hfront, hpattern⟩,
      dropWhile_slash_eq_iff.2 ⟨hfirst, slashes, hslashes, hpath⟩]
    exact ⟨hhost, hprefix⟩

/-- Is the address on an ad server of the provider? -/
def isAdServer (p : SearchProvider) (u : Url) : Bool :=
  match u.host? with
  | none => false
  | some host => p.adServers.any (patternMatches host u.path.text)

end SearchProvider

/-- What a redirect chain turns out to be. -/
inductive Attribution where
  /-- The root is no address. -/
  | unreadableRoot
  /-- Not a click on an ad. -/
  | organic
  | click (provider : SearchProvider)
  deriving DecidableEq, Repr, Inhabited

namespace Attribution

/-- What the chain is that begins at `root`. Entries that are no addresses are passed over. -/
def of (providers : List SearchProvider) (root : String) (chain : List String) : Attribution :=
  match Url.parse? root with
  | none => .unreadableRoot
  | some u =>
    match providers.find? fun p => p.serves u with
    | none => .organic
    | some p => if (chain.filterMap Url.parse?).any p.isAdServer then .click p else .organic

/-- Record what a redirect chain is, with the log. -/
def track (providers : List SearchProvider) (db : Database) (root : String) (chain : List String) :
    Logged (Except StorageError Database) :=
  match of providers root chain with
  | .unreadableRoot => do
    Logged.log .debug "Redirect root is not a URL" [("url", .string root)]
    return .ok db
  | .organic => return .ok db
  | .click p => do
    Logged.log .info "Search ad clicked" [("provider", .string p.name)]
    return db.recordAdClick p.name

end Attribution

end BrowserTelemetry
