import BrowserTelemetry.Proofs.HostCase

/-!
# Hosts label by label

Whether a host belongs to a domain is decided on the text, by an equality or by a suffix after a
dot. **It means that the labels of the domain are the last labels of the host**
(`hostMatches_iff_labels`), with empty labels counted like any others: those of `google.com.` are
three, and the empty domain has a single one, which is empty.

That a host does not match what only ends with the same letters, and that subdomains of subdomains
are subdomains, is then said of lists of labels.
-/

namespace BrowserTelemetry

set_option autoImplicit false

open Unicode

/-! ## Labels -/

namespace Domain

theorem intercalate_labels (cs : List Char) : ['.'].intercalate (labels cs) = cs :=
  List.intercalate_splitOn '.'

theorem labels_append_dot (front cs : List Char) :
    labels (front ++ '.' :: cs) = labels front ++ labels cs :=
  List.splitOnP_append_cons front cs (decide_eq_true rfl)

theorem labels_ne_nil (cs : List Char) : labels cs ≠ [] := List.splitOnP_ne_nil _ cs

theorem intercalate_append {α : Type} (sep : List α) {ls ms : List (List α)} (hls : ls ≠ [])
    (hms : ms ≠ []) :
    sep.intercalate (ls ++ ms) = sep.intercalate ls ++ sep ++ sep.intercalate ms := by
  induction ls with
  | nil => exact absurd rfl hls
  | cons l rest ih =>
    cases rest with
    | nil =>
      rw [List.singleton_append, List.intercalate_cons_of_ne_nil hms, List.intercalate_singleton]
    | cons l' rest =>
      rw [List.cons_append, List.intercalate_cons_of_ne_nil (by simp),
        List.intercalate_cons_of_ne_nil (by simp), ih (by simp)]
      simp only [List.append_assoc]

/-- The last labels of a text are those of what stands after one of its dots, or all of them. -/
theorem labels_suffix_iff {cs ds : List Char} :
    labels ds <:+ labels cs ↔ cs = ds ∨ '.' :: ds <:+ cs := by
  constructor
  · rintro ⟨ls, hls⟩
    have hcs : cs = ['.'].intercalate (ls ++ labels ds) := by rw [hls, intercalate_labels]
    by_cases hnil : ls = []
    · left
      rw [hcs, hnil, List.nil_append, intercalate_labels]
    · right
      rw [hcs, intercalate_append _ hnil (labels_ne_nil ds), intercalate_labels, List.append_assoc]
      exact List.suffix_append _ _
  · rintro (rfl | ⟨front, rfl⟩)
    · exact List.suffix_refl _
    · rw [labels_append_dot]
      exact List.suffix_append _ _

end Domain

/-! ## Hosts -/

namespace SearchProvider

variable {host domain : String}

theorem hostMatches_iff :
    hostMatches host domain = true ↔
      lower host.toList = domain.toList ∨ '.' :: domain.toList <:+ lower host.toList := by
  unfold hostMatches
  rw [Bool.or_eq_true, decide_eq_true_iff, List.isSuffixOf_iff_suffix]

theorem hostMatches_iff_labels :
    hostMatches host domain = true ↔
      Domain.labels domain.toList <:+ Domain.labels (lower host.toList) :=
  hostMatches_iff.trans Domain.labels_suffix_iff.symm

/-- What a host matches is written in small letters. -/
theorem lower_of_hostMatches (h : hostMatches host domain = true) :
    lower domain.toList = domain.toList := by
  refine lower_of_isSmall (isSmall_of_not_hasCapital fun hcapital => ?_)
  rw [hostMatches_of_hasCapital hcapital host] at h
  cases h

/-- The same letters at the end are not enough: there has to be a dot before them. -/
theorem hostMatches_of_no_dot {front : List Char} {c : Char}
    (hlower : lower host.toList = front ++ c :: domain.toList) (hc : c ≠ '.') :
    hostMatches host domain = false := by
  rw [Bool.eq_false_iff]
  intro h
  rcases hostMatches_iff.1 h with hsame | hdot
  · have hlength := congrArg List.length (hlower.symm.trans hsame)
    rw [List.length_append, List.length_cons] at hlength
    omega
  · -- Two ends of one text, of the same length.
    have hend : c :: domain.toList <:+ lower host.toList := ⟨front, hlower.symm⟩
    have hsuffix : '.' :: domain.toList <:+ c :: domain.toList :=
      List.suffix_of_suffix_length_le hdot hend (Nat.le_refl _)
    exact hc (List.cons.inj (hsuffix.eq_of_length rfl)).1.symm

theorem hostMatches_trans {d₁ d₂ : String} (h₁ : hostMatches host d₁ = true)
    (h₂ : hostMatches d₁ d₂ = true) : hostMatches host d₂ = true := by
  rw [hostMatches_iff_labels] at h₂ ⊢
  rw [lower_of_hostMatches h₁] at h₂
  exact h₂.trans (hostMatches_iff_labels.1 h₁)

/-- **Hosts are matched label by label.** A host matches a domain just if the labels of the domain
    are the last labels of the host in lower case. So

    * it does not match a domain that it ends with in the middle of a label;
    * a domain that it matches is written in lower case, and what that domain matches, it matches
      too. -/
theorem hostMatches_label_by_label (host : String) :
    (∀ domain, hostMatches host domain = true ↔
      Domain.labels domain.toList <:+ Domain.labels (lower host.toList)) ∧
    (∀ (domain : String) (front : List Char) (c : Char),
      lower host.toList = front ++ c :: domain.toList → c ≠ '.' → hostMatches host domain = false) ∧
    (∀ d₁, hostMatches host d₁ = true → lower d₁.toList = d₁.toList) ∧
    ∀ d₁ d₂, hostMatches host d₁ = true → hostMatches d₁ d₂ = true → hostMatches host d₂ = true :=
  ⟨fun _ => hostMatches_iff_labels, fun _ _ _ hlower hc => hostMatches_of_no_dot hlower hc,
    fun _ h => lower_of_hostMatches h, fun _ _ h₁ h₂ => hostMatches_trans h₁ h₂⟩

/-- A host with a dot at its end matches the empty domain, and no domain without that dot. -/
theorem hostMatches_label_by_label_at_boundaries :
    hostMatches "evilgoogle.com" "google.com" = false ∧
    hostMatches "google.com." "" = true ∧ hostMatches "google.com." "google.com" = false ∧
    lower "www.école.fr".toList = "www.école.fr".toList ∧
    hostMatches "Ads.WWW.École.fr" "école.fr" = true := by
  obtain ⟨-, hevil, -, -⟩ := hostMatches_label_by_label "evilgoogle.com"
  obtain ⟨hlabels, -, -, -⟩ := hostMatches_label_by_label "google.com."
  obtain ⟨-, -, hlower, htrans⟩ := hostMatches_label_by_label "Ads.WWW.École.fr"
  have hwww : hostMatches "Ads.WWW.École.fr" "www.école.fr" = true := by decide +kernel
  refine ⟨hevil "google.com" "evi".toList 'l' (by decide +kernel) (by decide), ?_, ?_,
    hlower _ hwww, htrans _ "école.fr" hwww (by decide +kernel)⟩
  · exact (hlabels "").2 (by decide +kernel)
  · exact Bool.eq_false_iff.2 (mt (hlabels "google.com").1 (by decide +kernel))

end SearchProvider
end BrowserTelemetry
