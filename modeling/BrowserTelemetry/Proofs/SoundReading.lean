import BrowserTelemetry.Json.Reader

/-!
# A reading is sound or it stops

While a text is being read, all that has been put together is sound (`Reading.Sound`). The first
fault ends the reading, and what was open around it is closed with the fault in place of its end
(`cut_enclose`). So an object that ends where it should has no fault inside, however deep
(`sound_of_read`).
-/

namespace BrowserTelemetry
namespace Document

set_option autoImplicit false

variable {d : Document} {b : Break} {items : List Document}
  {entries : List (Option String × Document)} {outer : List Frame}

/-- The document has no fault that shows when it is passed over. -/
def Sound (d : Document) : Prop := d.skipFault? = none

/-- The document does not end as it should. -/
def Cut : Document → Prop
  | .array _ cut | .object _ cut => cut ≠ none
  | .missing | .unclosed _ | .broken _ => True
  | _ => False

theorem sound_array (h : ∀ d ∈ items, d.Sound) : (Document.array items none).Sound := by
  have hitems : skipItems? items = none := by
    induction items with
    | nil => rfl
    | cons d rest ih =>
      obtain ⟨hd, hrest⟩ := List.forall_mem_cons.1 h
      rw [skipItems?, hd, Option.none_or, ih hrest]
  show (skipItems? items).or none = none
  rw [hitems, Option.none_or]

theorem sound_object :
    (Document.object entries none).Sound ↔ ∀ e ∈ entries, e.2.Sound := by
  have hentries : skipEntries? entries = none ↔ ∀ e ∈ entries, e.2.Sound := by
    induction entries with
    | nil => exact iff_of_true rfl nofun
    | cons e rest ih =>
      rw [skipEntries?, Option.or_eq_none_iff, ih, List.forall_mem_cons]
      rfl
  unfold Sound
  rw [skipFault?, Option.map_none, Option.or_none]
  exact hentries

/-! ## Halting -/

theorem cut_enclose (h : d.Cut) : (enclose b d outer).Cut := by
  induction outer generalizing d with
  | nil => exact h
  | cons frame rest ih =>
    cases frame with
    | array items => exact ih (Option.some_ne_none b)
    | object entries key => exact ih (Option.some_ne_none b)

/-! ## What has been read is sound -/

/-- What waits in a frame is sound. -/
def Frame.Sound : Frame → Prop
  | .array items => ∀ d ∈ items, d.Sound
  | .object entries _ => ∀ e ∈ entries, e.2.Sound

/-- All that waits is sound; a finished document is, unless it is cut. -/
def Reading.Sound : Reading → Prop
  | .value outer | .firstItem outer | .firstKey outer => ∀ f ∈ outer, f.Sound
  | .afterItem items outer => (∀ d ∈ items, d.Sound) ∧ ∀ f ∈ outer, f.Sound
  | .nextKey entries outer | .colon entries _ outer | .afterEntry entries outer =>
    (∀ e ∈ entries, e.2.Sound) ∧ ∀ f ∈ outer, f.Sound
  | .done root _ => root.Sound ∨ root.Cut

theorem sound_halt (h : d.Cut) : (halt b d outer).Sound := Or.inr (cut_enclose h)

theorem sound_deliver (hd : d.Sound) (houter : ∀ f ∈ outer, f.Sound) : (deliver d outer).Sound := by
  cases outer with
  | nil => exact Or.inl hd
  | cons frame rest =>
    obtain ⟨hframe, hrest⟩ := List.forall_mem_cons.1 houter
    cases frame with
    | array items => exact ⟨List.forall_mem_cons.2 ⟨hd, hframe⟩, hrest⟩
    | object entries key => exact ⟨List.forall_mem_cons.2 ⟨hd, hframe⟩, hrest⟩

theorem sound_beginValue (houter : ∀ f ∈ outer, f.Sound) (t : Token) :
    (beginValue outer t).Sound := by
  cases t with
  | null | bool | number => exact sound_deliver rfl houter
  | string s => cases s <;> exact sound_deliver rfl houter
  | openArray | openObject => exact houter
  | closeArray | closeObject | comma | colon | unclosed | broken => exact sound_halt trivial

theorem sound_beginEntry (hentries : ∀ e ∈ entries, e.2.Sound) (houter : ∀ f ∈ outer, f.Sound)
    (t : Token) : (beginEntry entries outer t).Sound := by
  cases t with
  | string s => exact ⟨hentries, houter⟩
  | _ => exact sound_halt (Option.some_ne_none _)

namespace Reading

variable {r : Reading}

theorem Sound.step (h : r.Sound) (t : Token) : (r.step t).Sound := by
  cases r with
  | value outer => exact sound_beginValue h t
  | firstItem outer =>
    have hframes : ∀ f ∈ Frame.array [] :: outer, f.Sound := List.forall_mem_cons.2 ⟨nofun, h⟩
    by_cases hclose : t = .closeArray
    · rw [hclose]
      exact sound_deliver rfl h
    · rw [Reading.step]
      · exact sound_beginValue hframes t
      · exact hclose
  | afterItem items outer =>
    obtain ⟨hitems, houter⟩ := h
    cases t with
    | closeArray =>
      exact sound_deliver (sound_array fun d hd => hitems d (List.mem_reverse.1 hd)) houter
    | comma => exact List.forall_mem_cons.2 ⟨hitems, houter⟩
    | _ => exact sound_halt (Option.some_ne_none _)
  | firstKey outer =>
    by_cases hclose : t = .closeObject
    · rw [hclose]
      exact sound_deliver rfl h
    · rw [Reading.step]
      · exact sound_beginEntry (fun _ he => absurd he List.not_mem_nil) h t
      · exact hclose
  | nextKey entries outer => exact sound_beginEntry h.1 h.2 t
  | colon entries key outer =>
    cases t with
    | colon => exact List.forall_mem_cons.2 h
    | _ => exact sound_halt trivial
  | afterEntry entries outer =>
    obtain ⟨hentries, houter⟩ := h
    cases t with
    | closeObject =>
      exact sound_deliver (sound_object.2 fun e he => hentries e (List.mem_reverse.1 he)) houter
    | comma => exact ⟨hentries, houter⟩
    | _ => exact sound_halt (Option.some_ne_none _)
  | done root trailing => exact h

theorem Sound.foldl (h : r.Sound) (ts : List Token) : (ts.foldl Reading.step r).Sound := by
  induction ts generalizing r with
  | nil => exact h
  | cons t rest ih => exact ih (h.step t)

/-- The end of the text is a fault wherever something is still open. -/
theorem Sound.finish (h : r.Sound) : r.finish.1.Sound ∨ r.finish.1.Cut := by
  cases r with
  | done root trailing => exact h
  | value | colon => exact Or.inr (cut_enclose trivial)
  | firstItem | afterItem | firstKey | nextKey | afterEntry =>
    exact Or.inr (cut_enclose (Option.some_ne_none _))

end Reading

/-- The members of an object that is read to its end have no faults. -/
theorem sound_of_read {text : String} {trailing : Bool}
    (h : read text = (.object entries none, trailing)) : ∀ e ∈ entries, e.2.Sound := by
  have hstart : (Reading.value []).Sound := nofun
  have hroot := (hstart.foldl (Token.scan text.toList)).finish
  change (read text).1.Sound ∨ (read text).1.Cut at hroot
  rw [h] at hroot
  rcases hroot with hsound | hcut
  · exact sound_object.1 hsound
  · exact absurd rfl hcut

end Document
end BrowserTelemetry
