import BrowserTelemetry.Tab.Format
import BrowserTelemetry.Proofs.CodecLaws
import BrowserTelemetry.Proofs.TimestampText

/-!
# Actions and states as texts

The codecs of the domain are lawful, one after the other as they are built. So the text of an action
or of a state is read as the action or state, whatever strings, numbers and moments it holds.
-/

namespace BrowserTelemetry

set_option autoImplicit false

theorem ActionGroup.byName?_name (g : ActionGroup) : Named.byName? (Named.name g) = some g := by
  cases g <;> rfl

namespace Codec

variable {n : Nat}

/-! ## Sessions and states -/

theorem lawful_moment : moment.Lawful n := lawful_form Timestamp.parse_print

theorem lawful_loadRequest : loadRequest.Lawful (n + 1) :=
  lawful_record (.need lawful_string <| .need lawful_bool <| .need lawful_bool .none) (by decide)
    fun _ => rfl

theorem lawful_pageContent : pageContent.Lawful (n + 2) :=
  lawful_record
    (.need lawful_string <| .need lawful_string <| .need lawful_bool <| .need lawful_bool <|
      .allow lawful_loadRequest nofun .none)
    (by decide) fun _ => rfl

theorem lawful_engineState : engineState.Lawful (n + 1) :=
  lawful_record (.allow lawful_int64 nofun .none) (by decide) fun _ => rfl

theorem lawful_session : session.Lawful (n + 3) :=
  lawful_record
    (.need lawful_string <| .need lawful_pageContent <| .need lawful_engineState <|
      .need lawful_moment .none)
    (by decide) fun _ => rfl

theorem lawful_download : download.Lawful (n + 1) :=
  lawful_record
    (.need lawful_string <| .need lawful_string <| .allow lawful_string nofun <|
      .allow lawful_string nofun <| .need lawful_bool .none)
    (by decide) fun _ => rfl

theorem lawful_browserState : browserState.Lawful (n + 5) :=
  lawful_record
    (.need lawful_session.list <| .need lawful_session.list <| .allow lawful_string nofun <|
      .need (lawful_download.map fun _ => rfl) .none)
    (by decide) fun _ => rfl

/-! ## Actions -/

section

open ActionFields

theorem lawful_contentAction : contentAction.Lawful (n + 2) := by
  refine lawful_tagged fun a => ?_
  obtain ⟨id, change⟩ := a
  -- One variant for each action: it has the name that is written, its fields are the members that
  -- are written, and it makes the action of their values.
  cases change with
  | loading value =>
    exact .record loading (id, value, ()) rfl rfl rfl
      (.need lawful_string <| .need lawful_bool .none) (by decide)
  | loadRequest request =>
    exact .record ActionFields.loadRequest (id, request, ()) rfl rfl rfl
      (.need lawful_string <| .need lawful_loadRequest .none) (by decide)
  | url value =>
    exact .record url (id, value, ()) rfl rfl rfl (.need lawful_string <| .need lawful_string .none)
      (by decide)
  | title value =>
    exact .record title (id, value, ()) rfl rfl rfl
      (.need lawful_string <| .need lawful_string .none) (by decide)

theorem lawful_downloadAction : downloadAction.Lawful (n + 2) := by
  refine lawful_tagged fun a => ?_
  cases a with
  | add d =>
    exact .record ActionFields.download (d, ()) rfl rfl rfl (.need lawful_download .none)
      (by decide)
  | remove id =>
    exact .record downloadId (id, ()) rfl rfl rfl (.need lawful_string .none) (by decide)

theorem lawful_engineAction : engineAction.Lawful (n + 1) := by
  refine lawful_tagged fun a => ?_
  cases a with
  | link id timestamp =>
    exact .record link (id, timestamp, ()) rfl rfl rfl
      (.need lawful_string <| .need lawful_int64 .none) (by decide)
  | kill id => exact .record sessionId (id, ()) rfl rfl rfl (.need lawful_string .none) (by decide)

theorem lawful_tabListAction : tabListAction.Lawful (n + 5) := by
  refine lawful_tagged fun a => ?_
  cases a with
  | add tab select =>
    exact .record selectable (tab, select, ()) rfl rfl rfl
      (.need lawful_session <| .need lawful_bool .none) (by decide)
  | addMultiple l =>
    exact .record tabs (l, ()) rfl rfl rfl (.need lawful_session.list .none) (by decide)
  | select id | remove id =>
    exact .record tabId (id, ()) rfl rfl rfl (.need lawful_string .none) (by decide)
  | removeAllNormal | removeAllPrivate | removeAll => exact .unit rfl rfl
  | restore l selected =>
    exact .record restored (l, selected, ()) rfl rfl rfl
      (.need lawful_session.list <| .allow lawful_string nofun .none) (by decide)

theorem lawful_customTabListAction : customTabListAction.Lawful (n + 4) := by
  refine lawful_tagged fun a => ?_
  cases a with
  | add t => exact .record tab (t, ()) rfl rfl rfl (.need lawful_session .none) (by decide)
  | remove id => exact .record tabId (id, ()) rfl rfl rfl (.need lawful_string .none) (by decide)

end

theorem recovers_kindOf {α β : Type} {c : Codec β} (h : c.Lawful n) (wrap : β → α) (b : β) :
    Labelled.Recovers n (kindOf c wrap) (wrap b) (some (c.encode b)) := by
  refine ⟨h.fits b, fun hroom => ?_⟩
  simp only [kindOf, h.decode_encode hroom]
  rfl

theorem lawful_browserAction : browserAction.Lawful (n + 6) := by
  refine lawful_labelled (by decide) ActionGroup.byName?_name fun a => ?_
  cases a with
  | content a => exact recovers_kindOf lawful_contentAction BrowserAction.content a
  | download a => exact recovers_kindOf lawful_downloadAction BrowserAction.download a
  | engine a => exact recovers_kindOf lawful_engineAction BrowserAction.engine a
  | tabList a => exact recovers_kindOf lawful_tabListAction BrowserAction.tabList a
  | customTabList a =>
    exact recovers_kindOf lawful_customTabListAction BrowserAction.customTabList a

/-! ## Texts -/

/-- The text of every value is read as the value; so two values have two texts, and what was read is
    written as the same text again. -/
structure Faithful {α : Type} (c : Codec α) : Prop where
  read_write (a : α) : c.read (c.write a) = .ok a
  write_injective : Function.Injective c.write
  write_read (a : α) : (c.read (c.write a)).map c.write = .ok (c.write a)

theorem Lawful.faithful {α : Type} {c : Codec α} (h : c.Lawful n) (hdeep : n ≤ Source.deepest) :
    c.Faithful where
  read_write := h.read_write hdeep
  write_injective a b hab := by
    have hread := congrArg c.read hab
    rw [h.read_write hdeep, h.read_write hdeep] at hread
    exact Except.ok.inj hread
  write_read a := by
    rw [h.read_write hdeep]
    rfl

/-- Actions and states, all of them, are read from their texts. -/
theorem texts_faithful : browserAction.Faithful ∧ browserState.Faithful :=
  ⟨(lawful_browserAction (n := 0)).faithful (by decide),
    (lawful_browserState (n := 0)).faithful (by decide)⟩

example : browserAction.write (.engine (.kill "tab\t2")) =
    "\x7b\"group\":\"Engine\",\"action\":\x7b\"type\":\"kill_engine_session\"," ++
      "\"session_id\":\"tab\\t2\"\x7d\x7d" := rfl

end Codec

end BrowserTelemetry
