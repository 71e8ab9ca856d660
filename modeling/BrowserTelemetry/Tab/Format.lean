import BrowserTelemetry.Calendar.Timestamp
import BrowserTelemetry.Json.Labelled
import BrowserTelemetry.Json.Map
import BrowserTelemetry.Json.Tagged
import BrowserTelemetry.Tab.Action

/-!
# The JSON form of sessions, states and actions

Every record is described by its fields once, and both directions follow from that. An action is an
object with its group and the action proper, and the latter is tagged by its type.
-/

namespace BrowserTelemetry

set_option autoImplicit false

namespace Codec

/-- A moment, as its timestamp. -/
def moment : Codec Moment := form Timestamp.print Timestamp.parse

/-- A load request. -/
def loadRequest : Codec LoadRequest :=
  record
    (.need "url" string <| .need "triggered_by_redirect" bool <|
      .need "triggered_by_user" bool .none)
    (fun r => (r.url, r.triggeredByRedirect, r.triggeredByUser, ()))
    (fun (url, redirect, user, _) => ⟨url, redirect, user⟩)

/-- The content of a page. -/
def pageContent : Codec PageContent :=
  record
    (.need "url" string <| .need "title" string <| .need "loading" bool <| .need "private" bool <|
      .allow "load_request" loadRequest .none)
    (fun c => (c.url, c.title, c.loading, c.isPrivate, c.loadRequest, ()))
    (fun (url, title, loading, isPrivate, request, _) => ⟨url, title, loading, isPrivate, request⟩)

/-- The engine of a tab. -/
def engineState : Codec EngineState :=
  record (.allow "timestamp" int64 .none) (fun e => (e.linkedAt, ())) (fun (t, _) => ⟨t⟩)

/-- A session. -/
def session : Codec Session :=
  record
    (.need "id" string <| .need "content" pageContent <| .need "engine_state" engineState <|
      .need "created_at" moment .none)
    (fun t => (t.id, t.content, t.engine, t.createdAt, ()))
    (fun (id, content, engine, createdAt, _) => ⟨id, content, engine, createdAt⟩)

/-- A download. -/
def download : Codec Download :=
  record
    (.need "id" string <| .need "url" string <| .allow "file_name" string <|
      .allow "session_id" string <| .need "private" bool .none)
    (fun d => (d.id, d.url, d.fileName, d.sessionId, d.isPrivate, ()))
    (fun (id, url, fileName, sessionId, isPrivate, _) => ⟨id, url, fileName, sessionId, isPrivate⟩)

/-- The state of a browser. -/
def browserState : Codec BrowserState :=
  record
    (.need "tabs" (list session) <| .need "custom_tabs" (list session) <|
      .allow "selected_tab_id" string <| .need "downloads" (map .text download) .none)
    (fun s => (s.tabs, s.customTabs, s.selected, s.downloads, ()))
    (fun (tabs, customTabs, selected, downloads, _) => ⟨tabs, customTabs, selected, downloads⟩)

end Codec

/-! ## The fields of actions -/

namespace ActionFields

open Codec Fields

/-- The member that tells the actions of a group apart. -/
def tag : String := "type"

/-- The loading state of a session. -/
abbrev loading := need "session_id" string <| need "loading" bool .none

/-- A load request of a session. -/
abbrev loadRequest := need "session_id" string <| need "load_request" Codec.loadRequest .none

/-- The address of a session. -/
abbrev url := need "session_id" string <| need "url" string .none

/-- The title of a session. -/
abbrev title := need "session_id" string <| need "title" string .none

/-- A new download. -/
abbrev download := need "download" Codec.download .none

/-- The id of a download. -/
abbrev downloadId := need "download_id" string .none

/-- An engine for a session. -/
abbrev link := need "session_id" string <| need "timestamp" int64 .none

/-- The id of a session. -/
abbrev sessionId := need "session_id" string .none

/-- A new tab that may be selected. -/
abbrev selectable := need "tab" session <| need "select" bool .none

/-- New tabs. -/
abbrev tabs := need "tabs" (list session) .none

/-- The id of a tab. -/
abbrev tabId := need "tab_id" string .none

/-- Tabs of an earlier run. -/
abbrev restored := need "tabs" (list session) <| allow "selected_tab_id" string .none

/-- A new custom tab. -/
abbrev tab := need "tab" session .none

end ActionFields

/-! ## The groups -/

namespace Codec

open ActionFields

/-- A change to the content of a session. -/
def contentAction : Codec ContentAction :=
  tagged tag
    (fun
      | ⟨id, .loading value⟩ => ("update_loading_state", loading.encode (id, value, ()))
      | ⟨id, .loadRequest request⟩ =>
        ("update_load_request", ActionFields.loadRequest.encode (id, request, ()))
      | ⟨id, .url value⟩ => ("update_url", url.encode (id, value, ()))
      | ⟨id, .title value⟩ => ("update_title", title.encode (id, value, ())))
    [.record "update_loading_state" loading fun (id, value, _) => ⟨id, .loading value⟩,
      .record "update_load_request" ActionFields.loadRequest
        fun (id, request, _) => ⟨id, .loadRequest request⟩,
      .record "update_url" url fun (id, value, _) => ⟨id, .url value⟩,
      .record "update_title" title fun (id, value, _) => ⟨id, .title value⟩]

/-- A change to the downloads. -/
def downloadAction : Codec DownloadAction :=
  tagged tag
    (fun
      | .add d => ("add_download", ActionFields.download.encode (d, ()))
      | .remove id => ("remove_download", downloadId.encode (id, ())))
    [.record "add_download" ActionFields.download fun (d, _) => .add d,
      .record "remove_download" downloadId fun (id, _) => .remove id]

/-- A change to an engine. -/
def engineAction : Codec EngineAction :=
  tagged tag
    (fun
      | .link id timestamp => ("link_engine_session", link.encode (id, timestamp, ()))
      | .kill id => ("kill_engine_session", sessionId.encode (id, ())))
    [.record "link_engine_session" link fun (id, timestamp, _) => .link id timestamp,
      .record "kill_engine_session" sessionId fun (id, _) => .kill id]

/-- A change to the list of tabs. -/
def tabListAction : Codec TabListAction :=
  tagged tag
    (fun
      | .add tab select => ("add_tab", selectable.encode (tab, select, ()))
      | .addMultiple l => ("add_multiple_tabs", tabs.encode (l, ()))
      | .select id => ("select_tab", tabId.encode (id, ()))
      | .remove id => ("remove_tab", tabId.encode (id, ()))
      | .removeAllNormal => ("remove_all_normal_tabs", [])
      | .removeAllPrivate => ("remove_all_private_tabs", [])
      | .removeAll => ("remove_all_tabs", [])
      | .restore l selected => ("restore", restored.encode (l, selected, ())))
    [.record "add_tab" selectable fun (tab, select, _) => .add tab select,
      .record "add_multiple_tabs" tabs fun (l, _) => .addMultiple l,
      .record "select_tab" tabId fun (id, _) => .select id,
      .record "remove_tab" tabId fun (id, _) => .remove id,
      .unit "remove_all_normal_tabs" .removeAllNormal,
      .unit "remove_all_private_tabs" .removeAllPrivate,
      .unit "remove_all_tabs" .removeAll,
      .record "restore" restored fun (l, selected, _) => .restore l selected]

/-- A change to the list of custom tabs. -/
def customTabListAction : Codec CustomTabListAction :=
  tagged tag
    (fun
      | .add t => ("add_custom_tab", tab.encode (t, ()))
      | .remove id => ("remove_custom_tab", tabId.encode (id, ())))
    [.record "add_custom_tab" tab fun (t, _) => .add t,
      .record "remove_custom_tab" tabId fun (id, _) => .remove id]

end Codec

/-- The groups of actions. -/
inductive ActionGroup where
  | content
  | download
  | engine
  | tabList
  | customTabList
  deriving DecidableEq, Repr, Inhabited

instance : Named ActionGroup where
  all := [.content, .download, .engine, .tabList, .customTabList]
  name
    | .content => "Content"
    | .download => "Download"
    | .engine => "Engine"
    | .tabList => "TabList"
    | .customTabList => "CustomTabList"

namespace Codec

/-- A content of another type. -/
def kindOf {α β : Type} (c : Codec α) (wrap : α → β) : Kind β :=
  ⟨fun src d => (c.decode src d).map wrap, none⟩

/-- An action with its group. -/
def browserAction : Codec BrowserAction :=
  labelled ⟨"group", "action"⟩
    (fun
      | .content a => (ActionGroup.content, some (contentAction.encode a))
      | .download a => (.download, some (downloadAction.encode a))
      | .engine a => (.engine, some (engineAction.encode a))
      | .tabList a => (.tabList, some (tabListAction.encode a))
      | .customTabList a => (.customTabList, some (customTabListAction.encode a)))
    (fun
      | .content => kindOf contentAction .content
      | .download => kindOf downloadAction .download
      | .engine => kindOf engineAction .engine
      | .tabList => kindOf tabListAction .tabList
      | .customTabList => kindOf customTabListAction .customTabList)

end Codec

end BrowserTelemetry
