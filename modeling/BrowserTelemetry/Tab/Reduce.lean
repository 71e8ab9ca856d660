import BrowserTelemetry.Log
import BrowserTelemetry.Tab.Action

/-!
# How actions change the state

The next state is a function of the state and the action alone. An action for a session that is not
there changes nothing.

A tab is added only when no tab has its id. When the selected tab is removed the selection stays
within its privacy mode: it goes to the next tab of the same mode, or else to the one before.
-/

namespace BrowserTelemetry

set_option autoImplicit false

/-! ## Content, downloads, engines -/

/-- The content after a change. -/
def ContentChange.apply : ContentChange → PageContent → PageContent
  | .loading value, c => { c with loading := value }
  | .loadRequest request, c => { c with loadRequest := some request }
  | .url value, c => { c with url := value }
  | .title value, c => { c with title := value }

namespace BrowserState

/-- The state after a change to the content of a session. -/
def reduceContent (s : BrowserState) (a : ContentAction) : BrowserState :=
  s.updateSession a.sessionId fun t => { t with content := a.change.apply t.content }

/-- The state after a change to the downloads. -/
def reduceDownload (s : BrowserState) : DownloadAction → BrowserState
  | .add download => { s with downloads := s.downloads.insert download.id download }
  | .remove id => { s with downloads := s.downloads.erase id }

/-- The state after a change to an engine. -/
def reduceEngine (s : BrowserState) : EngineAction → BrowserState
  | .link id timestamp => s.updateSession id fun t => { t with engine := ⟨some timestamp⟩ }
  | .kill id => s.updateSession id fun t => { t with engine := ⟨none⟩ }

/-! ## The list of tabs -/

/-- Add a tab at the end, unless its id is taken. -/
def appendTab (tabs : List Session) (t : Session) : List Session :=
  if (findIn tabs t.id).isSome then tabs else tabs ++ [t]

/-- Add tabs at the end, one after the other. -/
def appendTabs (tabs new : List Session) : List Session := new.foldl appendTab tabs

/-- The tabs before the first one with an id, that tab, and the tabs after it. -/
def splitAt? (id : String) : List Session → Option (List Session × Session × List Session)
  | [] => none
  | t :: rest =>
    if t.id = id then some ([], t, rest)
    else (splitAt? id rest).map fun (before, found, after) => (t :: before, found, after)

/-- Whom to select in place of a removed tab: the first tab of its mode after it, or else the last
    one before it. -/
def heir (before after : List Session) (mode : Bool) : Option String :=
  ((after.find? fun t => t.isPrivate = mode).or
    (before.reverse.find? fun t => t.isPrivate = mode)).map Session.id

/-- The state without the first tab of an id. -/
def removeTab (s : BrowserState) (id : String) : BrowserState :=
  match splitAt? id s.tabs with
  | none => s
  | some (before, removed, after) =>
    { s with
      tabs := before ++ after
      selected := if s.selected = some id then heir before after removed.isPrivate else s.selected }

/-- The state with only those tabs that satisfy `keep`. A selection that is gone is dropped. -/
def keepTabs (s : BrowserState) (keep : Session → Bool) : BrowserState :=
  let tabs := s.tabs.filter keep
  { s with tabs, selected := s.selected.filter fun id => (findIn tabs id).isSome }

/-- The state after a change to the list of tabs. -/
def reduceTabList (s : BrowserState) : TabListAction → BrowserState
  | .add tab select =>
    if s.hasTab tab.id then s
    else
      { s with
        tabs := s.tabs ++ [tab]
        selected := if select || s.selected.isNone then some tab.id else s.selected }
  | .addMultiple tabs =>
    { s with
      tabs := appendTabs s.tabs tabs
      selected := s.selected.or (tabs.head?.map Session.id) }
  | .select id => if s.hasTab id then { s with selected := some id } else s
  | .remove id => s.removeTab id
  | .removeAllNormal => s.keepTabs Session.isPrivate
  | .removeAllPrivate => s.keepTabs fun t => !t.isPrivate
  | .removeAll => { s with tabs := [], selected := none }
  | .restore tabs selected =>
    let all := appendTabs s.tabs tabs
    { s with
      tabs := all
      selected := s.selected.or (selected.filter fun id => (findIn all id).isSome) }

/-- The state after a change to the list of custom tabs. -/
def reduceCustomTabList (s : BrowserState) : CustomTabListAction → BrowserState
  | .add tab => { s with customTabs := s.customTabs ++ [tab] }
  | .remove id => { s with customTabs := s.customTabs.filter fun t => t.id ≠ id }

/-! ## All actions -/

/-- The state after an action. -/
def reduce (s : BrowserState) : BrowserAction → BrowserState
  | .content a => s.reduceContent a
  | .download a => s.reduceDownload a
  | .engine a => s.reduceEngine a
  | .tabList a => s.reduceTabList a
  | .customTabList a => s.reduceCustomTabList a

/-- What is worth a line in the log when an action is applied: it is for a session that is not
    there, or adds a tab that is. -/
def remark (s : BrowserState) : BrowserAction → Logged Unit
  | .content a =>
    if (s.findSession a.sessionId).isSome then pure ()
    else
      .log .debug "Dropping content action for unknown tab" [("session_id", .string a.sessionId)]
  | .tabList (.add tab _) =>
    if s.hasTab tab.id then .log .warn "Ignoring duplicate tab" [("tab_id", .string tab.id)]
    else pure ()
  | _ => pure ()

/-- The state after an action, with the log. -/
def apply (s : BrowserState) (a : BrowserAction) : Logged BrowserState := do
  s.remark a
  return s.reduce a

end BrowserState

end BrowserTelemetry
