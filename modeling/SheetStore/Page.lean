import SheetStore.State
import SheetStore.Nav.Route

/-! The pages the application serves and the host document they are rendered into, with the
preloaded state escaped so that it cannot close its script element.
-/

set_option autoImplicit false

namespace SheetStore

/-- A page of the application. -/
inductive Page where
  | workbook (name : Option String)
  deriving DecidableEq, Inhabited

namespace Page

def resolve (pathname : String) : Option Page :=
  if (matchPath "/" pathname true).isSome then some (.workbook none)
  else (matchPath "/workbook/:name" pathname true).map fun m =>
    .workbook (m.params.lookup "name")

def toJson : Page → Json
  | .workbook name => .obj [("name", match name with | some n => .str n | none => .null)]

def title : Option Page → String
  | some (.workbook (some name)) => name
  | some (.workbook none) => "Workbook"
  | none => "Not found"

end Page

def titleSlot : String := "\x7b\x7btitle\x7d\x7d"

def stateSlot : String := "\x7b\x7bpreloaded_state\x7d\x7d"

def hostHead : String :=
    "<!DOCTYPE html>\n" ++
    "<html lang=\"en\">\n" ++
    "<head>\n" ++
    "  <meta charset=\"utf-8\">\n" ++
    "  <title>"

/-- The host document between its title placeholder and its state placeholder, which sits inside
the script element that carries the state. -/
def hostMiddle : String :=
    "</title>\n" ++
    "  <link rel=\"stylesheet\" href=\"https://cdn.jsdelivr.net/npm/handsontable/dist/handsontable.full.min.css\">\n" ++
    "  <script src=\"https://cdn.jsdelivr.net/npm/handsontable/dist/handsontable.full.min.js\"></script>\n" ++
    "</head>\n" ++
    "<body>\n" ++
    "  <label><input type=\"checkbox\" id=\"read-only\"> Read only</label>\n" ++
    "  <div id=\"root\"></div>\n" ++
    "  <script id=\"preloaded-state\" type=\"application/json\">"

def hostTail : String :=
    "</script>\n" ++
    "  <script>\n" ++
    "    const preloaded = JSON.parse(document.getElementById(\x27preloaded-state\x27).textContent);\n" ++
    "\n" ++
    "    function dispatch(action) \x7b\n" ++
    "      return fetch(\x27/api/dispatch\x27, \x7b\n" ++
    "        method: \x27POST\x27,\n" ++
    "        headers: \x7b \x27Content-Type\x27: \x27application/json\x27 \x7d,\n" ++
    "        body: JSON.stringify(action),\n" ++
    "      \x7d);\n" ++
    "    \x7d\n" ++
    "\n" ++
    "    // the grid gets its own copy; the server state is the source of truth\n" ++
    "    function gridSettings(settings) \x7b\n" ++
    "      return Object.assign(\x7b\x7d, settings, \x7b data: JSON.parse(JSON.stringify(settings.data)) \x7d);\n" ++
    "    \x7d\n" ++
    "\n" ++
    "    const grid = new Handsontable(document.getElementById(\x27root\x27), Object.assign(\n" ++
    "      gridSettings(preloaded.workbook.settings),\n" ++
    "      \x7b\n" ++
    "        licenseKey: \x27non-commercial-and-evaluation\x27,\n" ++
    "        afterChange(changes, source) \x7b\n" ++
    "          if (!changes || source === \x27loadData\x27 || source === \x27remote\x27) \x7b\n" ++
    "            return;\n" ++
    "          \x7d\n" ++
    "          dispatch(\x7b type: \x27UPDATE_SHEET_DATA\x27, dataChanges: changes \x7d);\n" ++
    "        \x7d,\n" ++
    "      \x7d,\n" ++
    "    ));\n" ++
    "\n" ++
    "    const toggle = document.getElementById(\x27read-only\x27);\n" ++
    "    toggle.checked = preloaded.workbook.settings.readOnly;\n" ++
    "    toggle.addEventListener(\x27change\x27, () => \x7b\n" ++
    "      dispatch(\x7b type: \x27UPDATE_SHEET_READ_ONLY\x27, readOnly: toggle.checked \x7d);\n" ++
    "    \x7d);\n" ++
    "\n" ++
    "    const events = new EventSource(\x27/api/events\x27);\n" ++
    "    events.addEventListener(\x27state\x27, (event) => \x7b\n" ++
    "      const state = JSON.parse(event.data);\n" ++
    "      const settings = state.workbook.settings;\n" ++
    "      toggle.checked = settings.readOnly;\n" ++
    "      grid.updateSettings(gridSettings(settings));\n" ++
    "    \x7d);\n" ++
    "  </script>\n" ++
    "</body>\n" ++
    "</html>\n"

def hostDocument : String := hostHead ++ titleSlot ++ hostMiddle ++ stateSlot ++ hostTail

/-- The state's JSON safe inside a script element: every `<` written as an escape. -/
def preloadedState (state : AppState) : String :=
  Text.replaceAll state.toJson.write "<" "\\u003c"

def renderPage (state : AppState) (page : Option Page) : String :=
  Text.replaceAll (Text.replaceAll hostDocument titleSlot (Text.escapeHtml (Page.title page)))
    stateSlot (preloadedState state)

end SheetStore
