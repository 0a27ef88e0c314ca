import SheetStore.Grid.Settings
import SheetStore.Nav.Location

/-! The whole state of the application: the router slice and the workbook slice. -/

set_option autoImplicit false

namespace SheetStore

/-- The state tree, one slice per reducer. -/
structure AppState where
  router : RouterState
  workbook : Workbook
  deriving DecidableEq, Inhabited

namespace AppState

def settings (s : AppState) : GridSettings := s.workbook.settings

def toJson (s : AppState) : Json :=
  .obj [("router", s.router.toJson), ("workbook", s.workbook.toJson)]

def decode (layer : Layer) : Json → Decode AppState :=
  let assemble (router : Ranked RouterState) (workbook : Ranked Workbook) : Ranked AppState :=
    (router.pair workbook).map fun (router, workbook) => { router, workbook }
  Record.decode layer "struct AppState" 2
    (fun members => assemble (Record.field members 0 "router" (RouterState.decode layer) none)
      (Record.field members 1 "workbook" (Workbook.decode layer) none))
    (fun items => assemble
      (Record.element items 0 2 "struct AppState" (RouterState.decode layer) none)
      (Record.element items 1 2 "struct AppState" (Workbook.decode layer) none))

/-- `[path, navigation, read-only]`: a short view of a state, the path with its query and
fragment. -/
def digest (s : AppState) : Json :=
  .arr [.str s.router.location.path, .str s.router.action.name, .bool s.settings.readOnly]

end AppState

end SheetStore
