import SheetStore.App.Http
import SheetStore.Cli.Config
import SheetStore.Grid.Seed

/-! The application shell: bootstrapping the store over a new history, and the calls made
on it while the runtime drives the scheduler.
-/

set_option autoImplicit false

namespace SheetStore

/-- The shell's store: bootstrapped from a configuration, with `bound` saying whether the effect
runner is given a runtime. -/
def bootstrap (config : Config) (bound : Bool) : AppMachine :=
  let m := configureStore config.initialPath (config.gridSettings Seed.data) bound
  let (id, store) := m.store.subscribe
  let ready : LogRecord :=
    ⟨.info, LogTarget.app, "store ready at " ++ m.world.history.location.path ++ " with " ++
      toString m.store.state.state.settings.data.rowCount ++ " data rows"⟩
  { store
    world := { m.world with listeners := m.world.listeners ++ [(id, .publisher)] }
    logs := m.logs ++ [ready] }

namespace AppRun

def driven {α : Type} (x : AppRun α) : AppRun α := do
  setDriving true
  let out ← tryCatch x fun e => do
    setDriving false
    throw e
  setDriving false
  return out

def serve (req : Request) : AppRun Response := driven (respond req)

def settleDriven : AppRun Unit := driven settle

/-- Request the event stream and keep it open, in place of any stream open before; only states
published from now on are read from it. -/
def openEvents : AppRun Response := driven do
  let r ← respond { method := "GET", path := "/api/events", contentType := none, body := "" }
  if r.payload = .events then
    Run.modifyWorld fun w => { w with channel := w.channel.openStream }
  return r

def readEvents : AppRun (Option (List String)) := driven do
  let w ← Run.world
  match w.channel.reader with
  | none => return none
  | some _ =>
    let (frames, logs, channel) := w.channel.read
    Run.modifyWorld fun w => { w with channel }
    Run.logAll logs
    return some frames

end AppRun

end SheetStore
