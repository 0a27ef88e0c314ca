import SheetStore.State
import SheetStore.Json.Writer
import SheetStore.Log

/-! The channel that carries new states to an open event stream: numbered values, the newest
`capacity` kept, and a stream that falls behind told how many it skipped.
-/

set_option autoImplicit false

namespace SheetStore

def channelCapacity : Nat := 64

/-- The update channel and the position of its open stream, if one is open. -/
structure Channel where
  /-- How many values were sent while a stream was open. -/
  sent : Nat
  /-- The newest values sent, oldest first, at most `channelCapacity` of them. -/
  kept : List AppState
  /-- The number of the next value the open stream reads. -/
  reader : Option Nat
  deriving Inhabited

def stateFrame (s : AppState) : String :=
  "event: state\ndata: " ++ s.toJson.write ++ "\n\n"

namespace Channel

def create : Channel := { sent := 0, kept := [], reader := none }

def send (c : Channel) (s : AppState) : Channel :=
  match c.reader with
  | none => c
  | some _ =>
    let kept := c.kept ++ [s]
    { c with sent := c.sent + 1, kept := kept.drop (kept.length - channelCapacity) }

theorem send_of_reader_none {c : Channel} (h : c.reader = none) (s : AppState) : c.send s = c := by
  simp [send, h]

theorem kept_send_length (c : Channel) (s : AppState) (h : c.kept.length ≤ channelCapacity) :
    (c.send s).kept.length ≤ channelCapacity := by
  unfold send
  split
  · exact h
  · simp only [List.length_drop, List.length_append, List.length_singleton]
    omega

def openStream (c : Channel) : Channel := { c with reader := some c.sent }

/-- Read every value the open stream has not read yet: the frames, a warning if values were
skipped, and the channel afterwards. Without an open stream there is nothing to read. -/
def read (c : Channel) : List String × List LogRecord × Channel :=
  match c.reader with
  | none => ([], [], c)
  | some next =>
    let behind := c.sent - next
    let logs : List LogRecord :=
      if channelCapacity < behind then
        [⟨.warn, LogTarget.app, "event stream lagging, " ++ toString (behind - channelCapacity) ++
          " states skipped"⟩]
      else []
    let fresh := c.kept.drop (c.kept.length - min behind channelCapacity)
    (fresh.map stateFrame, logs, { c with reader := some c.sent })

end Channel

end SheetStore
