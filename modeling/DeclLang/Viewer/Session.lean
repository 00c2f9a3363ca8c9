import DeclLang.Viewer.Frame

/-!
# Sessions of the viewer

A session is a list of events: keys, each together with what reading the file would give at that
moment, and drawn frames. Changes to the file between two events show only in what reading gives.
-/

namespace DeclLang.Viewer

/-- What can happen to a viewer. -/
inductive Event where
  | key (key : Key) (file : Except ReadError Text)
  | draw (width height : Nat)

/-- The viewer after an event. -/
def step (v : Viewer) : Event → Viewer
  | .key key file => v.press file key
  | .draw width height => v.settle width height

/-- The viewer after a session. -/
def after (v : Viewer) (session : List Event) : Viewer := session.foldl step v

end DeclLang.Viewer
