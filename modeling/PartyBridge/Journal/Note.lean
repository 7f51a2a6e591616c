/-!
# Notes for the debug log

A note is sensitive if it holds protocol values or the operator's text. The level of logging decides
which notes are written: none, those that are not sensitive, or all.
-/

namespace PartyBridge.Journal

structure Note where
  sensitive : Bool
  text : String
deriving Repr, DecidableEq, Inhabited

/-- A note that tells what happened. -/
def event (text : String) : Note :=
  ⟨false, text⟩

/-- A note that shows what was said. -/
def content (text : String) : Note :=
  ⟨true, text⟩

inductive Level where
  | off
  | events
  | everything
deriving Repr, DecidableEq, Inhabited

/-- The level of two switches; content is logged only where events are. -/
def Level.ofSwitches (enabled withContent : Bool) : Level :=
  if !enabled then .off else if withContent then .everything else .events

def Level.admits (level : Level) (note : Note) : Bool :=
  match level with
  | .off => false
  | .events => !note.sensitive
  | .everything => true

def Level.messages (level : Level) (notes : List Note) : List String :=
  (notes.filter level.admits).map Note.text

end PartyBridge.Journal
