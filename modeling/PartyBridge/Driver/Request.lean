import PartyBridge.Json.Reader

/-!
# Requests of a driver

A driver writes one JSON value a line: an object whose member `cmd` names a primitive and whose
other members carry its argument, in any order, or an array of the name and the argument.
`Request.parse` reads one.
-/

namespace PartyBridge.Driver

inductive Request where
  | userInput (label : String)
  | sendToEngine (value : Json.Value)
  | receiveFromEngine
  | userOutput (value : Json.Value)
deriving Repr, Inhabited

inductive Command where
  | userInput
  | sendToEngine
  | receiveFromEngine
  | userOutput
deriving Repr, DecidableEq

def Command.name : Command → String
  | .userInput => "user_input"
  | .sendToEngine => "send_to_engine"
  | .receiveFromEngine => "receive_from_engine"
  | .userOutput => "user_output"

def Command.all : List Command :=
  [.userInput, .sendToEngine, .receiveFromEngine, .userOutput]

def Command.ofName? (name : String) : Option Command :=
  Command.all.find? fun command => command.name == name

open Json (Cursor Fault Value Mismatch Read)

def unplaced (m : Mismatch) : Fault :=
  ⟨.mismatch m, none⟩

def placed (c : Cursor) (m : Mismatch) : Fault :=
  c.fault (.mismatch m)

/-- The fault of a value that is no name of a primitive; the cursor stands at the value. -/
def wrongTag (c : Cursor) : Fault :=
  match c.rest with
  | '[' :: _ => placed c (.wrongType .sequence "variant identifier")
  | ch :: _ =>
    if ch = '\x7b' then placed c (.wrongType .map "variant identifier")
    else
      match Json.readValue 0 c with
      | .ok (v, c) => placed c (.wrongType v.unexpected "variant identifier")
      | .error fault => fault
  | [] => c.peekFault .eofInValue

def readTag (c : Cursor) : Read Command :=
  let c := c.skipBlanks
  match c.rest with
  | '\x22' :: _ =>
    match Json.readString c.next with
    | .error fault => .error fault
    | .ok (name, c) =>
      match Command.ofName? name with
      | some command => .ok (command, c)
      | none => .error (placed c (.unknownVariant name (Command.all.map Command.name)))
  | _ => .error (wrongTag c)

/-- The one member of the given name, and a duplicate or a missing one as a mismatch. `read` turns
its value into the wanted type. -/
def oneMember {α : Type} (name : String) (read : Value → Except Mismatch α) :
    List (String × Value) → Option α → Except Mismatch α
  | [], none => .error (.missingField name)
  | [], some found => .ok found
  | (key, v) :: rest, found =>
    if key = name then
      match found with
      | some _ => .error (.duplicateField name)
      | none =>
        match read v with
        | .error m => .error m
        | .ok a => oneMember name read rest (some a)
    else oneMember name read rest found

def labelOf : Value → Except Mismatch String
  | .str s => .ok s
  | v => .error (.wrongType v.unexpected "a string")

def payloadOf (v : Value) : Except Mismatch Value :=
  .ok v.canonical

def Request.ofMembers (command : Command) (members : List (String × Value)) :
    Except Mismatch Request :=
  match command with
  | .userInput => (oneMember "label" labelOf members none).map .userInput
  | .sendToEngine => (oneMember "value" payloadOf members none).map .sendToEngine
  | .receiveFromEngine => .ok .receiveFromEngine
  | .userOutput => (oneMember "value" payloadOf members none).map .userOutput

/-- The one item behind the name, where `shape` says what is wanted when there is none. -/
def oneItem {α : Type} (shape : String) (read : Value → Except Mismatch α) :
    List Value → Except Mismatch α
  | [] => .error (.wrongLength 0 shape)
  | v :: rest =>
    match read v with
    | .error m => .error m
    | .ok a =>
      if rest.isEmpty then .ok a
      else .error (.wrongLength (rest.length + 1) "1 element in sequence")

def Request.ofItems (command : Command) (items : List Value) : Except Mismatch Request :=
  match command with
  | .userInput =>
    (oneItem "struct variant DriverRequest::UserInput with 1 element" labelOf items).map .userInput
  | .sendToEngine =>
    (oneItem "struct variant DriverRequest::SendToEngine with 1 element" payloadOf items).map
      .sendToEngine
  | .receiveFromEngine =>
    if items.isEmpty then .ok .receiveFromEngine
    else .error (.wrongLength items.length "0 elements in sequence")
  | .userOutput =>
    (oneItem "struct variant DriverRequest::UserOutput with 1 element" payloadOf items).map
      .userOutput

/-- The place behind the blanks at a cursor and the closing brace, if one stands there. -/
def pastBrace (c : Cursor) : Cursor :=
  let c := c.skipBlanks
  match c.rest with
  | '\x7d' :: _ => c.next
  | _ => c

/-- Reads the members of a request, `cmd` apart from the others. The fuel bounds their number. -/
def readRequestMembers : Nat → Bool → Option Command → List (String × Value) → Cursor →
    Except Fault (Command × List (String × Value) × Cursor)
  | 0, _, _, _, c => .error (c.fault .eofInObject)
  | fuel + 1, first, tag, done, c =>
    match Json.nextKey first c with
    | .error fault => .error fault
    | .ok (none, c) =>
      match tag with
      | none => .error (placed c.next (.missingField "cmd"))
      | some command => .ok (command, done.reverse, c.next)
    | .ok (some key, c) =>
      if key = "cmd" then
        match tag with
        | some _ => .error (placed (pastBrace c) (.duplicateField "cmd"))
        | none =>
          match Json.readColon c with
          | .error fault => .error fault
          | .ok c =>
            match readTag c with
            | .error fault => .error fault
            | .ok (command, c) => readRequestMembers fuel false (some command) done c
      else
        match Json.readColon c with
        | .error fault => .error fault
        | .ok c =>
          match Json.readValue 1 c with
          | .error fault => .error fault
          | .ok (v, c) => readRequestMembers fuel false tag ((key, v) :: done) c

def readObjectForm (c : Cursor) : Read Request :=
  match readRequestMembers (c.rest.length + 1) true none [] c with
  | .error fault => .error fault
  | .ok (command, members, c) =>
    match Request.ofMembers command members with
    | .ok request => .ok (request, c)
    | .error m => .error (unplaced m)

def readArrayForm (c : Cursor) : Read Request :=
  match Json.nextItem true c with
  | .error fault => .error fault
  | .ok (.done c) => .error (placed c.next (.missingField "cmd"))
  | .ok (.item c) =>
    match readTag c with
    | .error fault => .error fault
    | .ok (command, c) =>
      match Json.readItems (2 * c.rest.length + 2) (Json.depthLimit - 1) false [] c with
      | .error fault => .error fault
      | .ok (items, c) =>
        match Request.ofItems command items with
        | .ok request => .ok (request, c)
        | .error m => .error (unplaced m)

def readRequest (c : Cursor) : Read Request :=
  let c := c.skipBlanks
  match c.rest with
  | '[' :: _ => readArrayForm c.next
  | '\x7b' :: _ => readObjectForm c.next
  | _ =>
    match Json.readValue 0 c with
    | .error fault => .error fault
    | .ok (v, c) =>
      .error (placed c (.wrongType v.unexpected "internally tagged enum DriverRequest"))

def Request.parse (line : String) : Except Fault Request :=
  match readRequest (Cursor.ofText line) with
  | .error fault => .error fault
  | .ok (request, c) => (Json.expectEnd c).map fun _ => request

/-- The text of a value that is no list, object or null: strings as they are, numbers and truth
values as printed. -/
def scalarText? : Value → Option String
  | .str s => some s
  | .int n => some (Text.decimal n)
  | .float x => some (Json.numberStyle.render x)
  | .bool true => some "true"
  | .bool false => some "false"
  | .null | .arr _ | .obj _ => none

end PartyBridge.Driver
