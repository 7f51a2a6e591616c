import PartyBridge.Bridge.Calls
import PartyBridge.Driver.Error
import PartyBridge.Driver.Reply
import PartyBridge.Driver.Request

/-!
# Serving a driver

A driver writes requests, one on a line, and reads a reply to each. Lines are served strictly in order;
each request makes one call, and the first line that fails ends the service. The service works at any
desk: something that has the driver's next line, makes calls and delivers replies.
-/

namespace PartyBridge

open ByteStream

inductive Call where
  | input (label : String)
  | send (text : String)
  | receive
  | output (text : String)
deriving Repr, DecidableEq, Inhabited

/-- Makes a call. Nothing where it would wait for ever. -/
def Bridge.perform (b : Bridge) : Call → Bridge × Option (Except BridgeError Driver.Reply)
  | .input label =>
    let (b, r) := b.input label
    (b, some (r.map .input))
  | .send text =>
    let (b, r) := b.send text
    (b, some (r.map fun _ => .ack))
  | .receive =>
    let (b, r) := b.receive
    (b, r.map fun r => r.map .value)
  | .output text =>
    let (b, r) := b.output text
    (b, some (r.map fun _ => .ack))

namespace Driver

/-- The call that a request asks for. Only a scalar can be sent or shown. -/
def Request.call : Request → Except DriverError Call
  | .userInput label => .ok (.input label)
  | .receiveFromEngine => .ok .receive
  | .sendToEngine value =>
    match scalarText? value with
    | some text => .ok (.send text)
    | none => .error (.misused ("send_to_engine needs a scalar value, got " ++ value.render))
  | .userOutput value =>
    match scalarText? value with
    | some text => .ok (.output text)
    | none => .error (.misused ("user_output needs a scalar value, got " ++ value.render))

/-- What the service works at: the driver's next line, calls, and replies that may not arrive. -/
structure Desk (σ : Type) where
  nextLine : σ → Option LineRead × σ
  call : Call → σ → Except BridgeError Reply × σ
  deliver : Reply → σ → Except WriteFault Unit × σ
  repliesLost : σ → σ

inductive Served where
  | goesOn (replies : Bool)
  | fails (e : DriverError)
deriving Repr, DecidableEq

def serveRequest {σ : Type} (desk : Desk σ) (request : Request) (s : σ) : Served × σ :=
  match request.call with
  | .error e => (.fails e, (desk.deliver (.error e.message) s).2)
  | .ok call =>
    match desk.call call s with
    | (.error e, s) => (.fails (.bridge e), (desk.deliver (.error e.message) s).2)
    | (.ok reply, s) =>
      match desk.deliver reply s with
      | (.ok (), s) => (.goesOn true, s)
      | (.error .brokenPipe, s) => (.goesOn false, desk.repliesLost s)
      | (.error fault, s) => (.fails (.io fault.message), s)

/-- Serves a line. Blank lines mean nothing. -/
def serveText {σ : Type} (desk : Desk σ) (replies : Bool) (line : String) (s : σ) : Served × σ :=
  let text := String.ofList (Text.trim line.toList)
  if text.isEmpty then (.goesOn replies, s)
  else
    match Request.parse text with
    | .error fault => (.fails (.misused ("invalid request from driver: " ++ fault.message)), s)
    | .ok request =>
      if replies then serveRequest desk request s
      else (.fails (.misused "driver sent a request after closing its input"), s)

def serveRead {σ : Type} (desk : Desk σ) (replies : Bool) (read : LineRead) (s : σ) : Served × σ :=
  match read with
  | .fault message => (.fails (.io message), s)
  | .line bytes =>
    match Utf8.decode? bytes with
    | none => (.fails (.io "stream did not contain valid UTF-8"), s)
    | some line => serveText desk replies line s

/-- Serves a driver until its lines end or one fails. The allowance bounds the number of lines. -/
def serve {σ : Type} (desk : Desk σ) : Nat → Bool → σ → Except DriverError Unit × σ
  | 0, _, s => (.ok (), s)
  | lines + 1, replies, s =>
    match desk.nextLine s with
    | (none, s) => (.ok (), s)
    | (some read, s) =>
      match serveRead desk replies read s with
      | (.goesOn replies, s) => serve desk lines replies s
      | (.fails e, s) => (.error e, s)

end Driver

end PartyBridge
