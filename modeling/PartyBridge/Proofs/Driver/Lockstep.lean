import PartyBridge.Proofs.Text.Blank
import PartyBridge.Proofs.Text.Utf8
import PartyBridge.Session.Stage

/-!
# Requests and replies in lockstep

A driver that is served holds a conversation: each of its requests makes one call and gets one reply, until
its lines end or one of them fails. `Conversation` says what conversations there are, and `serve_lockstep`
that every service is one, at any desk and for any lines, and that blank lines have no part in it.
-/

namespace PartyBridge.Driver
open ByteStream

variable {σ : Type}

/-! ### Conversations -/

def telling (line : String) : Bool :=
  !line.toList.all Text.isBlank

/-- The request of a line, blanks around it aside. -/
def decode (line : String) : Except Json.Fault Request :=
  Request.parse (String.ofList (Text.trim line.toList))

inductive Names : Request → Call → Prop where
  | input (label : String) : Names (.userInput label) (.input label)
  | receive : Names .receiveFromEngine .receive
  | send {value : Json.Value} {text : String} (scalar : scalarText? value = some text) :
    Names (.sendToEngine value) (.send text)
  | output {value : Json.Value} {text : String} (scalar : scalarText? value = some text) :
    Names (.userOutput value) (.output text)

/-- A request that names no call, since its value is no scalar, and what is wrong with it. -/
inductive Unfit : Request → DriverError → Prop where
  | send {value : Json.Value} (structured : scalarText? value = none) :
    Unfit (.sendToEngine value) (.misused ("send_to_engine needs a scalar value, got " ++ value.render))
  | output {value : Json.Value} (structured : scalarText? value = none) :
    Unfit (.userOutput value) (.misused ("user_output needs a scalar value, got " ++ value.render))

/-- What is done at a desk: a call, with its result; a reply, with its fate; and giving up on replies. -/
inductive Act where
  | called (call : Call) (result : Except BridgeError Reply)
  | replied (reply : Reply) (fate : Except WriteFault Unit)
  | lost

structure Exchange where
  line : String
  request : Request
  call : Call
  reply : Reply
  arrived : Bool
  decodes : decode line = .ok request
  names : Names request call

def Exchange.acts (x : Exchange) : List Act :=
  .called x.call (.ok x.reply) ::
    if x.arrived then [.replied x.reply (.ok ())] else [.replied x.reply (.error .brokenPipe), .lost]

/-- How a service ends: with the driver's lines, or with a line that fails. -/
inductive Ending where
  | finished
  | undecodable (line : String) (fault : Json.Fault) (decodes : decode line = .error fault)
  | late (line : String) (request : Request) (decodes : decode line = .ok request)
  | unfit (line : String) (request : Request) (e : DriverError) (fate : Except WriteFault Unit)
    (decodes : decode line = .ok request) (unfit : Unfit request e)
  | failed (line : String) (request : Request) (call : Call) (e : BridgeError) (fate : Except WriteFault Unit)
    (decodes : decode line = .ok request) (names : Names request call)
  | unwritten (line : String) (request : Request) (call : Call) (reply : Reply) (fault : WriteFault)
    (decodes : decode line = .ok request) (names : Names request call) (other : fault ≠ .brokenPipe)

namespace Ending

def line? : Ending → Option String
  | .finished => none
  | .undecodable line .. | .late line .. | .unfit line .. | .failed line .. | .unwritten line .. => some line

def acts : Ending → List Act
  | .finished | .undecodable .. | .late .. => []
  | .unfit _ _ e fate _ _ => [.replied (.error e.message) fate]
  | .failed _ _ call e fate _ _ => [.called call (.error e), .replied (.error e.message) fate]
  | .unwritten _ _ call reply fault _ _ _ => [.called call (.ok reply), .replied reply (.error fault)]

def result : Ending → Except DriverError Unit
  | .finished => .ok ()
  | .undecodable _ fault _ => .error (.misused ("invalid request from driver: " ++ fault.message))
  | .late .. => .error (.misused "driver sent a request after closing its input")
  | .unfit _ _ e _ _ _ => .error e
  | .failed _ _ _ e _ _ _ => .error (.bridge e)
  | .unwritten _ _ _ _ fault _ _ _ => .error (.io fault.message)

/-- Whether a service can end so while replies are possible, or when they no longer are. -/
def Fits (replies : Bool) : Ending → Prop
  | .finished | .undecodable .. => True
  | .late .. => replies = false
  | .unfit .. | .failed .. | .unwritten .. => replies = true

end Ending

/-- Requests are met only while replies are possible, which they are as long as each reply arrives. -/
def Orderly : Bool → List Exchange → Ending → Prop
  | replies, [], ending => ending.Fits replies
  | replies, x :: exchanges, ending => replies = true ∧ Orderly x.arrived exchanges ending

/-- What happens between a driver and the desk that serves it. -/
structure Conversation (replies : Bool) where
  exchanges : List Exchange
  ending : Ending
  orderly : Orderly replies exchanges ending

namespace Conversation
variable {replies : Bool}

def lines (c : Conversation replies) : List String :=
  c.exchanges.map (·.line) ++ c.ending.line?.toList

def acts (c : Conversation replies) : List Act :=
  c.exchanges.flatMap Exchange.acts ++ c.ending.acts

def ends (ending : Ending) (fits : ending.Fits replies) : Conversation replies :=
  ⟨[], ending, fits⟩

def meets (x : Exchange) (c : Conversation x.arrived) : Conversation true :=
  ⟨x :: c.exchanges, c.ending, rfl, c.orderly⟩

end Conversation

/-! ### Prepared lines -/

/-- A desk that is to be given lines known beforehand, and what has been done at it. -/
structure Prepared (σ : Type) where
  lines : List String
  desk : σ
  acts : List Act

/-- The desk with prepared lines, whose acts are kept. -/
def Desk.prepared (desk : Desk σ) : Desk (Prepared σ) where
  nextLine s := (s.lines.head?.map fun line => .line (Utf8.encode line), { s with lines := s.lines.tail })
  call call s :=
    let (result, after) := desk.call call s.desk
    (result, { s with desk := after, acts := s.acts ++ [.called call result] })
  deliver reply s :=
    let (fate, after) := desk.deliver reply s.desk
    (fate, { s with desk := after, acts := s.acts ++ [.replied reply fate] })
  repliesLost s := { s with desk := desk.repliesLost s.desk, acts := s.acts ++ [.lost] }

/-- Acts that lead from one state of a desk to another. -/
inductive Desk.Leads (desk : Desk σ) : σ → List Act → σ → Prop where
  | done (s : σ) : desk.Leads s [] s
  | called {s next last : σ} {call : Call} {result : Except BridgeError Reply} {acts : List Act}
    (made : desk.call call s = (result, next)) (rest : desk.Leads next acts last) :
    desk.Leads s (.called call result :: acts) last
  | replied {s next last : σ} {reply : Reply} {fate : Except WriteFault Unit} {acts : List Act}
    (sent : desk.deliver reply s = (fate, next)) (rest : desk.Leads next acts last) :
    desk.Leads s (.replied reply fate :: acts) last
  | lost {s last : σ} {acts : List Act} (rest : desk.Leads (desk.repliesLost s) acts last) :
    desk.Leads s (.lost :: acts) last

theorem Desk.Leads.trans {desk : Desk σ} {first middle last : σ} {early late : List Act}
    (leads : desk.Leads first early middle) (more : desk.Leads middle late last) :
    desk.Leads first (early ++ late) last := by
  induction leads with
  | done => exact more
  | called made _ ih => exact .called made (ih more)
  | replied sent _ ih => exact .replied sent (ih more)
  | lost _ ih => exact .lost (ih more)

/-- Acts are done at a desk, and no line is read meanwhile. -/
structure Desk.Does (desk : Desk σ) (acts : List Act) (s after : Prepared σ) : Prop where
  unread : after.lines = s.lines
  kept : after.acts = s.acts ++ acts
  leads : desk.Leads s.desk acts after.desk

section Does
variable {desk : Desk σ} {s next last : Prepared σ}

theorem Desk.Does.none : desk.Does [] s s :=
  ⟨rfl, (List.append_nil _).symm, .done _⟩

theorem Desk.Does.trans {early late : List Act} (does : desk.Does early s next)
    (more : desk.Does late next last) : desk.Does (early ++ late) s last :=
  ⟨more.unread.trans does.unread, by rw [more.kept, does.kept, List.append_assoc], does.leads.trans more.leads⟩

theorem Desk.Does.call {call : Call} {result : Except BridgeError Reply}
    (made : desk.prepared.call call s = (result, next)) : desk.Does [.called call result] s next := by
  cases made
  exact ⟨rfl, rfl, .called rfl (.done _)⟩

theorem Desk.Does.deliver {reply : Reply} {fate : Except WriteFault Unit}
    (sent : desk.prepared.deliver reply s = (fate, next)) : desk.Does [.replied reply fate] s next := by
  cases sent
  exact ⟨rfl, rfl, .replied rfl (.done _)⟩

theorem Desk.Does.repliesLost : desk.Does [.lost] s (desk.prepared.repliesLost s) :=
  ⟨rfl, rfl, .lost (.done _)⟩

end Does

/-! ### One line -/

/-- What can come of one line: nothing if it is blank; else its request is met, or the service ends. -/
inductive Desk.Serves (desk : Desk σ) (line : String) (s after : Prepared σ) : Bool → Served → Prop where
  | silent {replies : Bool} (blank : telling line = false) (same : after = s) :
    desk.Serves line s after replies (.goesOn replies)
  | met (x : Exchange) (tells : telling line) (isLine : x.line = line) (does : desk.Does x.acts s after) :
    desk.Serves line s after true (.goesOn x.arrived)
  | fails {replies : Bool} {e : DriverError} (ending : Ending) (tells : telling line)
    (isLine : ending.line? = some line) (fits : ending.Fits replies) (result : ending.result = .error e)
    (does : desk.Does ending.acts s after) : desk.Serves line s after replies (.fails e)

section Line
variable (desk : Desk σ) {line : String}

end Line

/-! ### All lines -/

/-- A conversation is what a service of prepared lines comes to: the lines of which it made sense, in their
order, what it did, and its result. -/
structure Conversation.Held {replies : Bool} (c : Conversation replies) (desk : Desk σ) (s : Prepared σ)
    (served : Except DriverError Unit × Prepared σ) : Prop where
  result : served.1 = c.ending.result
  order : ∃ read, s.lines = read ++ served.2.lines ∧ read.filter telling = c.lines
  complete : c.ending = .finished → served.2.lines = []
  acts : served.2.acts = s.acts ++ c.acts
  leads : desk.Leads s.desk c.acts served.2.desk

section Lines
variable (desk : Desk σ)

variable {desk} {replies : Bool} {s after : Prepared σ}
  {served : Except DriverError Unit × Prepared σ} {line : String}

theorem Conversation.Held.silent {c : Conversation replies} (held : c.Held desk s served)
    (blank : telling line = false) : c.Held desk { s with lines := line :: s.lines } served := by
  obtain ⟨read, cut, heard⟩ := held.order
  refine ⟨held.result, ⟨line :: read, ?_, ?_⟩, held.complete, held.acts, held.leads⟩
  · rw [cut, List.cons_append]
  · rw [List.filter_cons_of_neg (by simp [blank]), heard]

theorem Conversation.Held.met {x : Exchange} {c : Conversation x.arrived} (held : c.Held desk after served)
    (tells : telling x.line) (does : desk.Does x.acts s after) :
    (c.meets x).Held desk { s with lines := x.line :: s.lines } served := by
  obtain ⟨read, cut, heard⟩ := held.order
  have acts : (c.meets x).acts = x.acts ++ c.acts := List.append_assoc ..
  refine ⟨held.result, ⟨x.line :: read, ?_, ?_⟩, held.complete, ?_, ?_⟩
  · rw [← does.unread, cut, List.cons_append]
  · rw [List.filter_cons_of_pos tells, heard]
    rfl
  · rw [held.acts, does.kept, acts, List.append_assoc]
  · rw [acts]
    exact does.leads.trans held.leads

theorem Desk.Serves.unread {served : Served} (serves : desk.Serves line s after replies served) :
    after.lines = s.lines := by
  cases serves with
  | silent _ same => rw [same]
  | met _ _ _ does => exact does.unread
  | fails _ _ _ _ _ does => exact does.unread

end Lines

/-! ### Runs of a driver -/

open Session (Stage Service Scene startDriver runDriver)

end PartyBridge.Driver
