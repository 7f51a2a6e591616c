import PartyBridge.Proofs.Bridge.Discretion

/-!
# Requests that differ in their payloads

Two requests are alike if they differ at most in the payload that is to be sent or shown, and both payloads
are scalars or none is. They both ask for a call, or both are refused, and only a refusal shows the payload.
-/

namespace PartyBridge.Driver
open ByteStream

/-- Two requests that differ at most in their payloads, which are both scalars or both none. -/
inductive Request.Alike : Request → Request → Prop where
  | same (request : Request) : Alike request request
  | send {value value' : Json.Value} (kind : (scalarText? value).isSome = (scalarText? value').isSome) :
      Alike (.sendToEngine value) (.sendToEngine value')
  | output {value value' : Json.Value} (kind : (scalarText? value).isSome = (scalarText? value').isSome) :
      Alike (.userOutput value) (.userOutput value')

def Spells (bytes : Bytes) (request : Request) : Prop :=
  ∃ line, Utf8.decode? bytes = some line ∧
    Request.parse (String.ofList (Text.trim line.toList)) = .ok request

/-- Two reads of a driver's output that differ at most in the payload of a request. -/
inductive ReadsAlike : LineRead → LineRead → Prop where
  | same (read : LineRead) : ReadsAlike read read
  | spoken {bytes bytes' : Bytes} {request request' : Request} (spells : Spells bytes request)
      (spells' : Spells bytes' request') (alike : request.Alike request') :
      ReadsAlike (.line bytes) (.line bytes')

/-- The primitive of a line that spells a request with a payload, and whether the payload is a scalar. -/
def payloadKind? : LineRead → Option (Command × Bool)
  | .fault _ => none
  | .line bytes =>
    match Utf8.decode? bytes with
    | none => none
    | some line =>
      match Request.parse (String.ofList (Text.trim line.toList)) with
      | .ok (.sendToEngine value) => some (.sendToEngine, (scalarText? value).isSome)
      | .ok (.userOutput value) => some (.userOutput, (scalarText? value).isSome)
      | _ => none

theorem payloadKind?_cases {read : LineRead} {command : Command} {scalar : Bool}
    (kind : payloadKind? read = some (command, scalar)) :
    ∃ bytes value, read = .line bytes ∧ (scalarText? value).isSome = scalar ∧
      ((command = .sendToEngine ∧ Spells bytes (.sendToEngine value)) ∨
        (command = .userOutput ∧ Spells bytes (.userOutput value))) := by
  unfold payloadKind? at kind
  split at kind
  · cases kind
  · rename_i bytes
    split at kind
    · cases kind
    · rename_i line decoded
      split at kind
      · rename_i value parsed
        cases kind
        exact ⟨bytes, value, rfl, rfl, .inl ⟨rfl, line, decoded, parsed⟩⟩
      · rename_i value parsed
        cases kind
        exact ⟨bytes, value, rfl, rfl, .inr ⟨rfl, line, decoded, parsed⟩⟩
      · cases kind

theorem ReadsAlike.of_kind {read read' : LineRead} {kind : Command × Bool}
    (known : payloadKind? read = some kind) (known' : payloadKind? read' = some kind) :
    ReadsAlike read read' := by
  obtain ⟨command, scalar⟩ := kind
  obtain ⟨bytes, value, rfl, scalar, spells⟩ := payloadKind?_cases known
  obtain ⟨bytes', value', rfl, scalar', spells'⟩ := payloadKind?_cases known'
  have same := scalar.trans scalar'.symm
  obtain ⟨rfl, spells⟩ | ⟨rfl, spells⟩ := spells <;> obtain ⟨named, spells'⟩ | ⟨named, spells'⟩ := spells'
  · exact .spoken spells spells' (.send same)
  · cases named
  · cases named
  · exact .spoken spells spells' (.output same)

def refusal (command : Command) (value : Json.Value) : DriverError :=
  .misused (command.name ++ " needs a scalar value, got " ++ value.render)

/-- Two failures that differ at most in a payload that was refused. -/
inductive FailsAlike : DriverError → DriverError → Prop where
  | same (e : DriverError) : FailsAlike e e
  | refused (command : Command) {value value' : Json.Value} (unfit : scalarText? value = none)
      (unfit' : scalarText? value' = none) :
      FailsAlike (refusal command value) (refusal command value')

def payloadCall (command : Command) (make : String → Call) (value : Json.Value) :
    Except DriverError Call :=
  (scalarText? value).elim (.error (refusal command value)) fun text => .ok (make text)

theorem send_call (value : Json.Value) :
    (Request.sendToEngine value).call = payloadCall .sendToEngine .send value := by
  have text : Command.sendToEngine.name ++ " needs a scalar value, got " =
      "send_to_engine needs a scalar value, got " := by decide
  cases known : scalarText? value <;> simp [Request.call, payloadCall, refusal, known, text]

theorem output_call (value : Json.Value) :
    (Request.userOutput value).call = payloadCall .userOutput .output value := by
  have text : Command.userOutput.name ++ " needs a scalar value, got " =
      "user_output needs a scalar value, got " := by decide
  cases known : scalarText? value <;> simp [Request.call, payloadCall, refusal, known, text]

/-- Two requests ask for calls that are alike, or are refused alike. -/
inductive AskedAlike : Except DriverError Call → Except DriverError Call → Prop where
  | calls {call call' : Call} (alike : call.Alike call') : AskedAlike (.ok call) (.ok call')
  | fails {e e' : DriverError} (alike : FailsAlike e e') : AskedAlike (.error e) (.error e')

theorem payloadCall_alike {command : Command} {make : String → Call}
    (makes : ∀ text text', (make text).Alike (make text')) {value value' : Json.Value}
    (kind : (scalarText? value).isSome = (scalarText? value').isSome) :
    AskedAlike (payloadCall command make value) (payloadCall command make value') := by
  unfold payloadCall
  cases known : scalarText? value with
  | none =>
    cases known' : scalarText? value' with
    | none => exact .fails (.refused command known known')
    | some text' => simp [known, known'] at kind
  | some text =>
    cases known' : scalarText? value' with
    | none => simp [known, known'] at kind
    | some text' => exact .calls (makes text text')

theorem Request.Alike.call {request request' : Request} (alike : request.Alike request') :
    AskedAlike request.call request'.call := by
  cases alike with
  | same =>
    cases request.call with
    | ok call => exact .calls (.same call)
    | error e => exact .fails (.same e)
  | send kind =>
    rw [send_call, send_call]
    exact payloadCall_alike .send kind
  | output kind =>
    rw [output_call, output_call]
    exact payloadCall_alike .output kind

inductive ServedAlike : Served → Served → Prop where
  | goesOn (replies : Bool) : ServedAlike (.goesOn replies) (.goesOn replies)
  | fails {e e' : DriverError} (alike : FailsAlike e e') : ServedAlike (.fails e) (.fails e')

/-- A line that spells a request is served as that request, as long as there are replies. -/
theorem serveRead_spells {τ : Type} {desk : Desk τ} {bytes : Bytes} {request : Request}
    (spells : Spells bytes request) (replies : Bool) (t : τ) :
    serveRead desk replies (.line bytes) t =
      if replies then serveRequest desk request t
      else (.fails (.misused "driver sent a request after closing its input"), t) := by
  obtain ⟨line, decoded, parsed⟩ := spells
  have speaks : (String.ofList (Text.trim line.toList)).isEmpty = false := by
    cases blank : (String.ofList (Text.trim line.toList)).isEmpty with
    | false => rfl
    | true =>
      have nothing : String.ofList (Text.trim line.toList) = "" := by simpa using blank
      rw [nothing] at parsed
      cases parsed
  simp only [serveRead, decoded, serveText, speaks, parsed]
  rfl

inductive OutcomesAlike : Except DriverError Unit → Except DriverError Unit → Prop where
  | served : OutcomesAlike (.ok ()) (.ok ())
  | fails {e e' : DriverError} (alike : FailsAlike e e') : OutcomesAlike (.error e) (.error e')

end PartyBridge.Driver
