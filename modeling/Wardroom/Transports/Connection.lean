import Wardroom.Library.Json
import Wardroom.Library.Lines
import Wardroom.Library.Trace

/-! # A connection of the local service

Every chunk of a client starts a loop of its own over the one buffer of the
connection. A loop takes a line, waits for the method that the line asks for,
writes what it answers and goes on. The requests of the older protocol wait in
a queue of their own, and no loop waits for them.
-/

namespace Wardroom.Transports
open Wardroom.Library

/-- What a handler throws, as far as it is looked at. -/
structure JsError where
  code : Option String
  message : Option String

/-- What the connection asks of the handler and of the language. -/
structure Service where
  /-- `JSON.parse`. -/
  parse : List Char → Except JsError Json
  /-- `String(value)`. -/
  text : Json → String
  /-- `typeof handler[name] === "function"`. -/
  isMethod : String → Bool
  /-- What the method of a request throws before it returns anything. -/
  throws : Nat → Option JsError

def ROOMS_PROTOCOL_VERSION : String := "4"

/-- The canonical text of a number that `Number.isSafeInteger` accepts. -/
def isSafeInteger (text : String) : Bool := text.toInt?.any fun n => n.natAbs ≤ 9007199254740991

/-- The range of supported versions has one member. -/
def assertRoomsProtocolVersion (version : Option Json) : Except JsError Unit :=
  match version with
  | some (.num text) =>
    if text = ROOMS_PROTOCOL_VERSION then .ok ()
    else .error (mismatch (if isSafeInteger text then text else "missing or invalid"))
  | _ => .error (mismatch "missing or invalid")
where
  mismatch (received : String) : JsError :=
    ⟨some "protocolVersionMismatch",
      some ("Rooms protocol version " ++ received ++ " is not supported; supported version: " ++ ROOMS_PROTOCOL_VERSION)⟩

/-- What becomes of a line that a loop takes. -/
inductive Admission where
  /-- Its error is written at once. -/
  | refused (error : JsError)
  /-- A request of the older protocol joins the queue. -/
  | legacy (kind : String)
  /-- The loop waits for the method. -/
  | invoked (method : String)

namespace Service

/-- `request.request?.context?.protocolVersion`. -/
def contextVersion (request : Json) : Option Json :=
  ((request.member "request").bind fun payload => payload.member "context").bind fun context =>
    context.member "protocolVersion"

def admitCall (s : Service) (i : Nat) (request : Json) : Except JsError String := do
  let method ← match (request.member "method").filter Json.truthy with
    | some method => .ok (s.text method)
    | none => .error ⟨some "invalidRequest", some "missing method"⟩
  assertRoomsProtocolVersion (contextVersion request)
  if s.isMethod method then
    match s.throws i with
    | some error => .error error
    | none => .ok method
  else .error ⟨some "unknownMethod", some ("unknown method " ++ method)⟩

/-- The line is the `i`-th request. -/
def admitLine (s : Service) (i : Nat) (line : List Char) : Admission :=
  match s.parse line with
  | .error error => .refused error
  | .ok .null => .refused ⟨none, some "Cannot read properties of null (reading 'kind')"⟩
  | .ok request =>
    match request.member "kind" with
    | some (.str kind) =>
      match assertRoomsProtocolVersion (request.member "protocolVersion") with
      | .error error => .refused error
      | .ok () => .legacy kind
    | _ =>
      match s.admitCall i request with
      | .error error => .refused error
      | .ok method => .invoked method

end Service

/-- A line that is written on the connection. None of them says which request it answers. -/
inductive Output where
  | response (result : Option Json)
  | stream (item : Option Json)
  | streamEnd
  | error (error : JsError)
  /-- `ok: true` to a request of the older protocol. -/
  | accepted (fields : List (String × Json))
  | rejected (errorCode errorDescription : String)
  /-- `ok: true` to a subscription, and its changes. -/
  | subscribed
  | change (value : Json)

/-- A loop that waits for its call. -/
structure Loop where
  request : Nat
  method : String
  /-- The method returned an iterable. -/
  streaming : Bool
  deriving DecidableEq

structure LegacyRequest where
  request : Nat
  kind : String
  /-- A subscription that was accepted. -/
  isOpen : Bool

structure Connection where
  buffer : List Char
  /-- The lines that were taken: the `i`-th is the `i`-th request. -/
  lines : List (List Char)
  loops : List Loop
  legacyQueue : List LegacyRequest
  /-- What was written, with the request it answers. -/
  writes : List (Nat × Output)

inductive ConnectionEvent where
  | data (chunk : List Char)
  /-- The call of the `k`-th loop that waits. -/
  | returns (k : Nat) (result : Option Json)
  | iterates (k : Nat)
  | yields (k : Nat) (item : Option Json)
  | ends (k : Nat)
  | throws (k : Nat) (error : JsError)
  /-- The first request of the queue. -/
  | accepts (fields : List (String × Json))
  | subscribes
  | changes (value : Json)
  | closes
  | rejects (errorCode errorDescription : String)

/-- The first line of a text and what follows its line feed. -/
def cut (text : List Char) : Option (List Char × List Char) :=
  if '\n' ∈ text then some (text.takeWhile (· ≠ '\n'), (text.dropWhile (· ≠ '\n')).tail) else none

namespace Connection

def initial : Connection := ⟨[], [], [], [], []⟩

def write (c : Connection) (request : Nat) (output : Output) : Connection :=
  { c with writes := c.writes ++ [(request, output)] }

/-- A loop over the buffer. A text has as many lines as line feeds. -/
def loop (s : Service) : Nat → Connection → Connection
  | 0, c => c
  | n + 1, c =>
    match cut c.buffer with
    | none => c
    | some (line, rest) =>
      let i := c.lines.length
      let taken := { c with buffer := rest, lines := c.lines ++ [line] }
      match s.admitLine i line with
      | .refused error => loop s n (taken.write i (.error error))
      | .legacy kind => loop s n { taken with legacyQueue := taken.legacyQueue ++ [⟨i, kind, false⟩] }
      | .invoked method => { taken with loops := taken.loops ++ [⟨i, method, false⟩] }

def drain (s : Service) (c : Connection) : Connection := loop s (c.buffer.count '\n') c

/-- The call of the `k`-th loop is over, and the loop goes on. -/
def resume (s : Service) (c : Connection) (k : Nat) (request : Nat) (output : Output) : Connection :=
  drain s ({ c with loops := c.loops.eraseIdx k }.write request output)

/-- The first request of the queue is over. -/
def dequeue (c : Connection) : Connection := { c with legacyQueue := c.legacyQueue.tail }

def step (s : Service) (c : Connection) : ConnectionEvent → Connection
  | .data chunk => drain s { c with buffer := c.buffer ++ chunk }
  | .returns k result =>
    match c.loops[k]? with
    | some ⟨request, _, false⟩ => c.resume s k request (.response result)
    | _ => c
  | .iterates k =>
    match c.loops[k]? with
    | some ⟨request, method, false⟩ => { c with loops := c.loops.set k ⟨request, method, true⟩ }
    | _ => c
  | .yields k item =>
    match c.loops[k]? with
    | some ⟨request, _, true⟩ => c.write request (.stream item)
    | _ => c
  | .ends k =>
    match c.loops[k]? with
    | some ⟨request, _, true⟩ => c.resume s k request .streamEnd
    | _ => c
  | .throws k error =>
    match c.loops[k]? with
    | some ⟨request, _, _⟩ => c.resume s k request (.error error)
    | none => c
  | .accepts fields =>
    match c.legacyQueue with
    | ⟨request, kind, false⟩ :: _ => if kind = "subscribe" then c else c.dequeue.write request (.accepted fields)
    | _ => c
  | .subscribes =>
    match c.legacyQueue with
    | ⟨request, kind, false⟩ :: queue =>
      if kind = "subscribe" then { c with legacyQueue := ⟨request, kind, true⟩ :: queue }.write request .subscribed else c
    | _ => c
  | .changes value =>
    match c.legacyQueue with
    | ⟨request, _, true⟩ :: _ => c.write request (.change value)
    | _ => c
  | .closes =>
    match c.legacyQueue with
    | ⟨_, _, true⟩ :: _ => c.dequeue
    | _ => c
  | .rejects errorCode errorDescription =>
    match c.legacyQueue with
    | ⟨request, _, _⟩ :: _ => c.dequeue.write request (.rejected errorCode errorDescription)
    | [] => c

end Connection

/-- What the client sent. -/
def received : List ConnectionEvent → List Char
  | [] => []
  | .data chunk :: events => chunk ++ received events
  | _ :: events => received events

end Wardroom.Transports
