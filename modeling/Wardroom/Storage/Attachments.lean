import Wardroom.Library.Trace
import Wardroom.Storage.RuntimeRepository

/-! # The attachments of a runtime

Viewers observe a runtime, and one of them may control it under a lease. The
table has a row for each viewer of a generation, and indexes that refuse a
second row of a viewer and a second controller that is not detached.
-/

namespace Wardroom.Domain

/-- A lease without an end, or with an empty one, does not expire. -/
def leaseExpired (lease : Option String) (now : String) : Bool := lease.any fun l => l ≠ "" && l ≤ now

def AttachRuntimeInput.validateIdentity (input : AttachRuntimeInput) : Except Failure Unit :=
  if input.homeAuthorityId = "" ∨ input.sessionId = "" ∨ input.runtimeId = "" ∨
      ¬(1 ≤ input.generation ∧ input.generation ≤ 9007199254740991) then
    .error (.coded "invalidRuntimeIdentity")
  else .ok ()

namespace RuntimeAttachment

/-- An attachment of the generation. -/
def of (runtimeId : String) (generation : Nat) (a : RuntimeAttachment) : Bool :=
  a.runtimeId = runtimeId && a.generation = generation

def live (a : RuntimeAttachment) : Bool := a.detachedAt.isNone

def controls (runtimeId : String) (generation : Nat) (a : RuntimeAttachment) : Bool :=
  a.of runtimeId generation && a.mode = .controller && a.live

def observes (runtimeId : String) (generation : Nat) (a : RuntimeAttachment) : Bool :=
  a.of runtimeId generation && a.mode = .observe && a.live

/-- The two unique indexes keep the rows apart: one row a viewer, one live controller. -/
def clashes (a b : RuntimeAttachment) : Bool :=
  a.attachmentId ≠ b.attachmentId && b.of a.runtimeId a.generation &&
    (a.viewerId = b.viewerId || (a.mode = .controller && a.live && b.mode = .controller && b.live))

def detached (at' seenAt : String) (a : RuntimeAttachment) : RuntimeAttachment :=
  { a with detachedAt := some at', lastSeenAt := some seenAt }

/-- The row of a viewer who comes back. -/
def reattached (input : AttachRuntimeInput) (at' seenAt : String) (a : RuntimeAttachment) : RuntimeAttachment :=
  { a with
    mode := input.mode, leaseExpiresAt := input.leaseExpiresAt, outputCursor := input.outputCursor
    attachedAt := at', detachedAt := none, lastSeenAt := some seenAt }

def renewed (leaseExpiresAt seenAt : String) (a : RuntimeAttachment) : RuntimeAttachment :=
  { a with leaseExpiresAt := some leaseExpiresAt, lastSeenAt := some seenAt }

def fresh (input : AttachRuntimeInput) (at' seenAt : String) : RuntimeAttachment where
  attachmentId := input.attachmentId
  runtimeId := input.runtimeId
  homeAuthorityId := input.homeAuthorityId
  sessionId := input.sessionId
  generation := input.generation
  viewerId := input.viewerId
  mode := input.mode
  leaseExpiresAt := input.leaseExpiresAt
  outputCursor := input.outputCursor
  attachedAt := at'
  detachedAt := none
  lastSeenAt := some seenAt

end RuntimeAttachment

end Wardroom.Domain

namespace Wardroom.Storage
open Wardroom.Library Wardroom.Domain Prog

/-- The daemon with the attachments of its runtimes. -/
structure AttachmentStore where
  daemon : Daemon
  attachments : Table RuntimeAttachment.attachmentId

abbrev AttachmentAction (α : Type) := Prog AttachmentStore Failure α

/-- An action of the daemon, which does not see the attachments. -/
def onDaemon {α : Type} (x : Action α) : AttachmentAction α := fun s =>
  ((x s.daemon).1, { s with daemon := (x s.daemon).2 })

def attachmentNow : AttachmentAction String := onDaemon (onStore now)

def setAttachments (t : Table RuntimeAttachment.attachmentId) : AttachmentAction Unit :=
  modify fun s => { s with attachments := t }

def attachmentTransaction {α : Type} (body : AttachmentAction α) : AttachmentAction α := fun s =>
  if 0 < s.daemon.store.transactionDepth ∨ s.daemon.store.importSession.isSome then
    (.error (.sqlite "cannot start a transaction within a transaction"), s)
  else atomically AttachmentStore.attachments (fun t s => { s with attachments := t }) body s

/-- The default of `quota` is 32 observers. -/
def Daemon.maxObserversPerRuntime (d : Daemon) (machineId : String) : Nat :=
  ((d.quotas.find? machineId).map RuntimeQuota.maxObserversPerRuntime).getD 32

namespace AttachmentStore

def attachment (s : AttachmentStore) (attachmentId : String) : Option RuntimeAttachment :=
  s.attachments.find? attachmentId

/-- The undetached attachment of the viewer. -/
def current (s : AttachmentStore) (input : AttachRuntimeInput) : Option RuntimeAttachment :=
  s.attachments.rows.find? fun a => a.of input.runtimeId input.generation && a.viewerId = input.viewerId && a.live

/-- `ORDER BY attached_at DESC LIMIT 1` over the detached ones. -/
def earlier (s : AttachmentStore) (input : AttachRuntimeInput) : Option RuntimeAttachment :=
  ((s.attachments.select fun a =>
    a.of input.runtimeId input.generation && a.viewerId = input.viewerId && !a.live).insertionSort
      fun a b => b.attachedAt ≤ a.attachedAt).head?

def observers (s : AttachmentStore) (runtimeId : String) (generation : Nat) : List RuntimeAttachment :=
  s.attachments.select (RuntimeAttachment.observes runtimeId generation)

def controllers (s : AttachmentStore) (runtimeId : String) (generation : Nat) : List RuntimeAttachment :=
  s.attachments.select (RuntimeAttachment.controls runtimeId generation)

/-- The next reading of the clock. -/
def time (s : AttachmentStore) : String := s.daemon.store.clock s.daemon.store.ticks

end AttachmentStore

def assertSameGeneration (runtime : Runtime) (input : AttachRuntimeInput) : Except Failure Unit :=
  if runtime.homeAuthorityId ≠ input.homeAuthorityId ∨ runtime.sessionId ≠ input.sessionId then
    .error (.coded "runtimeIdentityMismatch")
  else if runtime.generation ≠ input.generation then .error (.coded "staleRuntimeGeneration")
  else .ok ()

/-- What a request must say of itself, and of its runtime, before its viewer is looked at. -/
def checkAttach (d : Daemon) (input : AttachRuntimeInput) : Except Failure Runtime := do
  match d.runtime input.runtimeId with
  | none => .error (.coded "runtimeNotFound")
  | some runtime =>
    assertSameGeneration runtime input
    if runtime.state = .exited ∨ runtime.state = .terminated ∨
        (runtime.state = .crashed ∧ input.allowRecovery = false) then
      .error (.coded "runtimeUnavailable")
    else .ok runtime

/-- `UPDATE … WHERE attachment_id=? AND detached_at IS NULL`. -/
def detachRow (attachmentId : String) : AttachmentAction Unit := do
  let at' ← attachmentNow
  let seenAt ← attachmentNow
  modify fun s => { s with
    attachments := s.attachments.update (fun a => a.attachmentId = attachmentId && a.live)
      (RuntimeAttachment.detached at' seenAt) fun _ => rfl }

/-- Observers are counted; a controller whose lease is over, or that an operator overrides, goes. -/
def makeRoom (runtime : Runtime) (input : AttachRuntimeInput) : AttachmentAction Unit := do
  let s ← read
  match input.mode with
  | .observe =>
    if s.daemon.maxObserversPerRuntime runtime.machineId ≤
        (s.observers input.runtimeId input.generation).length then
      fail (.coded "observerQuotaExceeded")
    else pure ()
  | .controller =>
    match s.controllers input.runtimeId input.generation with
    | [] => pure ()
    | controller :: _ =>
      if Text.given controller.leaseExpiresAt then do
        let now ← attachmentNow
        if leaseExpired controller.leaseExpiresAt now = true ∨ input.operatorOverride = true then
          detachRow controller.attachmentId
        else pure ()
      else if input.operatorOverride then detachRow controller.attachmentId
      else pure ()

/-- An integer that SQLite holds; the driver binds no larger BigInt. -/
abbrev WordSized (n : Int) : Prop := -9223372036854775808 ≤ n ∧ n ≤ 9223372036854775807

def tooLargeToBind : Failure := .sqlite "BigInt value is too large to bind"

def tooLargeToRead (n : Int) : Failure :=
  .runtime ("Value is too large to be represented as a JavaScript number: " ++ toString n)

/-- A column is read as a number, which an integer above 2⁵³ - 1 does not become. -/
def readBack (row : RuntimeAttachment) : AttachmentAction RuntimeAttachment :=
  if 9007199254740991 < row.outputCursor then fail (tooLargeToRead row.outputCursor)
  else pure row

/-- The row of a viewer who was here before is taken up again. -/
def reattach (earlier : RuntimeAttachment) (input : AttachRuntimeInput) : AttachmentAction RuntimeAttachment := do
  let at' ← attachmentNow
  let seenAt ← attachmentNow
  let s ← read
  let row := RuntimeAttachment.reattached input at' seenAt earlier
  if ¬WordSized row.outputCursor then fail tooLargeToBind
  else if row.outputCursor < 0 then fail (.sqlite "CHECK constraint failed: output_cursor >= 0")
  else if s.attachments.rows.any row.clashes = true then fail (.sqlite
    "UNIQUE constraint failed: runtime_attachments.runtime_id, runtime_attachments.generation")
  else do
    setAttachments (s.attachments.update (fun a => a.attachmentId = earlier.attachmentId)
      (RuntimeAttachment.reattached input at' seenAt) fun _ => rfl)
    readBack row

/-- A broken constraint is reported as a busy lease, or as a second attachment. -/
def insertAttachment (input : AttachRuntimeInput) : AttachmentAction RuntimeAttachment := do
  let at' ← attachmentNow
  let seenAt ← attachmentNow
  let s ← read
  let row := RuntimeAttachment.fresh input at' seenAt
  let refused : Failure := .coded
    (if input.mode = .controller then "controllerLeaseBusy" else "runtimeAttachmentAlreadyExists")
  if ¬WordSized row.outputCursor then fail tooLargeToBind
  else if row.outputCursor < 0 ∨ s.attachments.rows.any row.clashes = true then fail refused
  else
    match s.attachments.insert? row with
    | none => fail refused
    | some t => do
      setAttachments t
      readBack row

def attach (input : AttachRuntimeInput) : AttachmentAction RuntimeAttachment := do
  ofExcept input.validateIdentity
  if input.attachmentId = "" ∨ input.viewerId = "" then fail (.coded "invalidRuntimeAttachment")
  else attachmentTransaction do
    let s ← read
    let runtime ← ofExcept (checkAttach s.daemon input)
    match s.current input with
    | some current => pure current
    | none =>
      makeRoom runtime input
      match s.earlier input with
      | some earlier => reattach earlier input
      | none => insertAttachment input

def detach (attachmentId : String) : AttachmentAction RuntimeAttachment := attachmentTransaction do
  let s ← read
  match s.attachment attachmentId with
  | none => fail (.coded "unknownRuntimeAttachment")
  | some attachment =>
    if attachment.live then detachRow attachmentId
    let s ← read
    match s.attachment attachmentId with
    | none => fail (.coded "unknownRuntimeAttachment")
    | some attachment => pure attachment

def renewControllerLease (attachmentId leaseExpiresAt : String) : AttachmentAction RuntimeAttachment :=
  attachmentTransaction do
    let s ← read
    match (s.attachment attachmentId).filter RuntimeAttachment.live with
    | none => fail (.coded "unknownRuntimeAttachment")
    | some attachment =>
      if attachment.mode ≠ .controller then fail (.coded "controllerLeaseRequired")
      else do
        let seenAt ← attachmentNow
        setAttachments (s.attachments.update (fun a => a.attachmentId = attachmentId && a.live)
          (RuntimeAttachment.renewed leaseExpiresAt seenAt) fun _ => rfl)
        pure (RuntimeAttachment.renewed leaseExpiresAt seenAt attachment)

end Wardroom.Storage
