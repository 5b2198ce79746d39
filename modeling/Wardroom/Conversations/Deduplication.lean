import Wardroom.Library.Trace
import Wardroom.Storage.MessageEffects

/-! # Deduplication of messages

A commit that carries a deduplication key is answered with the earliest stored
message that carries the key. A conversation is a channel and a sender; the
lookup has neither, so the answer depends on who used the key first.
-/

namespace Wardroom.Conversations
open Wardroom.Library Wardroom.Domain Wardroom.Storage

/-- What deduplication reads of a message: its conversation and its key. -/
structure Carrier where
  channelId : Option Json
  senderSessionId : Option Json
  key : Option Json

def Carrier.ofEvent (event : Json) : Carrier :=
  ⟨event.member "channelId", event.member "senderSessionId", deduplicationKey event⟩

def Carrier.ofInput (input : CanonicalMessageCommitInput) : Carrier :=
  ⟨some (Json.ofOption input.channelId), some (.str input.senderSessionId),
    input.correlation.bind fun c => c.member "deduplicationKey"⟩

def Carrier.carries (key : Json) (c : Carrier) : Bool := c.key.any fun k => sqlEquals k key

/-- The carriers of a store, in cursor order. -/
def carriers (db : Database) : List Carrier := db.changes.sent.map fun r => Carrier.ofEvent r.2

def commitStep (w : World) (input : CanonicalMessageCommitInput) : World := (commitMessage input w).2

/-- The call appends its message. -/
def accepts (w : World) (input : CanonicalMessageCommitInput) : Bool :=
  match (commitMessage input w).1 with
  | .ok r => !r.wasDeduplicated
  | .error _ => false

/-- The first accepted call of a run that stored the key. -/
def firstCarrier (w : World) (inputs : List CanonicalMessageCommitInput) (key : Json) :
    Option CanonicalMessageCommitInput :=
  (Trace.taken commitStep accepts w inputs).find? fun i => (Carrier.ofInput i).carries key

/-- A store between two commands, outside an import. -/
structure AtRest (w : World) : Prop where
  transactionDepth : w.transactionDepth = 0
  importSession : w.importSession = none

theorem AtRest.of_keeps {w w' : World} (h : AtRest w) (hkeeps : Keeps w w') : AtRest w' :=
  ⟨hkeeps.transactionDepth.trans h.transactionDepth, hkeeps.importSession.trans h.importSession⟩

variable {w : World}

theorem commitStep_atRest (h : AtRest w) (input : CanonicalMessageCommitInput) :
    AtRest (commitStep w input) :=
  h.of_keeps (commitMessage_effect w input).keeps

variable {input : CanonicalMessageCommitInput}

theorem ofEvent_messageEvent {db : Database}
    {reply : ReplyMetadata} (id occurredAt : String)
    (h : resolveReplyMetadata db input.channelId input.replyToEventId input.correlation = .ok reply) :
    Carrier.ofEvent (messageEvent input reply id occurredAt) = Carrier.ofInput input := by
  have hkey := (resolved_of_ok h).correlation_member
    (show "deduplicationKey" ≠ "replyToEventId" by decide)
  simp [Carrier.ofEvent, Carrier.ofInput, deduplicationKey, hkey]

theorem carriers_step (h : AtRest w) (input : CanonicalMessageCommitInput) :
    carriers (commitStep w input).db =
      carriers w.db ++ if accepts w input then [Carrier.ofInput input] else [] := by
  have hsettles : Settles (commitMessage input) w fun r db' => Committed input w.db r db' :=
    write_settles rfl h.transactionDepth (commitMessage_effect w input)
  unfold commitStep accepts
  rcases hsettles.outcome with ⟨r, hok, heffect⟩ | ⟨⟨e, herror⟩, hdb⟩
  · rw [hok]
    generalize (commitMessage input w).2.db = db' at heffect
    cases heffect with
    | duplicate => simp
    | fresh reply uuid occurredAt at' receipt _ hreply _ =>
      simp [carriers, ofEvent_messageEvent _ _ hreply]
  · rw [herror, hdb]
    simp

theorem carriers_run (h : AtRest w) (hempty : w.db.changes.sent = [])
    (inputs : List CanonicalMessageCommitInput) :
    carriers (Trace.run commitStep w inputs).db =
      (Trace.taken commitStep accepts w inputs).map Carrier.ofInput := by
  have hrun := Trace.observed_run accepts (fun w => carriers w.db) Carrier.ofInput
    (fun w i (hw : AtRest w) => commitStep_atRest hw i) (fun w i hw => carriers_step hw i) h inputs
  rw [hrun]
  simp [carriers, hempty]

theorem deduplicationRow_carrier (db : Database) (key : Json) :
    (db.deduplicationRow key).map (fun r => Carrier.ofEvent r.2) =
      (carriers db).find? (Carrier.carries key) := by
  unfold carriers
  rw [List.find?_map]
  rfl

theorem deduplicationRow_run (h : AtRest w) (hempty : w.db.changes.sent = [])
    (inputs : List CanonicalMessageCommitInput) (key : Json) :
    ((Trace.run commitStep w inputs).db.deduplicationRow key).map (fun r => Carrier.ofEvent r.2) =
      (firstCarrier w inputs key).map Carrier.ofInput := by
  rw [deduplicationRow_carrier, carriers_run h hempty, List.find?_map]
  rfl

theorem sqlEquals_of_not_bindable {key : Json} (h : bindable key = false) (stored : Json) :
    sqlEquals stored key = false := by
  cases key with
  | str s => cases h
  | num t => cases h
  | _ => rfl

theorem firstCarrier_of_not_bindable {key : Json} (h : bindable key = false) (w : World)
    (inputs : List CanonicalMessageCommitInput) : firstCarrier w inputs key = none := by
  unfold firstCarrier
  rw [List.find?_eq_none]
  intro i _
  simp only [Carrier.carries, Option.any_eq_true, not_exists, not_and]
  intro stored _
  rw [sqlEquals_of_not_bindable h]
  exact Bool.false_ne_true

/-- The call is refused before its key is looked up. -/
def Refused (db : Database) (input : CanonicalMessageCommitInput) : Prop :=
  recipientKnown db input.target = false ∨
    ∃ e, resolveReplyMetadata db input.channelId input.replyToEventId input.correlation = .error e

/-- If the call is answered with a stored event, it is one of the caller's own conversation. -/
def AnswersOwnConversation (w : World) (input : CanonicalMessageCommitInput) : Prop :=
  ∀ r w', commitMessage input w = (.ok r, w') → r.wasDeduplicated = true →
    r.event.member "channelId" = some (Json.ofOption input.channelId) ∧
    r.event.member "senderSessionId" = some (.str input.senderSessionId)

theorem activeKey_resolved {db : Database}
    {reply : ReplyMetadata}
    (h : resolveReplyMetadata db input.channelId input.replyToEventId input.correlation = .ok reply) :
    activeKey reply.correlation = activeKey input.correlation := by
  unfold activeKey
  rw [(resolved_of_ok h).correlation_member (by decide)]

theorem commitMessage_found (h : AtRest w)
    {key : Json} {row : Change} {event : Json} (hkey : activeKey input.correlation = some key)
    (hbind : bindable key = true) (haccepted : ¬Refused w.db input)
    (hrow : w.db.deduplicationRow key = some (row, event)) :
    ∃ w', commitMessage input w = (.ok ⟨⟨row.cursor, false, []⟩, event, true⟩, w') := by
  obtain ⟨hrecipient, hresolve⟩ := not_or.mp haccepted
  have hwp : Prog.wp (commitMessage input)
      (fun r _ => r = ⟨⟨row.cursor, false, []⟩, event, true⟩) (fun _ _ => False) w := by
    unfold commitMessage
    rw [wp_write_outermost _ h.transactionDepth h.importSession]
    simp only [Prog.wp_bind, wp_database, wp_throwIf, Prog.wp_ofExcept]
    refine ⟨hrecipient, fun _ => ⟨fun reply hreply => ?_, fun e he => hresolve ⟨e, he⟩⟩⟩
    have hprior : priorMessage w.db (activeKey reply.correlation) = .ok (some (row, event)) := by
      rw [activeKey_resolved hreply, hkey, priorMessage_of_bindable _ hbind, hrow]
    refine ⟨fun prior hp => ?_, fun e he => ?_⟩
    · have heq : some (row, event) = prior := Except.ok.inj (hprior.symm.trans hp)
      subst heq
      rfl
    · cases hprior.symm.trans he
  obtain ⟨r, w', hrun, hr⟩ := Prog.exists_ok_of_wp hwp
  exact ⟨w', hr ▸ hrun⟩

theorem ofOption_injective {a b : Option String} (h : Json.ofOption a = Json.ofOption b) : a = b := by
  cases a <;> cases b <;> simp_all [Json.ofOption]

/-- A message with no target and one deduplication key. -/
def keyed (channelId senderSessionId key : String) : CanonicalMessageCommitInput where
  channelId := some channelId
  senderSessionId := senderSessionId
  body := "all hands"
  target := none
  replyToEventId := none
  correlation := some (.obj [("deduplicationKey", .str key)])
  deliveryStatuses := none
  attachmentReferences := none

def twoConversations : World :=
  let setUp : Command MutationReceipt := do
    let _ ← insertSession { id := "alice", role := some .operator }
    let _ ← insertSession { id := "bob", role := some .operator }
    let _ ← insertChannel "harbour" (some "alice")
    insertChannel "bridge" (some "bob")
  (setUp (World.initial .empty tally tally)).2

end Wardroom.Conversations
