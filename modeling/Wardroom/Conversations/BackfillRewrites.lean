import Mathlib.Data.List.Forall2
import Wardroom.Storage.Migrations
import Wardroom.Storage.MessageEffects

/-! # The rows that the backfill rewrites

The loop of the migration is read as a list of settled reply fields; what it
writes over the journal keeps every other field, and is settled when it is read
again.
-/

namespace Wardroom.Conversations
open Wardroom.Library Wardroom.Domain Wardroom.Storage Prog

/-- A live event with its resolved reply fields; an absent correlation is not stored. -/
def withReply (event : Json) (reply : ReplyMetadata) : Json :=
  let event' := (event.set "replyToEventId" (Json.ofOption reply.replyToEventId)).set
    "threadRootEventId" (Json.ofOption reply.threadRootEventId)
  match reply.correlation with
  | none => event'
  | some correlation => event'.set "correlation" correlation

/-- Commit one message of an old journal live, under its own id, channel and time. -/
def replayMessage (db : Database) (row : Change) (event : Json) : Except Failure Database := do
  let reply ← resolveReplyMetadata db row.channelId (event.member "replyToEventId")
    (event.member "correlation")
  return db.record row.channelId (.messageSent (withReply event reply)) row.occurredAt
    row.sourceOrdinal

def replayMessages (db : Database) : List (Change × Json) → Except Failure Database
  | [] => .ok db
  | (row, event) :: rows => do
    let db ← replayMessage db row event
    replayMessages db rows

/-- The identity of a message and its two reply fields. -/
def replyLink (event : Json) : Option Json × Option Json × Option Json :=
  (event.member "id", event.member "replyToEventId", event.member "threadRootEventId")

def replyLinks (rows : List (Change × Json)) : List (Option Json × Option Json × Option Json) :=
  rows.map fun r => replyLink r.2

def correlationIsRecord (event : Json) : Prop :=
  Json.nullish (event.member "correlation") = true ∨
    ∃ correlation, event.member "correlation" = some correlation ∧ correlation.isRecord = true

/-- All members are kept but the two reply fields and, in the correlation, the mirrored parent. -/
structure KeepsMembers (event event' : Json) : Prop where
  members : ∀ k, k ≠ "replyToEventId" → k ≠ "threadRootEventId" → k ≠ "correlation" →
    event'.member k = event.member k
  correlation : event'.member "correlation" = event.member "correlation" ∨
    correlationIsRecord event ∧ correlationIsRecord event' ∧ ∀ k, k ≠ "replyToEventId" →
      ((event'.member "correlation").bind fun c => c.member k) =
        (event.member "correlation").bind fun c => c.member k

/-- A row that is no message is the same row; a message row keeps its columns. -/
inductive KeepsOtherFields : Change → Change → Prop
  | other {c : Change} (hother : c.sent? = none) : KeepsOtherFields c c
  | message {c : Change} {event event' : Json} (hevent : c.sent? = some event)
      (hkeeps : KeepsMembers event event') :
      KeepsOtherFields c { c with payload := .messageSent event' }

/-- The migration of an old store throws and leaves it alone, or it stores the reply fields that
the live path stores, keeps everything else, and finds nothing to do a second time. -/
def PreservesMeaning (changes : Journal) : Prop :=
  ∀ version < replyMetadataVersion,
    (∃ e, migrate ⟨version, changes⟩ = (.error e, ⟨version, changes⟩)) ∨
    ∃ changes' db, migrate ⟨version, changes⟩ = (.ok (), ⟨supportedSchemaVersion, changes'⟩) ∧
      replayMessages .empty changes.sent = .ok db ∧
      replyLinks changes'.sent = replyLinks db.changes.sent ∧
      List.Forall₂ KeepsOtherFields changes.rows changes'.rows ∧
      backfillReplyMetadata changes' = (.ok (), changes')

/-- Each message names a valid parent if any, and its parent is an earlier one of its channel. -/
def Linkable (earlier : List StoredMessage) : List StoredMessage → Prop
  | [] => True
  | m :: ms =>
    (∃ reply, backfilledReply m = .ok reply ∧
      ∀ id, reply = some id → ∃ p ∈ earlier, p.id = id ∧ p.channelId = m.channelId) ∧
    Linkable (earlier ++ [m]) ms

/-- The journals the backfill accepts. -/
def WellLinked (changes : Journal) : Prop :=
  ∃ messages, readMessages changes.sent = .ok messages ∧
    (messages.map StoredMessage.id).Nodup ∧ Linkable [] messages

/-- The two places agree on the parent if both name one. -/
def Agree (event : Json) : Prop :=
  ∀ id id', event.member "replyToEventId" = some (.str id) →
    ((event.member "correlation").bind fun c => c.member "replyToEventId") = some (.str id') →
    id = id'

/-- A message that names one parent, and a canonical reply with room for its mirror. -/
structure Harmonious (event : Json) : Prop where
  agree : Agree event
  room : ∀ id, event.member "replyToEventId" = some (.str id) → correlationIsRecord event

/-- What a row promises once it was read as a message. -/
structure Reads (r : Change × Json) (m : StoredMessage) : Prop where
  cursor : m.cursor = r.1.cursor
  channelId : m.channelId = r.1.channelId
  event : m.event = r.2
  isRecord : r.2.isRecord = true
  id : r.2.member "id" = some (.str m.id)
  named : Text.blank m.id = false

variable {m : StoredMessage}

theorem readMessage_ok {row : Change} {payload : Json} :
    readMessage row payload = .ok m ↔ Reads (row, payload) m := by
  unfold readMessage
  constructor
  · intro h
    split_ifs at h with hrecord
    have hrecord' : payload.isRecord = true := by simpa using hrecord
    split at h
    · rename_i id hid
      split_ifs at h with hblank
      cases h
      exact ⟨rfl, rfl, rfl, hrecord', hid, by simpa using hblank⟩
    · cases h
  · rintro ⟨hcursor, hchannel, hevent, hrecord, hid, hnamed⟩
    cases m
    cases hcursor
    cases hchannel
    cases hevent
    dsimp only at hrecord hid hnamed ⊢
    simp [hrecord, hid, hnamed]

variable {ms : List StoredMessage}

theorem readMessages_ok {rows : List (Change × Json)} :
    readMessages rows = .ok ms ↔ List.Forall₂ Reads rows ms := by
  induction rows generalizing ms with
  | nil =>
    rw [List.forall₂_nil_left_iff]
    exact ⟨fun h => by cases h; rfl, fun h => by rw [h]; rfl⟩
  | cons r rows ih =>
    constructor
    · intro h
      obtain ⟨m, hm, h⟩ := ok_of_bind h
      obtain ⟨ms', hms, h⟩ := ok_of_bind h
      cases h
      exact .cons (readMessage_ok.mp hm) (ih.mp hms)
    · intro h
      cases h with
      | @cons _ m _ ms' hm hms =>
        change (readMessage r.1 r.2 >>= fun m => readMessages rows >>= fun ms => pure (m :: ms)) = _
        rw [readMessage_ok.mpr hm, ih.mpr hms]
        rfl

theorem messageById?_append (ms ms' : List StoredMessage) (id : String) :
    messageById? (ms ++ ms') id = (messageById? ms id).or (messageById? ms' id) :=
  List.find?_append

theorem messageById?_none {id : String} :
    messageById? ms id = none ↔ id ∉ ms.map StoredMessage.id := by
  simp [messageById?, List.find?_eq_none]

theorem messageById?_some {id : String} {p : StoredMessage}
    (h : messageById? ms id = some p) : p ∈ ms ∧ p.id = id :=
  ⟨List.mem_of_find?_eq_some h, by simpa using List.find?_some h⟩

theorem messageById?_of_mem (hms : (ms.map StoredMessage.id).Nodup)
    {p : StoredMessage} (hp : p ∈ ms) : messageById? ms p.id = some p := by
  cases h : messageById? ms p.id with
  | none => exact absurd (List.mem_map_of_mem hp) (messageById?_none.mp h)
  | some p' =>
    obtain ⟨hp', hid⟩ := messageById?_some h
    rw [List.inj_on_of_nodup_map hms hp' hp hid]

theorem indexById_ok {byId ms r : List StoredMessage} (hbyId : (byId.map StoredMessage.id).Nodup) :
    indexById byId ms = .ok r ↔ r = byId ++ ms ∧ ((byId ++ ms).map StoredMessage.id).Nodup := by
  induction ms generalizing byId with
  | nil =>
    rw [List.append_nil]
    exact ⟨fun h => by cases h; exact ⟨rfl, hbyId⟩, fun h => by rw [h.1]; rfl⟩
  | cons m ms ih =>
    rw [indexById]
    by_cases hm : (messageById? byId m.id).isSome
    · rw [if_pos hm]
      refine ⟨fun h => (by cases h), fun h => ?_⟩
      obtain ⟨p, hp⟩ := Option.isSome_iff_exists.mp hm
      obtain ⟨hmem, hid⟩ := messageById?_some hp
      have hnodup := h.2
      rw [List.map_append, List.nodup_append] at hnodup
      exact absurd hid (hnodup.2.2 _ (List.mem_map_of_mem hmem) _ List.mem_cons_self)
    · rw [if_neg hm]
      rw [Option.not_isSome_iff_eq_none, messageById?_none] at hm
      have hnext : ((byId ++ [m]).map StoredMessage.id).Nodup := by
        rw [List.map_append, List.map_singleton, List.nodup_append]
        refine ⟨hbyId, List.nodup_singleton _, fun a ha b hb hab => ?_⟩
        rw [List.mem_singleton] at hb
        exact hm (hb ▸ hab ▸ ha)
      rw [ih hnext, List.append_assoc, List.singleton_append]

theorem indexById_nil {ms r : List StoredMessage} :
    indexById [] ms = .ok r ↔ r = ms ∧ (ms.map StoredMessage.id).Nodup :=
  indexById_ok (by simp)

/-- The fields settled for each message, when no message is refused. -/
inductive Backfilled (byId : List StoredMessage) :
    ResolvedRoots → List StoredMessage → List (Option String × Option String) → Prop
  | nil {resolved : ResolvedRoots} : Backfilled byId resolved [] []
  | cons {resolved : ResolvedRoots} {m : StoredMessage} {ms : List StoredMessage}
      {reply root : Option String} {fields : List (Option String × Option String)}
      (hreply : backfilledReply m = .ok reply) (hroot : backfilledRoot byId resolved m reply = .ok root)
      (hrest : Backfilled byId ((m.id, root) :: resolved) ms fields) :
      Backfilled byId resolved (m :: ms) ((reply, root) :: fields)

def writeBack : Journal → List StoredMessage → List (Option String × Option String) → Journal
  | j, m :: ms, f :: fields =>
    writeBack (j.setPayload m.cursor (migratedEvent m.event f.1 f.2)) ms fields
  | j, _, _ => j

theorem backfillMessages_spec (byId : List StoredMessage) (resolved : ResolvedRoots)
    (ms : List StoredMessage) (j : Journal) :
    wp (backfillMessages byId resolved ms)
      (fun _ j' => ∃ fields, Backfilled byId resolved ms fields ∧ j' = writeBack j ms fields)
      (fun _ _ => ¬ ∃ fields, Backfilled byId resolved ms fields) j := by
  induction ms generalizing resolved j with
  | nil => exact ⟨[], .nil, rfl⟩
  | cons m ms ih =>
    rw [backfillMessages, wp_bind, wp_ofExcept]
    constructor
    · intro reply hreply
      rw [wp_bind, wp_ofExcept]
      constructor
      · intro root hroot
        rw [wp_bind, wp_modify]
        refine wp_mono (ih _ _) ?_ ?_
        · rintro _ j' ⟨fields, hfields, hj'⟩
          exact ⟨_, .cons hreply hroot hfields, hj'⟩
        · rintro _ _ hnone ⟨_, _ | ⟨hreply', hroot', hrest⟩⟩
          cases hreply.symm.trans hreply'
          cases hroot.symm.trans hroot'
          exact hnone ⟨_, hrest⟩
      · rintro e he ⟨_, _ | ⟨hreply', hroot', _⟩⟩
        cases hreply.symm.trans hreply'
        cases he.symm.trans hroot'
    · rintro e he ⟨_, _ | ⟨hreply', _, _⟩⟩
      cases he.symm.trans hreply'

/-- The rows with the settled fields written to the messages in turn. -/
def rewriteRows : List Change → List (Option String × Option String) → List Change
  | [], _ => []
  | c :: rows, [] => c :: rows
  | c :: rows, f :: fields =>
    match c.sent? with
    | none => c :: rewriteRows rows (f :: fields)
    | some event =>
      { c with payload := .messageSent (migratedEvent event f.1 f.2) } :: rewriteRows rows fields

/-- The message events after the loop. -/
def rewriteEvents : List (Change × Json) → List (Option String × Option String) →
    List (Change × Json)
  | (row, event) :: rows, f :: fields =>
    ({ row with payload := .messageSent (migratedEvent event f.1 f.2) },
      migratedEvent event f.1 f.2) :: rewriteEvents rows fields
  | rows, _ => rows

theorem sentOf_rewriteRows (rows : List Change) (fields : List (Option String × Option String)) :
    sentOf (rewriteRows rows fields) = rewriteEvents (sentOf rows) fields := by
  induction rows generalizing fields with
  | nil => cases fields <;> rfl
  | cons c rows ih =>
    cases fields with
    | nil =>
      rw [rewriteRows]
      cases sentOf (c :: rows) <;> rfl
    | cons f fields =>
      cases h : c.sent? with
      | none => simp only [rewriteRows, h, sentOf_cons_none h, ih]
      | some event =>
        simp only [rewriteRows, h]
        rw [sentOf_cons_some h, sentOf_cons_some (by rfl), ih]
        rfl

theorem setPayload_rows {j : Journal} {done rest : List Change} {c : Change}
    (h : j.rows = done ++ c :: rest) (event : Json) :
    (j.setPayload c.cursor event).rows =
      done ++ { c with payload := .messageSent event } :: rest := by
  have hordered := j.ordered
  rw [h, List.pairwise_append, List.pairwise_cons] at hordered
  obtain ⟨_, ⟨hafter, _⟩, hbefore⟩ := hordered
  have hkeep (rows : List Change) (hrows : ∀ d ∈ rows, d.cursor ≠ c.cursor) :
      (rows.map fun d => if d.cursor = c.cursor then { d with payload := .messageSent event } else d) =
        rows := by
    conv_rhs => rw [← List.map_id rows]
    exact List.map_congr_left fun d hd => if_neg (hrows d hd)
  simp only [Journal.setPayload]
  rw [h, List.map_append, List.map_cons, if_pos rfl, hkeep done, hkeep rest]
  · exact fun d hd => (hafter d hd).ne'
  · exact fun d hd => (hbefore d hd c List.mem_cons_self).ne

variable {fields : List (Option String × Option String)}

theorem writeBack_rows {rest : List Change}
    (hreads : List.Forall₂ Reads (sentOf rest) ms)
    (hlength : ms.length = fields.length) {j : Journal} {done : List Change}
    (hj : j.rows = done ++ rest) :
    (writeBack j ms fields).rows = done ++ rewriteRows rest fields := by
  induction rest generalizing ms fields j done with
  | nil =>
    cases hreads
    simpa [writeBack, rewriteRows] using hj
  | cons c rest ih =>
    cases h : c.sent? with
    | none =>
      rw [sentOf_cons_none h] at hreads
      have hnext := ih hreads hlength (hj.trans (List.append_cons done c rest))
      cases fields with
      | nil =>
        cases ms with
        | nil => exact hj
        | cons => cases hlength
      | cons f fields => simpa [rewriteRows, h] using hnext
    | some event =>
      rw [sentOf_cons_some h] at hreads
      cases hreads with
      | @cons _ m _ ms hm hms =>
        cases fields with
        | nil => cases hlength
        | cons f fields =>
          have hset := setPayload_rows hj (migratedEvent event f.1 f.2)
          simp only [writeBack, rewriteRows, h, hm.event, hm.cursor]
          have hnext := ih hms (Nat.succ.inj hlength) (hset.trans (List.append_cons done _ rest))
          simpa using hnext

theorem Backfilled.length {byId ms : List StoredMessage} {resolved : ResolvedRoots}
    (h : Backfilled byId resolved ms fields) :
    ms.length = fields.length := by
  induction h with
  | nil => rfl
  | cons _ _ _ ih => exact congrArg Nat.succ ih

/-- The whole step: it settles every message and writes the fields back, or some message has no
settled fields. -/
theorem backfillReplyMetadata_spec (j : Journal) :
    wp backfillReplyMetadata
      (fun _ j' => ∃ ms fields, List.Forall₂ Reads j.sent ms ∧ (ms.map StoredMessage.id).Nodup ∧
        Backfilled ms [] ms fields ∧ j'.rows = rewriteRows j.rows fields)
      (fun _ _ => ¬ ∃ ms fields, List.Forall₂ Reads j.sent ms ∧
        (ms.map StoredMessage.id).Nodup ∧ Backfilled ms [] ms fields) j := by
  rw [backfillReplyMetadata, wp_bind, wp_read, wp_bind, wp_ofExcept]
  constructor
  · intro ms hms
    have hreads := readMessages_ok.mp hms
    have hsame {ms' : List StoredMessage} (hreads' : List.Forall₂ Reads j.sent ms') : ms' = ms := by
      have heq := (readMessages_ok.mpr hreads').symm.trans hms
      exact Except.ok.inj heq
    rw [wp_bind, wp_ofExcept]
    constructor
    · intro byId hbyId
      obtain ⟨hsame', hnodup⟩ := indexById_nil.mp hbyId
      subst hsame'
      refine wp_mono (backfillMessages_spec byId [] byId j) ?_ ?_
      · rintro _ j' ⟨fields, hfields, rfl⟩
        exact ⟨byId, fields, hreads, hnodup, hfields,
          writeBack_rows hreads hfields.length (List.nil_append j.rows).symm⟩
      · rintro _ _ hnone ⟨ms', fields, hreads', _, hfields⟩
        cases hsame hreads'
        exact hnone ⟨fields, hfields⟩
    · rintro e he ⟨ms', fields, hreads', hnodup, _⟩
      cases hsame hreads'
      cases he.symm.trans (indexById_nil.mpr ⟨rfl, hnodup⟩)
  · rintro e he ⟨ms, _, hreads, _⟩
    cases he.symm.trans (readMessages_ok.mpr hreads)

/-- An id that both paths accept as a parent's. -/
def Nameable (id : String) : Prop := ¬ (Text.blank id ∨ 512 < id.utf8ByteSize)

inductive Names : Option Json → Option String → Prop
  | nobody {value : Option Json} (hnullish : Json.nullish value = true) : Names value none
  | parent {id : String} (hid : Nameable id) : Names (some (.str id)) (some id)

theorem optionalReplyEventId_ok {value : Option Json} {context : String} {reply : Option String} :
    optionalReplyEventId value context = .ok reply ↔ Names value reply := by
  unfold optionalReplyEventId
  constructor
  · intro h
    split at h
    · cases h
      exact .nobody rfl
    · cases h
      exact .nobody rfl
    · rename_i s
      split_ifs at h with hbad
      cases h
      exact .parent hbad
    · cases h
  · intro h
    cases h with
    | nobody hnullish =>
      cases value with
      | none => rfl
      | some v =>
        cases v with
        | null => rfl
        | _ => cases hnullish
    | parent hid => exact if_neg hid

theorem replyEventId_ok {value : Option Json} {field : String} {reply : Option String} :
    replyEventId value field = .ok reply ↔ Names value reply := by
  unfold replyEventId
  constructor
  · intro h
    split at h
    · cases h
      exact .nobody rfl
    · cases h
      exact .nobody rfl
    · rename_i s
      split_ifs at h with hbad
      cases h
      exact .parent hbad
    · cases h
  · intro h
    cases h with
    | nobody hnullish =>
      cases value with
      | none => rfl
      | some v =>
        cases v with
        | null => rfl
        | _ => cases hnullish
    | parent hid => exact if_neg hid

theorem Names.ofOption {reply : Option String} (h : ∀ id, reply = some id → Nameable id) :
    Names (some (Json.ofOption reply)) reply := by
  cases reply with
  | none => exact .nobody rfl
  | some id => exact .parent (h id rfl)

theorem Names.nameable {value : Option Json} {reply : Option String} (h : Names value reply) :
    ∀ id, reply = some id → Nameable id := by
  rintro id rfl
  cases h with
  | parent hid => exact hid

theorem Names.value {value : Option Json} {id : String} (h : Names value (some id)) :
    value = some (.str id) := by
  cases h
  rfl

theorem Names.nullish {value : Option Json} (h : Names value none) : Json.nullish value = true := by
  cases h with
  | nobody hnullish => exact hnullish

theorem backfilledReply_ok {reply : Option String} :
    backfilledReply m = .ok reply ↔ ∃ canonical legacy,
      Names (m.event.member "replyToEventId") canonical ∧
      Names ((m.event.member "correlation").bind fun c => c.member "replyToEventId") legacy ∧
      reply = canonical.or legacy := by
  constructor
  · intro h
    obtain ⟨legacy, hlegacy, h⟩ := ok_of_bind h
    by_cases hnullish : Json.nullish (m.event.member "replyToEventId") = true
    · rw [if_pos hnullish] at h
      cases h
      exact ⟨none, reply, .nobody hnullish, optionalReplyEventId_ok.mp hlegacy, rfl⟩
    · rw [if_neg hnullish] at h
      have hnames := optionalReplyEventId_ok.mp h
      refine ⟨reply, legacy, hnames, optionalReplyEventId_ok.mp hlegacy, ?_⟩
      cases reply with
      | some id => rfl
      | none => exact absurd hnames.nullish hnullish
  · rintro ⟨canonical, legacy, hcanonical, hlegacy, rfl⟩
    unfold backfilledReply
    rw [optionalReplyEventId_ok.mpr hlegacy]
    change (if Json.nullish (m.event.member "replyToEventId") = true then _ else _) = _
    by_cases hnullish : Json.nullish (m.event.member "replyToEventId") = true
    · rw [if_pos hnullish]
      cases canonical with
      | none => rfl
      | some id =>
        rw [hcanonical.value] at hnullish
        cases hnullish
    · rw [if_neg hnullish, optionalReplyEventId_ok.mpr hcanonical]
      cases canonical with
      | some id => rfl
      | none => exact absurd hcanonical.nullish hnullish

theorem backfilledReply_nameable {reply : Option String}
    (h : backfilledReply m = .ok reply) : ∀ id, reply = some id → Nameable id := by
  obtain ⟨canonical, legacy, hcanonical, hlegacy, rfl⟩ := backfilledReply_ok.mp h
  cases canonical with
  | none => exact hlegacy.nameable
  | some => exact hcanonical.nameable

theorem requestedReply_ok {value correlation : Option Json} {reply : Option String} :
    requestedReply value correlation = .ok reply ↔ ∃ canonical legacy, Names value canonical ∧
      Names (correlation.bind fun c => c.member "replyToEventId") legacy ∧
      ¬ (canonical ≠ none ∧ legacy ≠ none ∧ canonical ≠ legacy) ∧ reply = canonical.or legacy := by
  constructor
  · intro h
    obtain ⟨canonical, hcanonical, h⟩ := ok_of_bind h
    obtain ⟨legacy, hlegacy, h⟩ := ok_of_bind h
    split_ifs at h with hconflict
    cases h
    exact ⟨canonical, legacy, replyEventId_ok.mp hcanonical, replyEventId_ok.mp hlegacy,
      hconflict, rfl⟩
  · rintro ⟨canonical, legacy, hcanonical, hlegacy, hconflict, rfl⟩
    unfold requestedReply
    rw [replyEventId_ok.mpr hcanonical, replyEventId_ok.mpr hlegacy]
    exact if_neg hconflict

theorem requestedReply_of_backfilled {reply : Option String}
    (h : backfilledReply m = .ok reply) (hagree : Agree m.event) :
    requestedReply (m.event.member "replyToEventId") (m.event.member "correlation") = .ok reply := by
  obtain ⟨canonical, legacy, hcanonical, hlegacy, rfl⟩ := backfilledReply_ok.mp h
  refine requestedReply_ok.mpr ⟨canonical, legacy, hcanonical, hlegacy, ?_, rfl⟩
  rintro ⟨hsome, hsome', hne⟩
  obtain ⟨id, rfl⟩ := Option.ne_none_iff_exists'.mp hsome
  obtain ⟨id', rfl⟩ := Option.ne_none_iff_exists'.mp hsome'
  exact hne (congrArg some (hagree id id' hcanonical.value hlegacy.value))

theorem agree_of_requestedReply {event : Json} {reply : Option String}
    (h : requestedReply (event.member "replyToEventId") (event.member "correlation") = .ok reply) :
    Agree event := by
  obtain ⟨canonical, legacy, hcanonical, hlegacy, hconflict, rfl⟩ := requestedReply_ok.mp h
  intro id id' hid hid'
  rw [hid] at hcanonical
  rw [hid'] at hlegacy
  cases hcanonical with
  | nobody hnull => cases hnull
  | parent =>
    cases hlegacy with
    | nobody hnull => cases hnull
    | parent =>
      by_contra hne
      exact hconflict ⟨Option.some_ne_none _, Option.some_ne_none _, fun h => hne (Option.some.inj h)⟩

section Migrated

variable {event : Json} {reply root : Option String}

@[simp] theorem migratedEvent_replyToEventId :
    (migratedEvent event reply root).member "replyToEventId" = some (Json.ofOption reply) := by
  unfold migratedEvent
  cases reply with
  | none => rw [Json.member_set_ne (by decide), Json.member_set_self]
  | some id =>
    dsimp only
    rw [Json.member_set_ne (by decide), Json.member_set_ne (by decide), Json.member_set_self]

@[simp] theorem migratedEvent_threadRootEventId :
    (migratedEvent event reply root).member "threadRootEventId" = some (Json.ofOption root) := by
  unfold migratedEvent
  cases reply with
  | none => rw [Json.member_set_self]
  | some id =>
    dsimp only
    rw [Json.member_set_ne (by decide), Json.member_set_self]

theorem migratedEvent_member {k : String} (hreply : k ≠ "replyToEventId")
    (hroot : k ≠ "threadRootEventId") (hcorrelation : k ≠ "correlation") :
    (migratedEvent event reply root).member k = event.member k := by
  unfold migratedEvent
  cases reply with
  | none => rw [Json.member_set_ne hroot, Json.member_set_ne hreply]
  | some id =>
    dsimp only
    rw [Json.member_set_ne hcorrelation, Json.member_set_ne hroot, Json.member_set_ne hreply]

@[simp] theorem migratedEvent_correlation_none :
    (migratedEvent event none root).member "correlation" = event.member "correlation" := by
  unfold migratedEvent
  dsimp only
  rw [Json.member_set_ne (by decide), Json.member_set_ne (by decide)]

@[simp] theorem migratedEvent_correlation_some (id : String) :
    (migratedEvent event (some id) root).member "correlation" =
      some (((event.member "correlation").getD (.obj [])).set "replyToEventId" (.str id)) := by
  unfold migratedEvent
  exact Json.member_set_self _ _ _

@[simp] theorem migratedEvent_isRecord : (migratedEvent event reply root).isRecord = true := by
  unfold migratedEvent
  cases reply <;> rfl

@[simp] theorem migratedEvent_id :
    (migratedEvent event reply root).member "id" = event.member "id" :=
  migratedEvent_member (by decide) (by decide) (by decide)

theorem migratedEvent_migratedEvent :
    migratedEvent (migratedEvent event reply root) reply root = migratedEvent event reply root := by
  have hfields : ((migratedEvent event reply root).set "replyToEventId" (Json.ofOption reply)).set
      "threadRootEventId" (Json.ofOption root) = migratedEvent event reply root := by
    rw [Json.set_of_member migratedEvent_replyToEventId,
      Json.set_of_member migratedEvent_threadRootEventId]
  cases reply with
  | none => exact hfields
  | some id =>
    rw [migratedEvent]
    rw [hfields]
    apply Json.set_of_member
    rw [migratedEvent_correlation_some, Option.getD_some, Json.set_of_member (Json.member_set_self _ _ _)]

theorem keepsMembers_migratedEvent (h : ∀ id, reply = some id → correlationIsRecord event) :
    KeepsMembers event (migratedEvent event reply root) where
  members _ hreply hroot hcorrelation := migratedEvent_member hreply hroot hcorrelation
  correlation := by
    cases reply with
    | none => exact .inl migratedEvent_correlation_none
    | some id =>
      refine .inr ⟨h id rfl, .inr ⟨_, migratedEvent_correlation_some id, rfl⟩, fun k hk => ?_⟩
      rw [migratedEvent_correlation_some, Option.bind_some, Json.member_set_ne hk]
      cases event.member "correlation" <;> rfl

theorem correlationIsRecord_of_keepsMembers {id : String}
    (h : KeepsMembers event (migratedEvent event (some id) root)) : correlationIsRecord event := by
  rcases h.correlation with hsame | ⟨hrecord, _⟩
  · rw [migratedEvent_correlation_some] at hsame
    exact .inr ⟨_, hsame.symm, rfl⟩
  · exact hrecord

end Migrated

theorem correlationIsRecord_of_settled {reply : Option String}
    (h : backfilledReply m = .ok reply)
    (hroom : ∀ id, m.event.member "replyToEventId" = some (.str id) → correlationIsRecord m.event) :
    ∀ id, reply = some id → correlationIsRecord m.event := by
  rintro id rfl
  obtain ⟨canonical, legacy, hcanonical, hlegacy, heq⟩ := backfilledReply_ok.mp h
  cases canonical with
  | some id' => exact hroom id' hcanonical.value
  | none =>
    cases heq
    have hvalue := hlegacy.value
    cases hcorrelation : m.event.member "correlation" with
    | none =>
      rw [hcorrelation] at hvalue
      cases hvalue
    | some c =>
      rw [hcorrelation] at hvalue
      cases c with
      | obj => exact .inr ⟨_, hcorrelation, rfl⟩
      | _ => cases hvalue

theorem backfilledReply_migrated {m m' : StoredMessage} {reply root : Option String}
    (h : backfilledReply m = .ok reply) (hm' : m'.event = migratedEvent m.event reply root) :
    backfilledReply m' = .ok reply := by
  obtain ⟨canonical, legacy, hcanonical, hlegacy, heq⟩ := backfilledReply_ok.mp h
  refine backfilledReply_ok.mpr ⟨reply, if reply = none then legacy else reply, ?_, ?_, ?_⟩
  · rw [hm', migratedEvent_replyToEventId]
    exact Names.ofOption (backfilledReply_nameable h)
  · cases reply with
    | none => rwa [hm', migratedEvent_correlation_none]
    | some id =>
      rw [hm', migratedEvent_correlation_some, Option.bind_some, Json.member_set_self]
      exact .parent (backfilledReply_nameable h id rfl)
  · cases canonical with
    | some => simp [heq]
    | none =>
      cases legacy <;> simp [heq]

/-- What the loop knows of each message. -/
theorem Backfilled.settled {byId ms : List StoredMessage} {resolved : ResolvedRoots}
    (h : Backfilled byId resolved ms fields) :
    List.Forall₂ (fun m f => backfilledReply m = .ok f.1) ms fields := by
  induction h with
  | nil => exact .nil
  | cons hreply _ _ ih => exact .cons hreply ih

theorem KeepsOtherFields.keepsMembers {c c' : Change} {event event' : Json}
    (h : KeepsOtherFields c c') (hevent : c.sent? = some event) (hevent' : c'.sent? = some event') :
    KeepsMembers event event' := by
  cases h with
  | other hother =>
    rw [hevent] at hother
    cases hother
  | message hsent hkeeps =>
    cases hevent.symm.trans hsent
    cases hevent'
    exact hkeeps

theorem keepsOtherFields_rewriteRows {rows : List Change}
    :
    List.Forall₂ (fun r f => KeepsMembers r.2 (migratedEvent r.2 f.1 f.2)) (sentOf rows) fields →
    List.Forall₂ KeepsOtherFields rows (rewriteRows rows fields) := by
  intro h
  induction rows generalizing fields with
  | nil => exact .nil
  | cons c rows ih =>
    cases hsent : c.sent? with
    | none =>
      rw [sentOf_cons_none hsent] at h
      cases fields with
      | nil =>
        have hrest : rewriteRows rows [] = rows := by cases rows <;> rfl
        have hrows := ih h
        rw [hrest] at hrows
        exact .cons (.other hsent) hrows
      | cons f fields =>
        simp only [rewriteRows, hsent]
        exact .cons (.other hsent) (ih h)
    | some event =>
      rw [sentOf_cons_some hsent] at h
      cases h with
      | cons hkeeps hrest =>
        simp only [rewriteRows, hsent]
        exact .cons (.message hsent hkeeps) (ih hrest)

theorem keepsMembers_of_keepsOtherFields {rows : List Change}
    (hlength : (sentOf rows).length = fields.length)
    (h : List.Forall₂ KeepsOtherFields rows (rewriteRows rows fields)) :
    List.Forall₂ (fun r f => KeepsMembers r.2 (migratedEvent r.2 f.1 f.2)) (sentOf rows) fields := by
  induction rows generalizing fields with
  | nil =>
    cases fields with
    | nil => exact .nil
    | cons => cases hlength
  | cons c rows ih =>
    cases hsent : c.sent? with
    | none =>
      rw [sentOf_cons_none hsent] at hlength ⊢
      cases fields with
      | nil =>
        rw [List.eq_nil_of_length_eq_zero hlength]
        exact .nil
      | cons f fields =>
        simp only [rewriteRows, hsent, List.forall₂_cons] at h
        exact ih hlength h.2
    | some event =>
      rw [sentOf_cons_some hsent] at hlength ⊢
      cases fields with
      | nil => cases hlength
      | cons f fields =>
        simp only [rewriteRows, hsent, List.forall₂_cons] at h
        exact .cons (h.1.keepsMembers hsent (by rfl)) (ih (Nat.succ.inj hlength) h.2)

@[simp] theorem withReply_id (event : Json) (reply : ReplyMetadata) :
    (withReply event reply).member "id" = event.member "id" := by
  unfold withReply
  cases reply.correlation with
  | none => rw [Json.member_set_ne (by decide), Json.member_set_ne (by decide)]
  | some c =>
    dsimp only
    rw [Json.member_set_ne (by decide), Json.member_set_ne (by decide),
      Json.member_set_ne (by decide)]

@[simp] theorem withReply_replyToEventId (event : Json) (reply : ReplyMetadata) :
    (withReply event reply).member "replyToEventId" =
      some (Json.ofOption reply.replyToEventId) := by
  unfold withReply
  cases reply.correlation with
  | none => rw [Json.member_set_ne (by decide), Json.member_set_self]
  | some c =>
    dsimp only
    rw [Json.member_set_ne (by decide), Json.member_set_ne (by decide), Json.member_set_self]

@[simp] theorem withReply_threadRootEventId (event : Json) (reply : ReplyMetadata) :
    (withReply event reply).member "threadRootEventId" =
      some (Json.ofOption reply.threadRootEventId) := by
  unfold withReply
  cases reply.correlation with
  | none => rw [Json.member_set_self]
  | some c =>
    dsimp only
    rw [Json.member_set_ne (by decide), Json.member_set_self]

end Wardroom.Conversations
