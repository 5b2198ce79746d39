import Mathlib.Data.List.Forall2
import Mathlib.Data.List.Induction
import Wardroom.Library.Trace
import Wardroom.Storage.Operations
import Wardroom.Storage.Readers

/-! # The readers of delivery state

A message is committed with a delivery state, and later delivery changes report
new ones. Two readers fold the changes, one looks for a change, and two read the
stored event. They agree exactly when the journal makes the difference moot.
-/

namespace Wardroom.Feeds
open Wardroom.Library Wardroom.Domain Wardroom.Storage Prog

/-- The statuses and the delivered recipients that an event reports. -/
def deliveryState (event : Json) : Option Json × Option Json :=
  (event.member "recipientStatuses", event.member "deliveredRecipientSessionIds")

def reportedState (delivery : RecipientStatuses × List String) : Option Json × Option Json :=
  (some (statusesToJson delivery.1), some (.arr (delivery.2.map .str)))

/-- The delivery changes of a message, oldest first. -/
def deliveriesOf (rows : List Change) (id : String) : List (RecipientStatuses × List String) :=
  rows.filterMap fun c =>
    match c.payload with
    | .messageDelivery messageId statuses delivered _ =>
      if messageId = id then some (statuses, delivered) else none
    | _ => none

/-- The state of the latest delivery change, or of the commit when there is none. -/
def latestState (rows : List Change) (id : String) (event : Json) : Option Json × Option Json :=
  match (deliveriesOf rows id).getLast? with
  | none => deliveryState event
  | some delivery => reportedState delivery

/-- What the five readers report of one message. -/
structure Reported (db : Database) (row : Change) (event : Json) (id : String)
    (state : Option Json × Option Json) : Prop where
  snapshot : ∀ channelId snap, row.channelId = some channelId →
    db.snapshot channelId = .ok snap →
    (∃ e ∈ snap.events, e.member "id" = some (.str id)) ∧
      ∀ e ∈ snap.events, e.member "id" = some (.str id) → deliveryState e = state
  messageByDeduplicationKey : ∀ key channelId,
    db.deduplicationRowIn channelId (.str key) = some (row, event) →
    ∃ e, db.messageByDeduplicationKey key channelId = some (e, row.cursor) ∧
      e.member "id" = some (.str id) ∧ deliveryState e = state
  listMessages : ∀ sessionId afterCursor channelId messages,
    db.listMessages sessionId afterCursor channelId = .ok messages →
    ∀ m ∈ messages, m.cursor = row.cursor → deliveryState m.message = state
  getRecipients : some (db.getRecipients id) = state.2
  getEvent : ∀ channelId, (Text.given channelId = true → row.channelId = channelId) →
    ∃ e, db.getEvent id channelId = .ok e ∧ deliveryState e = state

/-- Every reader reports the latest state of every message. -/
def ReadersAgree (db : Database) : Prop :=
  ∀ r ∈ db.changes.sent, ∀ id, r.2.member "id" = some (.str id) →
    Reported db r.1 r.2 id (latestState db.changes.rows id r.2)

/-- The last delivery change of a message repeats what its commit stored, and so does the first one
if the message is direct. -/
def RepeatsCommit (db : Database) : Prop :=
  ∀ r ∈ db.changes.sent, ∀ id, r.2.member "id" = some (.str id) →
    (∀ last, (deliveriesOf db.changes.rows id).getLast? = some last →
      reportedState last = deliveryState r.2) ∧
    ((∃ sessionId, Database.directTo sessionId r.2 = true) →
      ∀ first, (deliveriesOf db.changes.rows id).head? = some first →
        reportedState first = deliveryState r.2)

/-- The operations that write messages and their delivery changes. -/
inductive DeliveryOp where
  | commitMessage (input : CanonicalMessageCommitInput)
  | appendMessageDelivery (messageId : String) (statuses : RecipientStatuses)

def deliveryStep (w : World) : DeliveryOp → World
  | .commitMessage input => (commitMessage input w).2
  | .appendMessageDelivery messageId statuses => (appendMessageDelivery messageId statuses w).2

/-- Each message has an id of its own, and each delivery change follows its message in the same
channel. -/
inductive DeliveryLog : List Change → Prop
  | nil : DeliveryLog []
  | message {rows : List Change} (c : Change) (event delivered : Json) (id : String)
      (hsent : c.sent? = some event) (hid : event.member "id" = some (.str id))
      (hnamed : Text.blank id = false)
      (hdelivered : event.member "deliveredRecipientSessionIds" = some delivered)
      (hnullish : Json.nullish (some delivered) = false)
      (hfresh : ∀ r ∈ sentOf rows, r.2.member "id" ≠ some (.str id)) (h : DeliveryLog rows) :
      DeliveryLog (rows ++ [c])
  | delivery {rows : List Change} (c : Change) (r : Change × Json) (id : String)
      (statuses : RecipientStatuses) (delivered : List String) (occurredAt : String)
      (hpayload : c.payload = .messageDelivery id statuses delivered occurredAt)
      (hr : r ∈ sentOf rows) (hid : r.2.member "id" = some (.str id))
      (hchannel : c.channelId = r.1.channelId) (h : DeliveryLog rows) : DeliveryLog (rows ++ [c])
  | other {rows : List Change} (c : Change) (hother : Change.isMessage c = false)
      (h : DeliveryLog rows) : DeliveryLog (rows ++ [c])

section Log

variable {rows : List Change} {c : Change} {id : String}

theorem sentOf_append (rows rows' : List Change) :
    sentOf (rows ++ rows') = sentOf rows ++ sentOf rows' := List.filterMap_append

theorem sentOf_append_none (h : c.sent? = none) : sentOf (rows ++ [c]) = sentOf rows := by
  rw [sentOf_append, sentOf_cons_none h]
  exact List.append_nil _

theorem sentOf_append_some {event : Json} (h : c.sent? = some event) :
    sentOf (rows ++ [c]) = sentOf rows ++ [(c, event)] := by
  rw [sentOf_append, sentOf_cons_some h]
  rfl

theorem deliveriesOf_append (rows rows' : List Change) (id : String) :
    deliveriesOf (rows ++ rows') id = deliveriesOf rows id ++ deliveriesOf rows' id :=
  List.filterMap_append

theorem deliveriesOf_append_other
    (h : ∀ statuses delivered at', c.payload ≠ .messageDelivery id statuses delivered at') :
    deliveriesOf (rows ++ [c]) id = deliveriesOf rows id := by
  rw [deliveriesOf_append]
  suffices deliveriesOf [c] id = [] by rw [this, List.append_nil]
  unfold deliveriesOf
  rw [List.filterMap_cons]
  split
  · rfl
  · rename_i b hb
    split at hb
    · rename_i messageId statuses delivered at' hpayload
      split_ifs at hb with hid
      exact absurd (hid ▸ hpayload) (h statuses delivered at')
    · cases hb

variable {statuses : RecipientStatuses}

theorem deliveriesOf_append_self {delivered : List String}
    {at' : String} (h : c.payload = .messageDelivery id statuses delivered at') :
    deliveriesOf (rows ++ [c]) id = deliveriesOf rows id ++ [(statuses, delivered)] := by
  rw [deliveriesOf_append]
  simp [deliveriesOf, h]

theorem latestState_append_other {event : Json}
    (h : ∀ statuses delivered at', c.payload ≠ .messageDelivery id statuses delivered at') :
    latestState (rows ++ [c]) id event = latestState rows id event := by
  unfold latestState
  rw [deliveriesOf_append_other h]

theorem latestState_append_self {delivered : List String}
    {at' : String} {event : Json} (h : c.payload = .messageDelivery id statuses delivered at') :
    latestState (rows ++ [c]) id event = reportedState (statuses, delivered) := by
  unfold latestState
  rw [deliveriesOf_append_self h, List.getLast?_concat]

namespace DeliveryLog

/-- Each stored message has an id, and no other message has it. -/
theorem unique (h : DeliveryLog rows) : ∀ r ∈ sentOf rows, ∃ id,
    r.2.member "id" = some (.str id) ∧ Text.blank id = false ∧
      (∃ delivered, r.2.member "deliveredRecipientSessionIds" = some delivered ∧
        Json.nullish (some delivered) = false) ∧
      ∀ r' ∈ sentOf rows, r'.2.member "id" = some (.str id) → r' = r := by
  induction h with
  | nil => exact fun _ hr => by cases hr
  | @message rows c event delivered id hsent hid hnamed hdelivered hnullish hfresh _ ih =>
    intro r hr
    rw [sentOf_append_some hsent, List.mem_append, List.mem_singleton] at hr
    rw [sentOf_append_some hsent]
    rcases hr with hr | rfl
    · obtain ⟨id', hid', hnamed', hdelivered', huniq⟩ := ih r hr
      refine ⟨id', hid', hnamed', hdelivered', fun r' hr' hsame => ?_⟩
      rw [List.mem_append, List.mem_singleton] at hr'
      rcases hr' with hr' | rfl
      · exact huniq r' hr' hsame
      · cases hid.symm.trans hsame
        exact absurd hid' (hfresh r hr)
    · refine ⟨id, hid, hnamed, ⟨delivered, hdelivered, hnullish⟩, fun r' hr' hsame => ?_⟩
      rw [List.mem_append, List.mem_singleton] at hr'
      rcases hr' with hr' | rfl
      · exact absurd hsame (hfresh r' hr')
      · rfl
  | delivery c r id statuses delivered occurredAt hpayload _ _ _ _ ih =>
    have hnone : c.sent? = none := by simp [Change.sent?, hpayload]
    rwa [sentOf_append_none hnone]
  | other c hother _ ih =>
    have hnone : c.sent? = none := by
      cases hc : c.payload <;> simp [Change.sent?, Change.isMessage, hc] at hother ⊢
    rwa [sentOf_append_none hnone]

/-- A delivery change belongs to a stored message of its channel. -/
theorem delivered (h : DeliveryLog rows) {delivered : List String}
    {at' : String} (hc : c ∈ rows) (hpayload : c.payload = .messageDelivery id statuses delivered at') :
    ∃ r ∈ sentOf rows, r.2.member "id" = some (.str id) ∧ c.channelId = r.1.channelId := by
  induction h with
  | nil => cases hc
  | message c' event delivered' id' hsent _ _ _ _ _ _ ih =>
    rw [List.mem_append, List.mem_singleton] at hc
    rw [sentOf_append_some hsent]
    rcases hc with hc | rfl
    · obtain ⟨r, hr, hplace⟩ := ih hc
      exact ⟨r, List.mem_append_left _ hr, hplace⟩
    · simp [Change.sent?, hpayload] at hsent
  | delivery c' r id' _ _ _ hpayload' hr hid hchannel _ ih =>
    have hnone : c'.sent? = none := by simp [Change.sent?, hpayload']
    rw [List.mem_append, List.mem_singleton] at hc
    rw [sentOf_append_none hnone]
    rcases hc with hc | rfl
    · exact ih hc
    · cases hpayload.symm.trans hpayload'
      exact ⟨r, hr, hid, hchannel⟩
  | other c' hother _ ih =>
    have hnone : c'.sent? = none := by
      cases hc : c'.payload <;> simp [Change.sent?, Change.isMessage, hc] at hother ⊢
    rw [List.mem_append, List.mem_singleton] at hc
    rw [sentOf_append_none hnone]
    rcases hc with hc | rfl
    · exact ih hc
    · simp [Change.isMessage, hpayload] at hother

end DeliveryLog
end Log

section Fold

variable {rows : List Change} {id : String} {event : Json}

theorem hasId_of_id (h : event.member "id" = some (.str id)) (id' : String) :
    hasId id' event = decide (id = id') := by
  simp [hasId, h, sameValue]

theorem putEvent_fresh {events : List Json} (hid : event.member "id" = some (.str id))
    (h : ∀ e ∈ events, e.member "id" ≠ some (.str id)) : putEvent event events = events ++ [event] := by
  induction events with
  | nil => rfl
  | cons e events ih =>
    have hdiffer : ¬ sameValue (e.member "id") (event.member "id") = true := by
      rw [hid]
      intro hsame
      have hne := h e List.mem_cons_self
      generalize e.member "id" = value at hsame hne
      cases value with
      | none => cases hsame
      | some v =>
        cases v with
        | str id' => exact hne (by rw [show id' = id by simpa [sameValue] using hsame])
        | _ => cases hsame
    rw [putEvent, if_neg hdiffer, ih fun e' he' => h e' (List.mem_cons_of_mem _ he')]
    rfl

@[simp] theorem deliver_id (statuses : RecipientStatuses) (delivered : List String) (event : Json) :
    (deliver statuses delivered event).member "id" = event.member "id" := by
  rw [deliver, Json.member_set_ne (by decide), Json.member_set_ne (by decide)]

@[simp] theorem deliver_state (statuses : RecipientStatuses) (delivered : List String)
    (event : Json) :
    deliveryState (deliver statuses delivered event) = reportedState (statuses, delivered) := by
  rw [deliveryState, deliver, Json.member_set_self, Json.member_set_ne (by decide),
    Json.member_set_self]
  rfl

/-- The folded event of a message has its id and its latest state. -/
def Folded (rows : List Change) (r : Change × Json) (e : Json) : Prop :=
  e.member "id" = r.2.member "id" ∧
    ∀ id, r.2.member "id" = some (.str id) → deliveryState e = latestState rows id r.2

theorem foldMessageEvents_append (rows : List Change) (c : Change) :
    foldMessageEvents (rows ++ [c]) = foldMessageEvent (foldMessageEvents rows) c := by
  rw [foldMessageEvents, List.foldl_append]
  rfl

theorem forall₂_imp_of_mem {α β : Type} {R S : α → β → Prop} {as : List α} {bs : List β}
    (h : List.Forall₂ R as bs) (himp : ∀ a ∈ as, ∀ b, R a b → S a b) : List.Forall₂ S as bs := by
  induction h with
  | nil => exact .nil
  | cons hab _ ih =>
    exact .cons (himp _ List.mem_cons_self _ hab) (ih fun a ha => himp a (List.mem_cons_of_mem _ ha))

theorem mem_of_forall₂ {α β : Type} {R : α → β → Prop} {as : List α} {bs : List β}
    (h : List.Forall₂ R as bs) {b : β} (hb : b ∈ bs) : ∃ a ∈ as, R a b := by
  induction h with
  | nil => cases hb
  | @cons a b' as bs hab _ ih =>
    rcases List.mem_cons.mp hb with rfl | hb
    · exact ⟨a, List.mem_cons_self, hab⟩
    · obtain ⟨a', ha', hR⟩ := ih hb
      exact ⟨a', List.mem_cons_of_mem _ ha', hR⟩

/-- The fold over a log tells of each message, in order, its latest state. -/
theorem DeliveryLog.folded (h : DeliveryLog rows) :
    List.Forall₂ (Folded rows) (sentOf rows) (foldMessageEvents rows) := by
  induction h with
  | nil => exact .nil
  | @message rows c event delivered id hsent hid _ _ _ hfresh hlog ih =>
    have hpayload : c.payload = .messageSent event := by
      cases hc : c.payload <;> simp [Change.sent?, hc] at hsent
      rw [hsent]
    have hother (id' : String) (statuses : RecipientStatuses) (ids : List String) (at' : String) :
        c.payload ≠ .messageDelivery id' statuses ids at' := by
      rw [hpayload]
      exact fun hbad => by cases hbad
    have hold : List.Forall₂ (Folded (rows ++ [c])) (sentOf rows) (foldMessageEvents rows) :=
      forall₂_imp_of_mem ih fun r _ e he =>
        ⟨he.1, fun id' hid' => by rw [latestState_append_other (hother id'), he.2 id' hid']⟩
    have hnew : Folded (rows ++ [c]) (c, event) event := by
      refine ⟨rfl, fun id' hid' => ?_⟩
      cases hid.symm.trans hid'
      rw [latestState_append_other (hother id)]
      have hnone : deliveriesOf rows id = [] := by
        rw [deliveriesOf, List.filterMap_eq_nil_iff]
        intro d hd
        split
        · rename_i messageId statuses ids at' hdelivery
          rw [if_neg]
          rintro rfl
          obtain ⟨r, hr, hsame, _⟩ := hlog.delivered hd hdelivery
          exact hfresh r hr hsame
        · rfl
      rw [latestState, hnone]
      rfl
    have hput : foldMessageEvents (rows ++ [c]) = foldMessageEvents rows ++ [event] := by
      rw [foldMessageEvents_append, foldMessageEvent, hpayload]
      refine putEvent_fresh hid fun e he hsame => ?_
      obtain ⟨r, hr, hfolded⟩ := mem_of_forall₂ ih he
      exact hfresh r hr (hfolded.1.symm.trans hsame)
    rw [sentOf_append_some hsent, hput]
    exact List.rel_append hold (.cons hnew .nil)
  | @delivery rows c r id statuses delivered occurredAt hpayload hr hid _ hlog ih =>
    have hnone : c.sent? = none := by simp [Change.sent?, hpayload]
    rw [sentOf_append_none hnone, foldMessageEvents_append]
    simp only [foldMessageEvent, hpayload]
    rw [List.forall₂_map_right_iff]
    refine forall₂_imp_of_mem ih fun r' hr' e he => ?_
    obtain ⟨id', hid', _⟩ := hlog.unique r' hr'
    rw [hasId_of_id (he.1.trans hid')]
    by_cases hsame : id' = id
    · subst hsame
      rw [if_pos (by simp)]
      refine ⟨(deliver_id _ _ _).trans he.1, fun id'' hid'' => ?_⟩
      cases hid'.symm.trans hid''
      rw [deliver_state, latestState_append_self hpayload]
    · rw [if_neg (by simpa using hsame)]
      refine ⟨he.1, fun id'' hid'' => ?_⟩
      cases hid'.symm.trans hid''
      rw [he.2 id' hid', latestState_append_other]
      intro statuses' delivered' at' hbad
      cases hpayload.symm.trans hbad
      exact hsame rfl
  | @other rows c hother _ ih =>
    have hnone : c.sent? = none := by
      cases hc : c.payload <;> simp [Change.sent?, Change.isMessage, hc] at hother ⊢
    have hsame : foldMessageEvents (rows ++ [c]) = foldMessageEvents rows := by
      rw [foldMessageEvents_append]
      cases hc : c.payload <;> simp [foldMessageEvent, Change.isMessage, hc] at hother ⊢
    rw [sentOf_append_none hnone, hsame]
    refine forall₂_imp_of_mem ih fun r _ e he => ⟨he.1, fun id hid => ?_⟩
    rw [he.2 id hid, latestState_append_other]
    intro statuses delivered at' hbad
    simp [Change.isMessage, hbad] at hother

end Fold

/-- A selection that takes a delivery change if and only if it takes the message. -/
def TakesTogether (q : Change → Bool) (rows : List Change) : Prop :=
  ∀ c ∈ rows, ∀ id statuses delivered at', c.payload = .messageDelivery id statuses delivered at' →
    ∀ r ∈ sentOf rows, r.2.member "id" = some (.str id) → q c = q r.1

section Selection

variable {rows : List Change} {q : Change → Bool}

theorem TakesTogether.of_append {c : Change} (h : TakesTogether q (rows ++ [c])) :
    TakesTogether q rows := fun d hd id statuses delivered at' hpayload r hr hid =>
  h d (List.mem_append_left _ hd) id statuses delivered at' hpayload r
    (by rw [sentOf_append]; exact List.mem_append_left _ hr) hid

theorem mem_sentOf_filter {r : Change × Json} :
    r ∈ sentOf (rows.filter q) ↔ r ∈ sentOf rows ∧ q r.1 = true := by
  rw [mem_sentOf, mem_sentOf, List.mem_filter]
  tauto

theorem DeliveryLog.filter (h : DeliveryLog rows) (hq : TakesTogether q rows) :
    DeliveryLog (rows.filter q) := by
  induction h with
  | nil => exact .nil
  | @message rows c event delivered id hsent hid hnamed hdelivered hnullish hfresh _ ih =>
    rw [List.filter_append]
    have hold := ih hq.of_append
    by_cases hc : q c = true
    · rw [List.filter_cons_of_pos hc, List.filter_nil]
      exact .message c event delivered id hsent hid hnamed hdelivered hnullish
        (fun r hr => hfresh r (mem_sentOf_filter.mp hr).1) hold
    · rw [List.filter_cons_of_neg hc, List.filter_nil, List.append_nil]
      exact hold
  | @delivery rows c r id statuses delivered at' hpayload hr hid hchannel _ ih =>
    rw [List.filter_append]
    have hold := ih hq.of_append
    have hboth : q c = q r.1 :=
      hq c (List.mem_append_right _ List.mem_cons_self) id statuses delivered at' hpayload r
        (by rw [sentOf_append]; exact List.mem_append_left _ hr) hid
    by_cases hc : q c = true
    · rw [List.filter_cons_of_pos hc, List.filter_nil]
      exact .delivery c r id statuses delivered at' hpayload
        (mem_sentOf_filter.mpr ⟨hr, hboth ▸ hc⟩) hid hchannel hold
    · rw [List.filter_cons_of_neg hc, List.filter_nil, List.append_nil]
      exact hold
  | @other rows c hother _ ih =>
    rw [List.filter_append]
    have hold := ih hq.of_append
    by_cases hc : q c = true
    · rw [List.filter_cons_of_pos hc, List.filter_nil]
      exact .other c hother hold
    · rw [List.filter_cons_of_neg hc, List.filter_nil, List.append_nil]
      exact hold

theorem latestState_filter (hq : TakesTogether q rows) {r : Change × Json} {id : String}
    (hr : r ∈ sentOf rows) (hid : r.2.member "id" = some (.str id)) (htaken : q r.1 = true) :
    latestState (rows.filter q) id r.2 = latestState rows id r.2 := by
  have hsame : deliveriesOf (rows.filter q) id = deliveriesOf rows id := by
    unfold deliveriesOf
    rw [List.filterMap_filter]
    refine List.filterMap_congr fun c hc => ?_
    by_cases hqc : q c = true
    · rw [if_pos hqc]
    · rw [if_neg hqc]
      split
      · rename_i messageId statuses delivered at' hpayload
        rw [if_neg]
        rintro rfl
        exact hqc ((hq c hc messageId statuses delivered at' hpayload r hr hid).trans htaken)
      · rfl
  unfold latestState
  rw [hsame]

theorem folded_filter (h : DeliveryLog rows) (hq : TakesTogether q rows) {r : Change × Json}
    {id : String} (hr : r ∈ sentOf rows) (hid : r.2.member "id" = some (.str id))
    (htaken : q r.1 = true) :
    (∃ e ∈ foldMessageEvents (rows.filter q), e.member "id" = some (.str id)) ∧
      ∀ e ∈ foldMessageEvents (rows.filter q), e.member "id" = some (.str id) →
        deliveryState e = latestState rows id r.2 := by
  have hfold := (h.filter hq).folded
  constructor
  · have hmem := mem_sentOf_filter.mpr ⟨hr, htaken⟩
    obtain ⟨e, he, hfolded⟩ := mem_of_forall₂ hfold.flip hmem
    exact ⟨e, he, hfolded.1.trans hid⟩
  · intro e he heid
    obtain ⟨r', hr', hfolded⟩ := mem_of_forall₂ hfold he
    obtain ⟨id', hid', _, _, huniq⟩ := h.unique r hr
    cases hid.symm.trans hid'
    cases huniq r' (mem_sentOf_filter.mp hr').1 (hfolded.1.symm.trans heid)
    rw [hfolded.2 id hid, latestState_filter hq hr hid htaken]

end Selection

section Readers

variable {db : Database} {r : Change × Json} {id : String}

theorem find?_of_unique {α : Type} {as : List α} {p : α → Bool} {a : α} (ha : a ∈ as)
    (hp : p a = true) (h : ∀ b ∈ as, p b = true → b = a) : as.find? p = some a := by
  cases hfound : as.find? p with
  | none => exact absurd hp (List.find?_eq_none.mp hfound a ha)
  | some b => rw [h b (List.mem_of_find?_eq_some hfound) (List.find?_some hfound)]

theorem DeliveryLog.sameChannel {rows : List Change} (h : DeliveryLog rows) {c : Change}
    {statuses : RecipientStatuses} {delivered : List String} {at' : String} (hc : c ∈ rows)
    (hpayload : c.payload = .messageDelivery id statuses delivered at') (hr : r ∈ sentOf rows)
    (hid : r.2.member "id" = some (.str id)) : c.channelId = r.1.channelId := by
  obtain ⟨r', hr', hid', hchannel⟩ := h.delivered hc hpayload
  obtain ⟨id'', hid'', _, _, huniq⟩ := h.unique r hr
  cases hid.symm.trans hid''
  rw [hchannel, huniq r' hr' hid']

theorem payload_of_sent {c : Change} {event : Json} (h : c.sent? = some event) :
    c.payload = .messageSent event := by
  cases hp : c.payload <;> simp [Change.sent?, hp] at h
  rw [h]

theorem isMessage_of_sent {c : Change} {event : Json} (h : c.sent? = some event) :
    Change.isMessage c = true := by
  simp [Change.isMessage, payload_of_sent h]

theorem snapshot_state (h : DeliveryLog db.changes.rows) (hr : r ∈ db.changes.sent)
    (hid : r.2.member "id" = some (.str id)) {channelId : String} {snap : Snapshot}
    (hchannel : r.1.channelId = some channelId) (hsnap : db.snapshot channelId = .ok snap) :
    (∃ e ∈ snap.events, e.member "id" = some (.str id)) ∧
      ∀ e ∈ snap.events, e.member "id" = some (.str id) →
        deliveryState e = latestState db.changes.rows id r.2 := by
  unfold Database.snapshot at hsnap
  cases hfound : db.currentChannel channelId with
  | none =>
    rw [hfound] at hsnap
    cases hsnap
  | some channel =>
    rw [hfound] at hsnap
    cases hsnap
    refine folded_filter h ?_ hr hid ?_
    · intro c hc id' statuses delivered at' hpayload r' hr' hid'
      dsimp only
      rw [h.sameChannel hc hpayload hr' hid', isMessage_of_sent (mem_sentOf.mp hr').2]
      simp [Change.isMessage, hpayload]
    · simp [hchannel, isMessage_of_sent (mem_sentOf.mp hr).2]

/-- The rows of a message's history. -/
def inHistory (channelId id : String) (c : Change) : Bool :=
  c.channelId = some channelId &&
    match c.payload with
    | .messageSent event => (event.member "id").bind Json.extractText = some id
    | .messageDelivery messageId _ _ _ => messageId = id
    | _ => false

theorem messageHistory_eq (db : Database) (channelId id : String) :
    db.messageHistory channelId id = db.changes.rows.filter (inHistory channelId id) := rfl

theorem inHistory_sent {channelId id' : String} (hr : r.1.sent? = some r.2)
    (hid : r.2.member "id" = some (.str id')) :
    inHistory channelId id r.1 = (decide (r.1.channelId = some channelId) && decide (id' = id)) := by
  simp [inHistory, payload_of_sent hr, hid, Json.extractText]

theorem DeliveryLog.takesHistory {rows : List Change} (h : DeliveryLog rows)
    (channelId id : String) : TakesTogether (inHistory channelId id) rows := by
  intro c hc id' statuses delivered at' hpayload r hr hid
  rw [inHistory_sent (mem_sentOf.mp hr).2 hid, inHistory, h.sameChannel hc hpayload hr hid, hpayload]

theorem messageByDeduplicationKey_state (h : DeliveryLog db.changes.rows) {key channelId : String}
    (hid : r.2.member "id" = some (.str id))
    (hrow : db.deduplicationRowIn channelId (.str key) = some r) :
    ∃ e, db.messageByDeduplicationKey key channelId = some (e, r.1.cursor) ∧
      e.member "id" = some (.str id) ∧ deliveryState e = latestState db.changes.rows id r.2 := by
  have hr : r ∈ db.changes.sent := List.mem_of_find?_eq_some hrow
  have hfound := List.find?_some hrow
  have hchannel : r.1.channelId = some channelId := by
    rw [decide_eq_true_eq] at hfound
    exact hfound.1
  obtain ⟨id', hid', hnamed, _⟩ := h.unique r hr
  cases hid.symm.trans hid'
  have hempty : ¬ id = "" := by
    rintro rfl
    cases hnamed
  have htaken : inHistory channelId id r.1 = true := by
    rw [inHistory_sent (mem_sentOf.mp hr).2 hid]
    simp [hchannel]
  have htakes := h.takesHistory channelId id
  obtain ⟨⟨e₀, he₀, _⟩, hstate⟩ := folded_filter h htakes hr hid htaken
  rw [← messageHistory_eq] at he₀ hstate
  -- every event of the history is the one message
  have hall : ∀ e ∈ foldMessageEvents (db.messageHistory channelId id),
      e.member "id" = some (.str id) := by
    intro e he
    obtain ⟨r', hr', hfolded⟩ := mem_of_forall₂ (h.filter htakes).folded he
    obtain ⟨hr', htaken'⟩ := mem_sentOf_filter.mp hr'
    obtain ⟨id', hid', _⟩ := h.unique r' hr'
    rw [inHistory_sent (mem_sentOf.mp hr').2 hid', Bool.and_eq_true, decide_eq_true_eq,
      decide_eq_true_eq] at htaken'
    rw [hfolded.1, hid', htaken'.2]
  cases hhist : foldMessageEvents (db.messageHistory channelId id) with
  | nil =>
    rw [hhist] at he₀
    cases he₀
  | cons e es =>
    have he : e ∈ foldMessageEvents (db.messageHistory channelId id) := by
      rw [hhist]
      exact List.mem_cons_self
    refine ⟨e, ?_, hall e he, hstate e he (hall e he)⟩
    simp only [Database.messageByDeduplicationKey, hrow, hid, if_neg hempty, hhist]
    rfl

theorem firstDelivery_eq (hid : r.2.member "id" = some (.str id)) :
    db.firstDelivery r.2 = (deliveriesOf db.changes.rows id).head? := by
  unfold Database.firstDelivery deliveriesOf
  rw [List.head?_filterMap]
  congr 1
  funext c
  cases c.payload with
  | messageDelivery messageId statuses delivered at' =>
    dsimp only
    rw [hasId_of_id hid]
    by_cases hsame : id = messageId
    · simp [hsame]
    · simp [hsame, Ne.symm hsame]
  | _ => rfl

/-- The state that the list of direct messages shows. -/
def firstState (rows : List Change) (id : String) (event : Json) : Option Json × Option Json :=
  match (deliveriesOf rows id).head? with
  | none => deliveryState event
  | some delivery => reportedState delivery

theorem eq_of_cursor {j : Journal} {c d : Change} (hc : c ∈ j.rows) (hd : d ∈ j.rows)
    (h : c.cursor = d.cursor) : c = d := by
  have hne : j.rows.Pairwise fun a b => a.cursor ≠ b.cursor := j.ordered.imp fun h => h.ne
  exact List.inj_on_of_nodup_map (List.pairwise_map.mpr hne) hc hd h

theorem listMessages_state (hr : r ∈ db.changes.sent) (hid : r.2.member "id" = some (.str id))
    {sessionId afterCursor : String} {channelId : Option String} {messages : List Database.ListedMessage}
    (hlist : db.listMessages sessionId afterCursor channelId = .ok messages) {m : Database.ListedMessage}
    (hm : m ∈ messages) (hcursor : m.cursor = r.1.cursor) :
    Database.directTo sessionId r.2 = true ∧
      deliveryState m.message = firstState db.changes.rows id r.2 := by
  unfold Database.listMessages at hlist
  cases hdecode : CursorCodec.decode afterCursor with
  | none =>
    rw [hdecode] at hlist
    cases hlist
  | some n =>
    rw [hdecode] at hlist
    obtain ⟨-, rfl⟩ := bindCursor_map_ok hlist
    obtain ⟨r', hr', rfl⟩ := List.mem_map.mp hm
    obtain ⟨hsent, hselected⟩ := List.mem_filter.mp hr'
    have hrow := eq_of_cursor (mem_sentOf.mp hsent).1 (mem_sentOf.mp hr).1 hcursor
    have hsame : r' = r := by
      refine Prod.ext hrow ?_
      have hevent := (mem_sentOf.mp hsent).2
      rw [hrow, (mem_sentOf.mp hr).2] at hevent
      exact (Option.some.inj hevent).symm
    subst hsame
    have hdirect : Database.directTo sessionId r'.2 = true := by
      rw [Bool.and_eq_true, Bool.and_eq_true] at hselected
      exact hselected.1.2
    refine ⟨hdirect, ?_⟩
    dsimp only
    rw [firstDelivery_eq hid]
    unfold firstState
    cases (deliveriesOf db.changes.rows id).head? with
    | none => rfl
    | some delivery => exact deliver_state _ _ _

theorem getRecipients_state (h : DeliveryLog db.changes.rows) (hr : r ∈ db.changes.sent)
    (hid : r.2.member "id" = some (.str id)) :
    some (db.getRecipients id) = (deliveryState r.2).2 := by
  obtain ⟨id', hid', _, ⟨delivered, hdelivered, hnullish⟩, huniq⟩ := h.unique r hr
  cases hid.symm.trans hid'
  have hall : db.changesAfter 0 none = db.changes.rows := by
    unfold Database.changesAfter
    rw [List.filter_eq_self]
    intro c hc
    simp [db.changes.positive c hc, Database.inScope, Text.given]
  have hsent := (mem_sentOf.mp hr).2
  have hfind : (db.changesAfter 0 none).find?
      (fun c => (Change.sent? c).any fun e => hasId id e) = some r.1 := by
    rw [hall]
    refine find?_of_unique (mem_sentOf.mp hr).1 ?_ ?_
    · simp [hsent, hasId_of_id hid]
    · intro c hc hmatch
      obtain ⟨event, hevent, hhas⟩ : ∃ event, c.sent? = some event ∧ hasId id event = true := by
        simpa [Option.any_eq_true] using hmatch
      have hc' : (c, event) ∈ sentOf db.changes.rows := mem_sentOf.mpr ⟨hc, hevent⟩
      obtain ⟨id', hid', _⟩ := h.unique _ hc'
      rw [hasId_of_id hid', decide_eq_true_eq] at hhas
      exact congrArg Prod.fst (huniq _ hc' (hhas ▸ hid'))
  unfold Database.getRecipients
  rw [hfind]
  simp only [hsent, Option.bind_some, hdelivered, Database.getRecipients.itemsOf, hnullish,
    deliveryState]
  rfl

theorem getEvent_state (h : DeliveryLog db.changes.rows) (hr : r ∈ db.changes.sent)
    (hid : r.2.member "id" = some (.str id)) {channelId : Option String}
    (hchannel : Text.given channelId = true → r.1.channelId = channelId) :
    db.getEvent id channelId = .ok r.2 := by
  obtain ⟨id', hid', hnamed, _, huniq⟩ := h.unique r hr
  cases hid.symm.trans hid'
  have hmatch (r' : Change × Json) (hr' : r' ∈ db.changes.sent)
      (htext : (r'.2.member "id").bind Json.extractText = some id) : r' = r := by
    obtain ⟨id'', hid'', _⟩ := h.unique r' hr'
    rw [hid''] at htext
    have hsame : id'' = id := by simpa [Json.extractText] using htext
    exact huniq r' hr' (hsame ▸ hid'')
  have htext : (r.2.member "id").bind Json.extractText = some id := by
    rw [hid]
    rfl
  unfold Database.getEvent messageById
  rw [if_neg (by rw [hnamed]; exact Bool.false_ne_true)]
  by_cases hgiven : Text.given channelId = true
  · rw [if_pos hgiven]
    have hplace := hchannel hgiven
    obtain ⟨ch, rfl⟩ : ∃ ch, channelId = some ch := by
      cases channelId with
      | none => cases hgiven
      | some ch => exact ⟨ch, rfl⟩
    have hrow : db.messageRowIn ((some ch).getD "") id = some r := by
      refine find?_of_unique hr (by simp [hplace, htext]) fun r' hr' hp => hmatch r' hr' ?_
      rw [decide_eq_true_eq] at hp
      exact hp.2
    rw [hrow]
    rfl
  · rw [if_neg hgiven]
    have hrow : db.messageRow id = some r := by
      refine find?_of_unique hr (by simp [htext]) fun r' hr' hp => hmatch r' hr' ?_
      simpa using hp
    rw [hrow]
    rfl

end Readers

theorem listed_of_direct {db : Database} {r : Change × Json} (hr : r ∈ db.changes.sent)
    {sessionId : String} (hdirect : Database.directTo sessionId r.2 = true) :
    ∃ messages, db.listMessages sessionId "0" none = .ok messages ∧
      ∃ m ∈ messages, m.cursor = r.1.cursor := by
  refine ⟨_, rfl, _, List.mem_map_of_mem (List.mem_filter.mpr ⟨hr, ?_⟩), rfl⟩
  simp [hdirect, Text.given, db.changes.positive _ (mem_sentOf.mp hr).1]

theorem readersAgree_iff {db : Database} (h : DeliveryLog db.changes.rows) :
    ReadersAgree db ↔ RepeatsCommit db := by
  constructor
  · intro hagree r hr id hid
    have hreported := hagree r hr id hid
    -- the stored event itself is what one reader reports
    have hcommit : deliveryState r.2 = latestState db.changes.rows id r.2 := by
      obtain ⟨e, hevent, hstate⟩ := hreported.getEvent none fun hgiven => by cases hgiven
      have hstored : db.getEvent id none = .ok r.2 :=
        getEvent_state h hr hid fun hgiven => by cases hgiven
      cases hstored.symm.trans hevent
      exact hstate
    refine ⟨fun last hlast => ?_, fun ⟨sessionId, hdirect⟩ first hfirst => ?_⟩
    · rw [hcommit, latestState, hlast]
    · obtain ⟨messages, hlist, m, hm, hcursor⟩ := listed_of_direct hr hdirect
      have hshown := hreported.listMessages sessionId "0" none messages hlist m hm hcursor
      rw [(listMessages_state hr hid hlist hm hcursor).2, firstState, hfirst] at hshown
      rw [hcommit]
      exact hshown
  · intro hrepeats r hr id hid
    obtain ⟨hlast, hfirst⟩ := hrepeats r hr id hid
    have hcommit : deliveryState r.2 = latestState db.changes.rows id r.2 := by
      unfold latestState
      cases hl : (deliveriesOf db.changes.rows id).getLast? with
      | none => rfl
      | some last => exact (hlast last hl).symm
    refine ⟨fun channelId snap => snapshot_state h hr hid,
      fun key channelId => messageByDeduplicationKey_state h hid, ?_, ?_, ?_⟩
    · intro sessionId afterCursor channelId messages hlist m hm hcursor
      obtain ⟨hdirect, hstate⟩ := listMessages_state hr hid hlist hm hcursor
      rw [hstate, ← hcommit]
      unfold firstState
      cases hf : (deliveriesOf db.changes.rows id).head? with
      | none => rfl
      | some first => exact hfirst ⟨sessionId, hdirect⟩ first hf
    · rw [← hcommit]
      exact getRecipients_state h hr hid
    · exact fun channelId hchannel => ⟨r.2, getEvent_state h hr hid hchannel, hcommit⟩

/-- What a run keeps: a log of deliveries whose message ids came from the source of random ids. -/
structure DeliveryInvariant (w : World) : Prop where
  transactionDepth : w.transactionDepth = 0
  injective : Function.Injective w.uuids
  log : DeliveryLog w.db.changes.rows
  drawn : ∀ r ∈ w.db.changes.sent, ∃ k < w.draws,
    r.2.member "id" = some (.str ("event_" ++ w.uuids k))

theorem DeliveryInvariant.of_unchanged {w w' : World} (h : DeliveryInvariant w)
    (hkeeps : Keeps w w') (hdb : w'.db = w.db) : DeliveryInvariant w' := by
  refine ⟨hkeeps.transactionDepth.trans h.transactionDepth, hkeeps.uuids ▸ h.injective,
    hdb ▸ h.log, fun r hr => ?_⟩
  rw [hdb] at hr
  obtain ⟨k, hk, hid⟩ := h.drawn r hr
  exact ⟨k, hk.trans_le hkeeps.draws, hkeeps.uuids ▸ hid⟩

/-- A commit stores at most one message, under the next id of the source. -/
inductive CommitGrows (w w' : World) : Prop
  | same (hkeeps : Keeps w w') (hdb : w'.db = w.db)
  | stored (input : CanonicalMessageCommitInput) (reply : ReplyMetadata) (occurredAt at' : String)
      (hkeeps : Keeps w w') (hdraws : w.draws < w'.draws)
      (hdb : w'.db = w.db.record input.channelId
        (.messageSent (messageEvent input reply ("event_" ++ w.uuids w.draws) occurredAt)) at' none)

theorem write_refused {α : Type} {w : World} (hrest : w.transactionDepth = 0)
    (himport : w.importSession.isSome = true) (body : Command α) :
    write body w =
      (.error (.sqlite "cannot start a transaction within a transaction"), w) := by
  unfold write
  rw [if_neg (by omega), if_pos himport]

theorem commitMessage_grows {w : World} (hrest : w.transactionDepth = 0)
    (input : CanonicalMessageCommitInput) : CommitGrows w (commitMessage input w).2 := by
  have hkeeps := (commitMessage_effect w input).keeps
  by_cases himport : w.importSession = none
  · suffices h : wp (commitMessage input) (fun _ w' => Keeps w w' → CommitGrows w w')
        (fun _ w' => Keeps w w' → CommitGrows w w') w by
      rcases cases_of_wp h with ⟨_, _, hgrows⟩ | ⟨_, _, hgrows⟩ <;> exact hgrows hkeeps
    unfold commitMessage
    rw [wp_write_outermost _ hrest himport]
    simp only [wp_bind, wp_database, wp_throwIf, wp_ofExcept]
    refine ⟨fun _ hk => .same hk rfl, fun _ => ⟨fun reply hreply => ⟨fun prior hprior => ?_,
      fun _ _ hk => .same hk rfl⟩, fun _ _ hk => .same hk rfl⟩⟩
    rcases prior with _ | ⟨row, event⟩
    · simp only [wp_bind, wp_randomUUID, wp_now, wp_appendChange]
      refine ⟨fun _ => ?_, fun _ hk => .same hk rfl⟩
      split
      · exact fun hk => .stored input reply _ _ hk (Nat.lt_succ_self _) rfl
      · exact fun hk => .same hk rfl
    · exact fun hk => .same hk rfl
  · unfold commitMessage at hkeeps ⊢
    rw [write_refused hrest (Option.isSome_iff_ne_none.mpr himport)] at hkeeps ⊢
    exact .same hkeeps rfl

/-- A delivery call stores at most one delivery change, for a stored message. -/
inductive DeliveryGrows (messageId : String) (statuses : RecipientStatuses) (db : Database) :
    Database → Prop
  | mk (row : Change) (event : Json) (delivered : List String) (occurredAt at' : String)
      (hrow : db.messageRow messageId = some (row, event)) :
      DeliveryGrows messageId statuses db
        (db.record row.channelId (.messageDelivery messageId statuses delivered occurredAt) at' none)

theorem appendMessageDelivery_grows (w : World) (messageId : String) (statuses : RecipientStatuses) :
    Ensures (appendMessageDelivery messageId statuses) w
      fun _ db' => DeliveryGrows messageId statuses w.db db' := by
  refine ensures_write fun n => ?_
  simp only [Ensures, wp_bind, wp_database]
  cases hrow : w.db.messageRow messageId with
  | none => exact .refl _
  | some found =>
    obtain ⟨row, event⟩ := found
    simp only [wp_bind, wp_now]
    exact ensures_appendChange ⟨rfl, rfl, rfl, le_rfl⟩ fun _ => .mk row event _ _ _ hrow

theorem eventId_named (uuid : String) : Text.blank ("event_" ++ uuid) = false := by
  simp only [Text.blank, String.toList_append, List.all_append]
  rfl

theorem eventId_injective {uuid uuid' : String} (h : "event_" ++ uuid = "event_" ++ uuid') :
    uuid = uuid' := by
  have htext := congrArg String.toList h
  rw [String.toList_append, String.toList_append, List.append_cancel_left_eq] at htext
  exact String.toList_injective htext

theorem DeliveryInvariant.committed {w w' : World} (h : DeliveryInvariant w)
    (hgrows : CommitGrows w w') : DeliveryInvariant w' := by
  cases hgrows with
  | same hkeeps hdb => exact h.of_unchanged hkeeps hdb
  | stored input reply occurredAt at' hkeeps hdraws hdb =>
    have hsent := sent_append_message w.db.changes input.channelId
      (messageEvent input reply ("event_" ++ w.uuids w.draws) occurredAt) at' none
    refine ⟨hkeeps.transactionDepth.trans h.transactionDepth, hkeeps.uuids ▸ h.injective, ?_, ?_⟩
    · rw [hdb, Database.record_changes, Journal.rows_append]
      refine .message _ _ _ ("event_" ++ w.uuids w.draws) (by rfl) (messageEvent_id _ _ _ _)
        (eventId_named _) (messageEvent_deliveredRecipientSessionIds _ _ _ _) (by rfl) ?_ h.log
      intro r hr hid
      obtain ⟨k, hk, hid'⟩ := h.drawn r hr
      have hsame := eventId_injective (Json.str.inj (Option.some.inj (hid.symm.trans hid')))
      exact absurd (h.injective hsame) hk.ne'
    · intro r hr
      rw [hdb, Database.record_changes, hsent, List.mem_append, List.mem_singleton] at hr
      rw [hkeeps.uuids]
      rcases hr with hr | rfl
      · obtain ⟨k, hk, hid⟩ := h.drawn r hr
        exact ⟨k, hk.trans hdraws, hid⟩
      · exact ⟨w.draws, hdraws, messageEvent_id _ _ _ _⟩

theorem DeliveryInvariant.delivered {w w' : World} (h : DeliveryInvariant w) (hkeeps : Keeps w w')
    {messageId : String} {statuses : RecipientStatuses}
    (hgrows : DeliveryGrows messageId statuses w.db w'.db) : DeliveryInvariant w' := by
  generalize hdb : w'.db = db' at hgrows
  cases hgrows with
  | mk row event delivered occurredAt at' hrow =>
    have hmem : (row, event) ∈ w.db.changes.sent := List.mem_of_find?_eq_some hrow
    have hid : event.member "id" = some (.str messageId) := by
      obtain ⟨k, _, hid⟩ := h.drawn _ hmem
      have hfound := List.find?_some hrow
      rw [decide_eq_true_eq, hid] at hfound
      rw [hid]
      exact congrArg (fun text => some (Json.str text)) (Option.some.inj hfound)
    refine ⟨hkeeps.transactionDepth.trans h.transactionDepth, hkeeps.uuids ▸ h.injective, ?_, ?_⟩
    · rw [hdb, Database.record_changes, Journal.rows_append]
      exact .delivery _ (row, event) messageId statuses delivered occurredAt rfl hmem hid rfl h.log
    · intro r hr
      rw [hdb, Database.record_changes, sent_append_other fun _ hbad => by cases hbad] at hr
      obtain ⟨k, hk, hid⟩ := h.drawn r hr
      exact ⟨k, hk.trans_le hkeeps.draws, hkeeps.uuids ▸ hid⟩

theorem deliveryStep_invariant {w : World} (h : DeliveryInvariant w) (op : DeliveryOp) :
    DeliveryInvariant (deliveryStep w op) := by
  cases op with
  | commitMessage input => exact h.committed (commitMessage_grows h.transactionDepth input)
  | appendMessageDelivery messageId statuses =>
    have hsettles : Settles (Storage.appendMessageDelivery messageId statuses) w
        fun _ db' => DeliveryGrows messageId statuses w.db db' :=
      write_settles rfl h.transactionDepth (appendMessageDelivery_grows w messageId statuses)
    rcases hsettles.outcome with ⟨_, _, hgrows⟩ | ⟨_, hdb⟩
    · exact h.delivered hsettles.keeps hgrows
    · exact h.of_unchanged hsettles.keeps hdb

theorem deliveryLog_of_quiet {rows : List Change} (h : ∀ c ∈ rows, Change.isMessage c = false) :
    DeliveryLog rows := by
  induction rows using List.reverseRecOn with
  | nil => exact .nil
  | append_singleton rows c ih =>
    exact .other c (h c (List.mem_append_right _ List.mem_cons_self))
      (ih fun d hd => h d (List.mem_append_left _ hd))

/-- A direct message that waits for its recipient. -/
def letter : CanonicalMessageCommitInput where
  channelId := none
  senderSessionId := "alice"
  body := "weigh anchor"
  target := some ⟨some "direct", some "bob", none, none⟩
  replyToEventId := none
  correlation := none
  deliveryStatuses := some [("bob", .queued)]
  attachmentReferences := none

def twoSessions : World :=
  let setUp : Command MutationReceipt := do
    let _ ← insertSession { id := "alice", role := some .operator }
    insertSession { id := "bob", role := some .worker }
  (setUp (World.initial .empty tally tally)).2

theorem tally_injective : Function.Injective tally := by
  intro m n h
  have hlist := congrArg (fun s => s.toList.length) h
  simpa [tally] using hlist

end Wardroom.Feeds
