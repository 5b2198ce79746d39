import Wardroom.Feeds.Delivery

/-! # The status that the fold reports of a recipient

A message has the statuses of its last delivery change, or of its commit. Each
row that a journal gains changes what is reported in its own way.
-/

namespace Wardroom.Storage
open Wardroom.Library Wardroom.Domain

theorem statusOf_putStatus (statuses : RecipientStatuses) (id : String) (status : DeliveryStatus) (r : String) :
    statusOf (putStatus statuses id status) r = if r = id then some status else statusOf statuses r := by
  induction statuses with
  | nil => simp only [putStatus, statusOf, eq_comm]
  | cons first rest ih =>
    obtain ⟨k, v⟩ := first
    simp only [putStatus]
    by_cases hk : k = id
    · subst hk
      rw [if_pos rfl]
      simp only [statusOf, eq_comm]
      split <;> rfl
    · rw [if_neg hk]
      simp only [statusOf]
      by_cases hr : k = r
      · rw [if_pos hr, if_pos hr, if_neg (hr ▸ hk)]
      · rw [if_neg hr, if_neg hr, ih]

theorem member_statusesToJson (statuses : RecipientStatuses) (r : String) :
    (statusesToJson statuses).member r = (statusOf statuses r).map DeliveryStatus.toJson := by
  unfold statusesToJson
  rw [Json.member_obj]
  induction statuses with
  | nil => rfl
  | cons first rest ih =>
    rw [List.map_cons, Json.lookup_cons, statusOf]
    split
    · rfl
    · exact ih

theorem DeliveryStatus.delivered_of_toJson {status : DeliveryStatus}
    (h : DeliveryStatus.toJson status = .str "delivered") : status = .delivered := by
  cases status with
  | delivered => rfl
  | queued => simp [DeliveryStatus.toJson] at h
  | undeliverable => simp [DeliveryStatus.toJson] at h

end Wardroom.Storage

namespace Wardroom.Feeds
open Wardroom.Library Wardroom.Domain Wardroom.Storage

def foldedStatuses (rows : List Change) (id : String) : Option Json :=
  ((foldMessageEvents rows).find? (hasId id)).bind fun e => e.member "recipientStatuses"

def foldedStatus (rows : List Change) (id recipient : String) : Option Json :=
  (foldedStatuses rows id).bind fun statuses => statuses.member recipient

section

variable {rows : List Change} {c : Change} {id : String}

theorem foldMessageEvents_append_other (h : Change.isMessage c = false) :
    foldMessageEvents (rows ++ [c]) = foldMessageEvents rows := by
  rw [foldMessageEvents_append]
  cases hc : c.payload <;> simp [foldMessageEvent, Change.isMessage, hc] at h ⊢

theorem foldedStatuses_append_quiet {extra : List Change} (h : ∀ c ∈ extra, Change.isMessage c = false) (id : String) :
    foldedStatuses (rows ++ extra) id = foldedStatuses rows id := by
  induction extra using List.reverseRecOn with
  | nil => rw [List.append_nil]
  | append_singleton extra c ih =>
    rw [← List.append_assoc, foldedStatuses,
      foldMessageEvents_append_other (h c (List.mem_append_right _ List.mem_cons_self))]
    exact ih fun d hd => h d (List.mem_append_left _ hd)

theorem mem_folded (h : DeliveryLog rows) {e : Json} (he : e ∈ foldMessageEvents rows) :
    ∃ r ∈ sentOf rows, e.member "id" = r.2.member "id" := by
  obtain ⟨r, hr, hfolded⟩ := mem_of_forall₂ h.folded he
  exact ⟨r, hr, hfolded.1⟩

theorem id_of_hasId {e : Json} (h : hasId id e = true) : e.member "id" = some (.str id) := by
  unfold hasId sameValue at h
  split at h
  · rename_i a b heq hb
    cases hb
    rw [heq, of_decide_eq_true h]
  all_goals rename_i hb; first | cases hb | cases h

theorem foldedStatuses_append_sent (hlog : DeliveryLog rows) {event : Json} (hsent : c.sent? = some event)
    (hid : event.member "id" = some (.str id)) (hfresh : ∀ r ∈ sentOf rows, r.2.member "id" ≠ some (.str id))
    (id' : String) :
    foldedStatuses (rows ++ [c]) id' =
      if id' = id then event.member "recipientStatuses" else foldedStatuses rows id' := by
  have hnew : ∀ e ∈ foldMessageEvents rows, e.member "id" ≠ some (.str id) := by
    intro e he hsame
    obtain ⟨r, hr, hr'⟩ := mem_folded hlog he
    exact hfresh r hr (hr'.symm.trans hsame)
  have hput : foldMessageEvents (rows ++ [c]) = foldMessageEvents rows ++ [event] := by
    rw [foldMessageEvents_append, foldMessageEvent, payload_of_sent hsent]
    exact putEvent_fresh hid hnew
  unfold foldedStatuses
  rw [hput, List.find?_append]
  by_cases hsame : id' = id
  · subst hsame
    have hnone : (foldMessageEvents rows).find? (hasId id') = none :=
      List.find?_eq_none.mpr fun e he hhas => hnew e he (id_of_hasId hhas)
    rw [hnone, if_pos rfl, Option.none_or, List.find?_cons_of_pos (by rw [hasId_of_id hid]; exact decide_eq_true rfl)]
    rfl
  · rw [if_neg hsame, List.find?_cons_of_neg (by rw [hasId_of_id hid]; simpa using Ne.symm hsame), List.find?_nil,
      Option.or_none]

theorem foldedStatuses_append_delivery (hlog : DeliveryLog rows) {statuses : RecipientStatuses}
    {delivered : List String} {at' : String} (hpayload : c.payload = .messageDelivery id statuses delivered at')
    {r : Change × Json} (hr : r ∈ sentOf rows) (hid : r.2.member "id" = some (.str id)) (id' : String) :
    foldedStatuses (rows ++ [c]) id' =
      if id' = id then some (statusesToJson statuses) else foldedStatuses rows id' := by
  have hmap : foldMessageEvents (rows ++ [c]) =
      (foldMessageEvents rows).map fun e => if hasId id e then deliver statuses delivered e else e := by
    rw [foldMessageEvents_append, foldMessageEvent, hpayload]
  have hsameId : (hasId id' ∘ fun e => if hasId id e then deliver statuses delivered e else e) = hasId id' := by
    funext e
    simp only [Function.comp_apply]
    split
    · simp only [hasId, deliver_id]
    · rfl
  unfold foldedStatuses
  rw [hmap, List.find?_map, hsameId]
  by_cases hsame : id' = id
  · subst hsame
    obtain ⟨e, he, hfolded⟩ := mem_of_forall₂ hlog.folded.flip hr
    have hsome : ((foldMessageEvents rows).find? (hasId id')).isSome = true :=
      List.find?_isSome.mpr ⟨e, he, by rw [hasId_of_id (hfolded.1.trans hid)]; exact decide_eq_true rfl⟩
    obtain ⟨e', he'⟩ := Option.isSome_iff_exists.mp hsome
    rw [he', if_pos rfl, Option.map_some, Option.bind_some, if_pos (List.find?_some he')]
    exact congrArg Prod.fst (deliver_state statuses delivered e')
  · rw [if_neg hsame]
    cases hfound : (foldMessageEvents rows).find? (hasId id') with
    | none => rfl
    | some e =>
      have hother : ¬ hasId id e = true := by
        intro hhas
        have hboth := (id_of_hasId (List.find?_some hfound)).symm.trans (id_of_hasId hhas)
        exact hsame (Json.str.inj (Option.some.inj hboth))
      rw [Option.map_some, Option.bind_some, if_neg hother]
      rfl

theorem delivered_of_folded {statuses : RecipientStatuses} {recipient : String}
    (hstatuses : foldedStatuses rows id = some (statusesToJson statuses))
    (h : foldedStatus rows id recipient = some (.str "delivered")) : statusOf statuses recipient = some .delivered := by
  rw [foldedStatus, hstatuses, Option.bind_some, member_statusesToJson] at h
  obtain ⟨status, hstatus, hdelivered⟩ := Option.map_eq_some_iff.mp h
  rw [hstatus, DeliveryStatus.delivered_of_toJson hdelivered]

theorem sent_of_foldedStatuses (hlog : DeliveryLog rows) {statuses : Json} (h : foldedStatuses rows id = some statuses) :
    ∃ r ∈ sentOf rows, r.2.member "id" = some (.str id) := by
  obtain ⟨e, hfound, -⟩ := Option.bind_eq_some_iff.mp h
  obtain ⟨r, hr, hsame⟩ := mem_folded hlog (List.mem_of_find?_eq_some hfound)
  exact ⟨r, hr, hsame.symm.trans (id_of_hasId (List.find?_some hfound))⟩

end

end Wardroom.Feeds
