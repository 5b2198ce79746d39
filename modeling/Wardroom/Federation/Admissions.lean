import Wardroom.Federation.ChannelHome
import Wardroom.Storage.Apart

/-! # Who decides on the admission of a peer

Grants and revocations are the only steps of a store that change who is
admitted to which channel, and both need the live operator that owns the
channel.
-/

namespace Wardroom.Federation
open Wardroom.Library Wardroom.Domain Wardroom.Storage Prog

structure Owns (db : Database) (channelId actorSessionId : String) : Prop where
  owner : (db.currentChannel channelId).bind Channel.ownerOperatorSessionId = some actorSessionId
  live : db.sessionLive actorSessionId = true
  operator : db.sessionRole actorSessionId = some .operator

/-- What a decision of an owner on a peer leaves. -/
structure Decided (channelId peerAuthorityId actorSessionId : String) (granted : Bool) (db db' : Database) :
    Prop where
  owns : Owns db channelId actorSessionId
  admitted : ∀ c p, isFederatedPeerAdmitted db' c p =
    if (c, p) = (channelId, peerAuthorityId) then granted else isFederatedPeerAdmitted db c p

section Table

variable {db db' : Database} {channelId peerAuthorityId actorSessionId : String}

theorem isFederatedPeerAdmitted_eq (db : Database) (channelId peerAuthorityId : String) :
    isFederatedPeerAdmitted db channelId peerAuthorityId =
      (db.federationChannelAdmissions.find? (channelId, peerAuthorityId)).any fun a => a.revokedAt.isNone := by
  rw [Bool.eq_iff_iff]
  simp only [isFederatedPeerAdmitted, List.any_eq_true, Bool.and_eq_true, decide_eq_true_eq, Option.any_eq_true]
  constructor
  · rintro ⟨a, hmem, ⟨rfl, rfl⟩, hopen⟩
    exact ⟨a, Table.find?_of_mem hmem, hopen⟩
  · rintro ⟨a, hfind, hopen⟩
    obtain ⟨hmem, hkey⟩ := Table.find?_some hfind
    obtain ⟨hchannel, hpeer⟩ := Prod.mk.inj hkey
    exact ⟨a, hmem, ⟨hchannel, hpeer⟩, hopen⟩

theorem admitted_of_find {granted : Bool}
    (hkey : (db'.federationChannelAdmissions.find? (channelId, peerAuthorityId)).any (fun a => a.revokedAt.isNone) =
      granted)
    (hother : ∀ k, k ≠ (channelId, peerAuthorityId) →
      db'.federationChannelAdmissions.find? k = db.federationChannelAdmissions.find? k) (c p : String) :
    isFederatedPeerAdmitted db' c p =
      if (c, p) = (channelId, peerAuthorityId) then granted else isFederatedPeerAdmitted db c p := by
  rw [isFederatedPeerAdmitted_eq, isFederatedPeerAdmitted_eq]
  by_cases hsame : (c, p) = (channelId, peerAuthorityId)
  · rw [if_pos hsame, hsame]
    exact hkey
  · rw [if_neg hsame, hother _ hsame]

section Update

variable {t : Table FederationChannelAdmission.key} {k k' : String × String}
  {q : FederationChannelAdmission → Prop} [DecidablePred q]
  {f : FederationChannelAdmission → FederationChannelAdmission}

theorem find?_update_off (hf : ∀ a, (f a).key = a.key) (hne : k' ≠ k) :
    (t.update (fun a => a.key = k ∧ q a) f hf).find? k' = t.find? k' := by
  rw [Table.find?_rewrite (Table.rows_update t _ f hf) hf]
  cases hfind : t.find? k' with
  | none => rfl
  | some a =>
    have hkey : a.key ≠ k := (Table.find?_some hfind).2 ▸ hne
    simp [hkey]

theorem find?_update_on (hf : ∀ a, (f a).key = a.key) :
    (t.update (fun a => a.key = k ∧ q a) f hf).find? k = (t.find? k).map fun a => if q a then f a else a := by
  rw [Table.find?_rewrite (Table.rows_update t _ f hf) hf]
  cases hfind : t.find? k with
  | none => rfl
  | some a => simp [(Table.find?_some hfind).2]

theorem find?_grant (hf : ∀ a, (f a).key = a.key) {granted : FederationChannelAdmission}
    (hopen : granted.revokedAt = none) (hopens : ∀ a, (f a).revokedAt = none) :
    let renewed := (t.insert? granted).getD
      (t.update (fun a => a.key = granted.key ∧ a.revokedAt.isSome) f hf)
    (renewed.find? granted.key).any (fun a => a.revokedAt.isNone) = true ∧
      ∀ k, k ≠ granted.key → renewed.find? k = t.find? k := by
  intro renewed
  cases hinsert : t.insert? granted with
  | some u =>
    have hrenewed : renewed = u := by
      change (t.insert? granted).getD _ = u
      rw [hinsert]
      rfl
    rw [hrenewed]
    refine ⟨?_, fun k hne => ?_⟩
    · rw [Table.find?_insert hinsert, if_pos rfl, Option.any_some, hopen]
      rfl
    · rw [Table.find?_insert hinsert, if_neg (Ne.symm hne)]
  | none =>
    have hrenewed : renewed = t.update (fun a => a.key = granted.key ∧ a.revokedAt.isSome) f hf := by
      change (t.insert? granted).getD _ = _
      rw [hinsert]
      rfl
    rw [hrenewed]
    refine ⟨?_, fun k hne => find?_update_off hf hne⟩
    have htaken := (Table.has_iff _ _).mp (Table.insert?_eq_none.mp hinsert)
    obtain ⟨a, hmem, hkey⟩ := List.mem_map.mp htaken
    have hfind : t.find? granted.key = some a := hkey ▸ Table.find?_of_mem hmem
    rw [find?_update_on, hfind]
    cases hrevoked : a.revokedAt <;> simp [hrevoked, hopens]

theorem find?_revoke {a : FederationChannelAdmission} (hf : ∀ a, (f a).key = a.key) (hfind : t.find? k = some a)
    (hopen : a.revokedAt = none) (hcloses : ∀ a, (f a).revokedAt ≠ none) :
    ((t.update (fun a => a.key = k ∧ a.revokedAt = none) f hf).find? k).any (fun a => a.revokedAt.isNone) = false ∧
      ∀ k', k' ≠ k →
        (t.update (fun a => a.key = k ∧ a.revokedAt = none) f hf).find? k' = t.find? k' := by
  refine ⟨?_, fun k' hne => find?_update_off hf hne⟩
  rw [find?_update_on, hfind]
  simpa [hopen] using Option.isSome_iff_ne_none.mpr (hcloses a)

end Update

end Table

section Decisions

variable (w : World) (channelId peerAuthorityId actorSessionId : String)

theorem assertFederatedAdmissionOwner_owns (requireActiveChannel : Bool) :
    wp (assertFederatedAdmissionOwner channelId actorSessionId requireActiveChannel)
      (fun _ w' => w' = w ∧ Owns w.db channelId actorSessionId) (fun _ w' => w' = w) w := by
  simp only [assertFederatedAdmissionOwner, wp_bind, wp_database]
  cases hchannel : w.db.currentChannel channelId with
  | none => rfl
  | some channel =>
    simp only [wp_bind, wp_throwIf]
    refine ⟨fun _ => trivial, fun _ => ⟨fun _ => trivial, fun howner => ⟨trivial, ?_⟩⟩⟩
    obtain ⟨hlive, hrole, howns⟩ := not_not.mp howner
    exact ⟨by rw [hchannel]; exact howns, hlive, hrole⟩

theorem grant_settles (hrest : w.transactionDepth = 0) :
    Settles (grantFederatedChannelAdmission channelId peerAuthorityId actorSessionId) w
      fun _ db' => Decided channelId peerAuthorityId actorSessionId true w.db db' := by
  refine write_settles rfl hrest (ensures_write fun n => ?_)
  unfold Ensures
  rw [wp_bind]
  refine wp_mono (assertFederatedAdmissionOwner_owns _ channelId actorSessionId true) ?_ ?_
  · rintro _ w' ⟨rfl, howns⟩
    simp only [wp_bind, wp_now, wp_modifyDatabase, wp_database, wp_pure]
    refine ⟨⟨howns, ?_⟩, ⟨rfl, rfl, rfl, le_rfl⟩⟩
    obtain ⟨hkey, hother⟩ := @find?_grant w.db.federationChannelAdmissions
      (fun a => { a with grantedBySessionId := actorSessionId, grantedAt := w.clock w.ticks,
                         revokedBySessionId := none, revokedAt := none }) (fun _ => rfl)
      ⟨channelId, peerAuthorityId, actorSessionId, w.clock w.ticks, none, none⟩ rfl fun _ => rfl
    exact admitted_of_find hkey hother
  · rintro _ w' rfl
    exact ⟨rfl, rfl, rfl, le_rfl⟩

theorem revoke_settles (hrest : w.transactionDepth = 0) :
    Settles (revokeFederatedChannelAdmission channelId peerAuthorityId actorSessionId) w
      fun _ db' => Decided channelId peerAuthorityId actorSessionId false w.db db' := by
  refine write_settles rfl hrest (ensures_write fun n => ?_)
  unfold Ensures
  rw [wp_bind]
  refine wp_mono (assertFederatedAdmissionOwner_owns _ channelId actorSessionId false) ?_ ?_
  · rintro _ w' ⟨rfl, howns⟩
    simp only [wp_bind, wp_database]
    cases hfind : w.db.federationChannelAdmissions.find? (channelId, peerAuthorityId) with
    | none => exact .refl _
    | some a =>
      simp only [wp_ite, wp_bind, wp_now, wp_modifyDatabase, wp_database, wp_pure]
      refine ⟨fun hopen => ⟨⟨howns, ?_⟩, ⟨rfl, rfl, rfl, le_rfl⟩⟩, fun hrevoked => ⟨⟨howns, ?_⟩, .refl _⟩⟩
      · obtain ⟨hkey, hother⟩ := find?_revoke
          (f := fun a => { a with revokedBySessionId := some actorSessionId, revokedAt := some (w.clock w.ticks) })
          (fun _ => rfl) hfind hopen fun _ => Option.some_ne_none _
        exact admitted_of_find hkey hother
      · refine admitted_of_find ?_ fun k hne => rfl
        rw [hfind]
        simpa using Option.isSome_iff_ne_none.mpr hrevoked
  · rintro _ w' rfl
    exact ⟨rfl, rfl, rfl, le_rfl⟩

theorem write_ok {α : Type} {w w' : World} {body : Command α} {a : α} (hrest : w.transactionDepth = 0)
    (h : write body w = (.ok a, w')) : w.importSession = none := by
  by_contra himport
  rw [write, if_neg (by omega), if_pos (Option.isSome_iff_ne_none.mpr himport)] at h
  cases (Prod.mk.inj h).1

end Decisions
end Wardroom.Federation
