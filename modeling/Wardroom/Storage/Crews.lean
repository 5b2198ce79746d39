import Wardroom.Storage.Frames
import Wardroom.Storage.RuntimeEdits

/-! # The crew of a channel

The crew of a channel is its memberships, each with the row of its session. A
write to a session reaches every crew the session is in; the runtimes of the
daemon reach none.
-/

namespace Wardroom.Storage
open Wardroom.Library Wardroom.Domain Prog

/-- The memberships of a channel, each with the row of its session. -/
def Database.crew (db : Database) (channelId : String) : List (Membership × Option Session) :=
  (db.memberships.select fun m => m.channelId = channelId).map fun m =>
    (m, db.currentSession m.sessionId)

/-- The session is a member of no channel but this one, present or past. -/
def Database.Only (db : Database) (channelId sessionId : String) : Prop :=
  ∀ m ∈ db.memberships.rows, m.sessionId = sessionId → m.channelId = channelId

def Database.staff (db : Database) : Table Session.id × Table Membership.key :=
  (db.sessions, db.memberships)

section Crews

variable {db db' : Database} {channelId other sessionId : String}

theorem crew_of_staff (h : db'.staff = db.staff) : db'.crew channelId = db.crew channelId := by
  obtain ⟨hsessions, hmemberships⟩ := Prod.mk.inj h
  unfold Database.crew Database.currentSession
  rw [hsessions, hmemberships]

theorem crew_congr
    (hmemberships : (db'.memberships.select fun m => m.channelId = channelId) =
      db.memberships.select fun m => m.channelId = channelId)
    (hsessions : ∀ m ∈ db.memberships.rows, m.channelId = channelId →
      db'.currentSession m.sessionId = db.currentSession m.sessionId) :
    db'.crew channelId = db.crew channelId := by
  unfold Database.crew
  rw [hmemberships]
  refine List.map_congr_left fun m hm => ?_
  obtain ⟨hmem, hchannel⟩ := Table.mem_select.mp hm
  rw [hsessions m hmem (of_decide_eq_true hchannel)]

theorem session_ne_of_only (h : db.Only channelId sessionId) (hother : other ≠ channelId)
    {m : Membership} (hm : m ∈ db.memberships.rows) (hchannel : m.channelId = other) :
    m.sessionId ≠ sessionId :=
  fun hsession => hother (hchannel.symm.trans (h m hm hsession))

theorem crew_updateSession (h : db.Only channelId sessionId) (hother : other ≠ channelId)
    {p : Session → Bool} (hp : ∀ s, p s = true → s.id = sessionId) {f : Session → Session}
    (hf : ∀ s, (f s).id = s.id) :
    ({ db with sessions := db.sessions.update p f hf } : Database).crew other = db.crew other := by
  refine crew_congr rfl fun m hm hchannel => ?_
  have hne := session_ne_of_only h hother hm hchannel
  unfold Database.currentSession
  rw [Table.find?_rewrite (Table.rows_update _ _ _ _) hf]
  cases hs : db.sessions.find? m.sessionId with
  | none => rfl
  | some s =>
    have hid : s.id = m.sessionId := (Table.find?_some hs).2
    have hps : p s ≠ true := fun h => hne (hid.symm.trans (hp s h))
    simp [hps]

theorem crew_insertSession {s : Session} (h : db.Only channelId s.id) (hother : other ≠ channelId)
    {sessions : Table Session.id} (hinsert : db.sessions.insert? s = some sessions) :
    ({ db with sessions := sessions } : Database).crew other = db.crew other := by
  refine crew_congr rfl fun m hm hchannel => ?_
  have hne := session_ne_of_only h hother hm hchannel
  exact (Table.find?_insert hinsert _).trans (if_neg hne.symm)

theorem crew_insertMembership {m : Membership} (hother : other ≠ m.channelId)
    {memberships : Table Membership.key} (hinsert : db.memberships.insert? m = some memberships) :
    ({ db with memberships := memberships } : Database).crew other = db.crew other := by
  have hselect : (memberships.select fun m => m.channelId = other) =
      db.memberships.select fun m => m.channelId = other := by
    unfold Table.select
    rw [(Table.insert?_eq_some.mp hinsert).2, List.filter_append]
    simp [hother.symm]
  unfold Database.crew
  rw [hselect]
  rfl

theorem crew_updateMembership (db : Database) (h : db.Only channelId sessionId) (hother : other ≠ channelId)
    {p : Membership → Bool} (hp : ∀ m, p m = true → m.sessionId = sessionId)
    {f : Membership → Membership} (hf : ∀ m, (f m).key = m.key) :
    ({ db with memberships := db.memberships.update p f hf } : Database).crew other =
      db.crew other := by
  have hselect : ((db.memberships.update p f hf).select fun m => m.channelId = other) =
      db.memberships.select fun m => m.channelId = other := by
    unfold Table.select
    rw [Table.rows_update]
    have hrewrite : ∀ m ∈ db.memberships.rows,
        ((if p m then f m else m).channelId = other ↔ m.channelId = other) ∧
          (m.channelId = other → (if p m then f m else m) = m) := by
      intro m hm
      have hkey : (f m).channelId = m.channelId := congrArg Prod.fst (hf m)
      by_cases hpm : p m = true
      · have hne : m.channelId ≠ other := fun hchannel =>
          session_ne_of_only h hother hm hchannel (hp m hpm)
        simp [hpm, hkey, hne]
      · simp [hpm]
    generalize db.memberships.rows = rows at hrewrite
    induction rows with
    | nil => rfl
    | cons m rows ih =>
      obtain ⟨hsame, hkept⟩ := hrewrite m (List.mem_cons_self ..)
      have hrest := ih fun m' hm' => hrewrite m' (List.mem_cons_of_mem _ hm')
      rw [List.map_cons, List.filter_cons, List.filter_cons, hrest]
      by_cases hchannel : m.channelId = other
      · rw [hkept hchannel]
      · have hoff : ¬(if p m then f m else m).channelId = other := fun h => hchannel (hsame.mp h)
        simp only [decide_eq_true_eq]
        rw [if_neg hoff, if_neg hchannel]
  unfold Database.crew
  rw [hselect]
  rfl

end Crews

/-- No other channel can tell the two databases apart, and no session joined another channel. -/
structure Within (channelId : String) (db db' : Database) : Prop where
  crew : ∀ other ≠ channelId, db'.crew other = db.crew other
  only : ∀ sessionId, db.Only channelId sessionId → db'.Only channelId sessionId

structure Adds (channelId : String) (db db' : Database) : Prop extends Within channelId db db' where
  current : ∀ id, db'.currentSession id = none → db.currentSession id = none

structure Ends (channelId : String) (db db' : Database) : Prop extends Within channelId db db' where
  live : ∀ id, db'.sessionLive id = true → db.sessionLive id = true

/-- From one database, a command leads to a database with the property, however it ends. -/
def LeadsTo {α : Type} (P : Database → Prop) (db : Database) (x : Command α) : Prop :=
  ∀ w, w.db = db → wp x (fun _ w' => P w'.db) (fun _ w' => P w'.db) w

section Commands

variable {α : Type} {P : Database → Prop} {db : Database} {channelId sessionId : String}

theorem Within.refl (channelId : String) (db : Database) : Within channelId db db :=
  ⟨fun _ _ => rfl, fun _ h => h⟩

theorem Within.trans {db' db'' : Database} (h : Within channelId db db')
    (h' : Within channelId db' db'') : Within channelId db db'' :=
  ⟨fun other hother => (h'.crew other hother).trans (h.crew other hother),
    fun s hs => h'.only s (h.only s hs)⟩

theorem within_of_staff {db' : Database} (h : db'.staff = db.staff) : Within channelId db db' := by
  refine ⟨fun _ _ => crew_of_staff h, fun s hs => ?_⟩
  unfold Database.Only
  rw [(Prod.mk.inj h).2]
  exact hs

theorem LeadsTo.ends {x : Command α} {w : World} (h : LeadsTo P w.db x) : P (x w).2.db := by
  rcases cases_of_wp (h w rfl) with ⟨_, _, hP⟩ | ⟨_, _, hP⟩ <;> exact hP

theorem leadsTo_write {body : Command α} (hdb : P db) (h : LeadsTo P db body) :
    LeadsTo P db (write body) := by
  intro w hw
  have hhere : P w.db := by rw [hw]; exact hdb
  by_cases hdepth : 0 < w.transactionDepth
  · exact (wp_write_nested body hdepth).mpr (h w hw)
  · by_cases himport : w.importSession = none
    · rw [wp_write_outermost body (by omega) himport]
      exact wp_mono (h w.entered hw) (fun _ _ hP => hP) fun _ _ _ => hhere
    · unfold wp write
      rw [if_neg hdepth, if_pos (Option.isSome_iff_ne_none.mpr himport)]
      exact hhere

theorem unmoved_staff (payload : Payload) : Unmoved Database.staff payload := fun _ _ _ _ => rfl

theorem leads_after {x : Command α} {w : World} (hx : Leaves Database.staff x)
    (hP : ∀ db', db'.staff = w.db.staff → P db') :
    wp x (fun _ w' => P w'.db) (fun _ w' => P w'.db) w :=
  wp_mono (Frame.wp (leaves_iff_frame.mp hx) w) (fun _ _ h => hP _ h) fun _ _ h => hP _ h

theorem currentSession_of_staff {db' : Database} (h : db'.staff = db.staff) (id : String) :
    db'.currentSession id = db.currentSession id := by
  unfold Database.currentSession
  rw [(Prod.mk.inj h).1]

theorem Adds.refl (channelId : String) (db : Database) : Adds channelId db db :=
  ⟨Within.refl channelId db, fun _ h => h⟩

theorem Adds.trans {db' db'' : Database} (h : Adds channelId db db') (h' : Adds channelId db' db'') :
    Adds channelId db db'' :=
  ⟨h.toWithin.trans h'.toWithin, fun id hnone => h.current id (h'.current id hnone)⟩

theorem adds_of_staff {db' : Database} (h : db'.staff = db.staff) : Adds channelId db db' :=
  ⟨within_of_staff h, fun id hnone => by rwa [currentSession_of_staff h] at hnone⟩

theorem Ends.refl (channelId : String) (db : Database) : Ends channelId db db :=
  ⟨Within.refl channelId db, fun _ h => h⟩

theorem Ends.trans {db' db'' : Database} (h : Ends channelId db db') (h' : Ends channelId db' db'') :
    Ends channelId db db'' :=
  ⟨h.toWithin.trans h'.toWithin, fun id hlive => h.live id (h'.live id hlive)⟩

theorem ends_of_staff {db' : Database} (h : db'.staff = db.staff) : Ends channelId db db' := by
  refine ⟨within_of_staff h, fun id hlive => ?_⟩
  unfold Database.sessionLive at hlive ⊢
  rwa [currentSession_of_staff h] at hlive

theorem insertSession_adds {input : SessionInput} (h : db.Only channelId input.id) :
    LeadsTo (Adds channelId db) db (insertSession input) := by
  have hrefl := Adds.refl channelId db
  refine leadsTo_write hrefl fun w hw => ?_
  subst hw
  simp only [wp_bind, wp_database, wp_throwIf, wp_now, wp_constrained, wp_modifyDatabase]
  refine ⟨fun _ => hrefl, fun _ => ⟨fun sessions hinsert => ?_, fun _ => hrefl⟩⟩
  have hinserted : Adds channelId w.db { w.db with sessions := sessions } := by
    refine ⟨⟨fun other hother => crew_insertSession h hother hinsert, fun _ honly => honly⟩,
      fun id hnone => ?_⟩
    have hfind : sessions.find? id = none := hnone
    rw [Table.find?_insert hinsert] at hfind
    by_cases hid : input.id = id
    · rw [if_pos hid] at hfind
      cases hfind
    · rwa [if_neg hid] at hfind
  exact leads_after (P := Adds channelId w.db) (leaves_appendChange (unmoved_staff _) _)
    fun db' hsame => hinserted.trans (adds_of_staff hsame)

theorem insertMembership_adds {role : Option SessionRole} :
    LeadsTo (Adds channelId db) db (insertMembership channelId sessionId role) := by
  have hrefl := Adds.refl channelId db
  refine leadsTo_write hrefl fun w hw => ?_
  subst hw
  simp only [wp_bind, wp_database, wp_throwIf, wp_ite]
  refine ⟨fun _ => hrefl, fun _ => ⟨fun _ => hrefl, fun _ => ⟨fun _ => ?_, fun _ => ?_⟩⟩⟩
  · exact leads_after (P := Adds channelId w.db) leaves_unchanged fun db' hsame =>
      adds_of_staff hsame
  · simp only [wp_now, wp_bind, wp_constrained, wp_modifyDatabase]
    refine ⟨fun memberships hinsert => ?_, fun _ => hrefl⟩
    have hinserted : Adds channelId w.db { w.db with memberships := memberships } := by
      refine ⟨⟨fun other hother => crew_insertMembership hother hinsert, fun s honly m hm hs => ?_⟩,
        fun _ hnone => hnone⟩
      have hrows : m ∈ memberships.rows := hm
      rw [(Table.insert?_eq_some.mp hinsert).2, List.mem_append, List.mem_singleton] at hrows
      rcases hrows with hold | rfl
      · exact honly m hold hs
      · rfl
    exact leads_after (P := Adds channelId w.db) (leaves_appendChange (unmoved_staff _) _)
      fun db' hsame => hinserted.trans (adds_of_staff hsame)

def Database.withEnded (db : Database) (sessionId endedAt : String) : Database :=
  { db with
    sessions := db.sessions.update (fun s => s.id = sessionId)
      (fun s => { s with endedAt := some endedAt }) (Session.id_endedAt endedAt)
    memberships := db.memberships.update (fun m => m.sessionId = sessionId ∧ m.active)
      (fun m => { m with sessionEndedAt := some endedAt }) (Membership.key_sessionEndedAt endedAt) }

theorem withEnded_ends (endedAt : String) (h : db.Only channelId sessionId) :
    Ends channelId db (db.withEnded sessionId endedAt) := by
  refine ⟨⟨fun other hother => ?_, fun s honly m hm hs => ?_⟩, fun id hlive => ?_⟩
  · have hsessions := crew_updateSession h hother (p := fun s => s.id = sessionId)
      (fun s hs => of_decide_eq_true hs) (Session.id_endedAt endedAt)
    have hmemberships (sessions : Table Session.id) := crew_updateMembership
      { db with sessions := sessions } (p := fun m => m.sessionId = sessionId ∧ m.active)
      h hother (fun m hm => (of_decide_eq_true hm).1) (Membership.key_sessionEndedAt endedAt)
    exact (hmemberships _).trans hsessions
  · have hrows : m ∈ (db.memberships.update (fun m => m.sessionId = sessionId ∧ m.active)
        (fun m => { m with sessionEndedAt := some endedAt })
        (Membership.key_sessionEndedAt endedAt)).rows := hm
    rw [Table.rows_update] at hrows
    obtain ⟨m', hm', rfl⟩ := List.mem_map.mp hrows
    have hsame : (if decide (m'.sessionId = sessionId ∧ m'.active = true) then
        { m' with sessionEndedAt := some endedAt } else m').channelId = m'.channelId ∧
        (if decide (m'.sessionId = sessionId ∧ m'.active = true) then
        { m' with sessionEndedAt := some endedAt } else m').sessionId = m'.sessionId := by
      split <;> exact ⟨rfl, rfl⟩
    rw [hsame.1]
    exact honly m' hm' (hsame.2.symm.trans hs)
  · unfold Database.sessionLive Database.currentSession at hlive ⊢
    have hfind := Table.find?_rewrite (k := id) (Table.rows_update db.sessions
      (fun s => s.id = sessionId) _ (Session.id_endedAt endedAt)) (Session.id_endedAt endedAt)
    change ((db.withEnded sessionId endedAt).sessions.find? id).any _ = true at hlive
    rw [show (db.withEnded sessionId endedAt).sessions.find? id = _ from hfind] at hlive
    cases hs : db.sessions.find? id with
    | none =>
      rw [hs] at hlive
      cases hlive
    | some s =>
      rw [hs] at hlive
      by_cases hid : s.id = sessionId
      · simp [hid] at hlive
      · simpa [hid] using hlive

theorem markSessionEnded_ends (h : db.Only channelId sessionId) :
    LeadsTo (Ends channelId db) db (markSessionEnded sessionId) := by
  have hrefl := Ends.refl channelId db
  refine leadsTo_write hrefl fun w hw => ?_
  subst hw
  simp only [wp_bind, wp_database, wp_throwIf, wp_now, wp_modifyDatabase]
  refine ⟨fun _ => hrefl, fun _ => ?_⟩
  exact leads_after (P := Ends channelId w.db) (leaves_appendChange (unmoved_staff _) _)
    fun db' hsame => (withEnded_ends (w.clock w.ticks) h).trans (ends_of_staff hsame)

theorem crew_sameThread {other providerThreadId : String}
    (hset : (db.currentSession sessionId).bind Session.providerThreadId = some providerThreadId) :
    ({ db with
        sessions := db.sessions.update (fun s => s.id = sessionId)
          (fun s => { s with providerThreadId := some providerThreadId }) fun _ => rfl } :
      Database).crew other = db.crew other := by
  refine crew_congr rfl fun m _ _ => ?_
  unfold Database.currentSession at hset ⊢
  have hid (s : Session) :
      ({ s with providerThreadId := some providerThreadId } : Session).id = s.id := rfl
  rw [Table.find?_rewrite (Table.rows_update _ _ _ hid) hid]
  cases hs : db.sessions.find? m.sessionId with
  | none => rfl
  | some s =>
    by_cases hsession : s.id = sessionId
    · rw [← hsession, (Table.find?_some hs).2, hs] at hset
      have hthread : s.providerThreadId = some providerThreadId := hset
      simp [← hthread]
    · simp [hsession]

theorem setSessionProviderThreadId_within {providerThreadId : String}
    (h : db.Only channelId sessionId ∨
      (db.currentSession sessionId).bind Session.providerThreadId = some providerThreadId) :
    LeadsTo (Within channelId db) db (setSessionProviderThreadId sessionId providerThreadId) := by
  intro w hw
  subst hw
  unfold setSessionProviderThreadId
  rw [wp_bind, wp_throwIf]
  refine ⟨fun _ => Within.refl _ _, fun _ => ?_⟩
  rw [wp_bind, wp_modifyDatabase]
  refine leads_after (P := Within channelId w.db) (leaves_bind leaves_database fun db => ?_)
    fun db' hsame => ?_
  · cases db.currentSession sessionId with
    | none => exact leaves_fail _
    | some value => exact leaves_pure _
  refine ⟨fun other hother => (crew_of_staff hsame).trans ?_, fun s honly => ?_⟩
  rotate_left
  · unfold Database.Only
    rw [(Prod.mk.inj hsame).2]
    exact honly
  rcases h with honly | hset
  · exact crew_updateSession honly hother (fun s hs => of_decide_eq_true hs) _
  · exact crew_sameThread hset

end Commands
end Wardroom.Storage
