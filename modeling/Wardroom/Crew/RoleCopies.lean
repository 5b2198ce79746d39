import Wardroom.Crew.Roles
import Wardroom.Storage.Frames

/-! # The two copies of a role

A role is stored with the session and with each of its memberships. A role
change rewrites both; a registration of a known session, a raw join and a
rotation swap write the membership alone. Where the copies agree, the roster,
which shows the one, and the membership queries, which read the other, tell the
same story.
-/

namespace Wardroom.Crew
open Wardroom.Library Wardroom.Domain Wardroom.Storage Wardroom.Application Wardroom.Rotation

/-- The session of an active membership is stored, with the role of the membership. -/
def RolesAgree (db : Database) : Prop :=
  ∀ m ∈ db.memberships.rows, m.active = true →
    ∃ s, db.currentSession m.sessionId = some s ∧ s.role = m.role

/-- Every stored session is still stored, with its role. -/
def KeepsSessionRoles (db db' : Database) : Prop :=
  ∀ id s, db.currentSession id = some s → ∃ s', db'.currentSession id = some s' ∧ s'.role = s.role

section Copies

variable {db db₁ db' : Database}

theorem KeepsSessionRoles.refl (db : Database) : KeepsSessionRoles db db :=
  fun _ s hs => ⟨s, hs, rfl⟩

theorem KeepsSessionRoles.trans (h : KeepsSessionRoles db db₁) (h' : KeepsSessionRoles db₁ db') :
    KeepsSessionRoles db db' := by
  intro id s hs
  obtain ⟨s₁, hs₁, hrole₁⟩ := h id s hs
  obtain ⟨s', hs', hrole'⟩ := h' id s₁ hs₁
  exact ⟨s', hs', hrole'.trans hrole₁⟩

theorem KeepsSessionRoles.of_sessions (h : db'.sessions = db.sessions) :
    KeepsSessionRoles db db' := by
  intro id s hs
  refine ⟨s, ?_, rfl⟩
  unfold Database.currentSession at hs ⊢
  rw [h, hs]

theorem KeepsSessionRoles.of_update {p : Session → Bool} {f : Session → Session}
    (hrows : db'.sessions.rows = db.sessions.rows.map fun s => if p s then f s else s)
    (hid : ∀ s, (f s).id = s.id) (hrole : ∀ s, (f s).role = s.role) :
    KeepsSessionRoles db db' := by
  intro id s hs
  refine ⟨if p s then f s else s, (Table.find?_rewrite hrows hid id).trans (congrArg _ hs), ?_⟩
  cases p s with
  | true => exact hrole s
  | false => rfl

theorem KeepsSessionRoles.sessionInserted {input : SessionInput}
    (h : SessionInserted input db db') : KeepsSessionRoles db db' := by
  cases h with
  | mk registeredAt at' sessions hinsert =>
    intro id s hs
    exact ⟨s, Table.find?_insert_of_some hinsert hs, rfl⟩

theorem KeepsSessionRoles.touched {sessionId : String} (h : Touched sessionId db db') :
    KeepsSessionRoles db db' := by
  induction h with
  | same => exact .refl db
  | columns _ assign hid _ hrole ih => exact ih.trans (.of_update rfl hid hrole)
  | delivery _ mode at' ih => exact ih.trans (.of_sessions rfl)

theorem RolesAgree.of_rows (hI : RolesAgree db) (hrows : db'.memberships.rows = db.memberships.rows)
    (hroles : KeepsSessionRoles db db') : RolesAgree db' := by
  intro m hm hactive
  rw [hrows] at hm
  obtain ⟨s, hs, hrole⟩ := hI m hm hactive
  obtain ⟨s', hs', hrole'⟩ := hroles _ s hs
  exact ⟨s', hs', hrole'.trans hrole⟩

/-- Ending rows leaves fewer of them to agree. -/
theorem RolesAgree.ended {p : Membership → Bool} {f : Membership → Membership} (hI : RolesAgree db)
    (hrows : db'.memberships.rows = db.memberships.rows.map fun m => if p m then f m else m)
    (hf : ∀ m, (f m).active = false) (hroles : KeepsSessionRoles db db') : RolesAgree db' := by
  intro m' hm' hactive
  rw [hrows] at hm'
  obtain ⟨m, hm, rfl⟩ := List.mem_map.mp hm'
  cases hp : p m with
  | true =>
    rw [if_pos hp, hf m] at hactive
    cases hactive
  | false =>
    rw [if_neg (by simp [hp])] at hactive
    obtain ⟨s, hs, hrole⟩ := hI m hm hactive
    obtain ⟨s', hs', hrole'⟩ := hroles _ s hs
    exact ⟨s', by simpa [hp] using hs', by simpa [hp] using hrole'.trans hrole⟩

theorem RolesAgree.inserted {m : Membership} {memberships : Table Membership.key}
    (hI : RolesAgree db) (hinsert : db.memberships.insert? m = some memberships)
    (hrow : ∃ s, db.currentSession m.sessionId = some s ∧ s.role = m.role) :
    RolesAgree { db with memberships := memberships } := by
  intro n hn hactive
  change n ∈ memberships.rows at hn
  rw [(Table.insert?_eq_some.mp hinsert).2, List.mem_append, List.mem_singleton] at hn
  rcases hn with hn | rfl
  · exact hI n hn hactive
  · exact hrow

variable {channelId sessionId : String}

theorem RolesAgree.joined {role : Option SessionRole}
    (hI : RolesAgree db) (h : Joined channelId sessionId role db db')
    (hrole : db.isActiveMember channelId sessionId = false → db.sessionRole sessionId = role) :
    RolesAgree db' := by
  cases h with
  | already => exact hI
  | joined joinedAt at' memberships _ hsession hnew hinsert =>
    obtain ⟨s, hs, _⟩ := Database.sessionLive_iff.mp hsession
    have hcopy : s.role = role := by
      have hstored := hrole hnew
      rwa [Database.sessionRole, hs] at hstored
    exact (hI.inserted hinsert ⟨s, hs, hcopy⟩).of_rows rfl (.of_sessions rfl)

theorem RolesAgree.left (hI : RolesAgree db)
    (h : Left channelId sessionId db db') : RolesAgree db' := by
  cases h with
  | mk => exact hI.ended rfl (fun m => by simp [Membership.active]) (.of_sessions rfl)

theorem RolesAgree.channelClosed {channelId : String} (hI : RolesAgree db)
    (h : ChannelClosed channelId db db') : RolesAgree db' := by
  cases h with
  | already => exact hI
  | mk => exact hI.ended rfl (fun m => by simp [Membership.active]) (.of_sessions rfl)

theorem RolesAgree.sessionEnded {sessionId : String} (hI : RolesAgree db)
    (h : SessionEnded sessionId db db') : RolesAgree db' := by
  cases h with
  | mk endedAt at' memberships =>
    exact hI.ended rfl (fun m => by simp [Membership.active])
      (.of_update rfl (Session.id_endedAt endedAt) fun _ => rfl)

theorem KeepsSessionRoles.of_stored (h : db'.storedRoles = db.storedRoles) :
    KeepsSessionRoles db db' := by
  intro id s hs
  have hrole : (db'.currentSession id).map Session.role = some s.role := by
    have hsame := congrFun h id
    unfold Database.storedRoles at hsame
    rw [hsame, hs, Option.map_some]
  exact Option.map_eq_some_iff.mp hrole

/-- What comes back with an operator are its memberships as an operator. -/
theorem RolesAgree.reactivated {sessionId : String} (hI : RolesAgree db)
    (h : Reactivated sessionId db db') : RolesAgree db' := by
  have hrestored (hoperator : db.sessionRole sessionId = some .operator) :
      RolesAgree (db.reactivate sessionId) := by
    have hroles : KeepsSessionRoles db (db.reactivate sessionId) :=
      .of_update rfl Session.id_reactivated fun _ => rfl
    intro m' hm' hactive
    obtain ⟨m, hm, rfl⟩ := List.mem_map.mp hm'
    cases hr : db.restorable sessionId m with
    | true =>
      obtain ⟨hsession, hrole, _⟩ := of_restorable hr
      obtain ⟨s, hs, hsrole⟩ := Option.bind_eq_some_iff.mp hoperator
      obtain ⟨s', hs', hrole'⟩ := hroles _ s hs
      refine ⟨s', ?_, ?_⟩
      · simpa only [if_true, hsession] using hs'
      · simpa only [if_true, hrole] using hrole'.trans hsrole
    | false =>
      simp only [hr, Bool.false_eq_true, if_false] at hactive ⊢
      obtain ⟨s, hs, hrole⟩ := hI m hm hactive
      obtain ⟨s', hs', hrole'⟩ := hroles _ s hs
      exact ⟨s', hs', hrole'.trans hrole⟩
  cases h with
  | idle hoperator => exact hrestored hoperator
  | mk _ _ hoperator => exact (hrestored hoperator).of_rows rfl (.of_sessions rfl)

theorem RolesAgree.assignRole (hI : RolesAgree db) (sessionId : String) (role : SessionRole) :
    RolesAgree (db.assignRole sessionId role) := by
  intro m' hm' hactive
  rw [assignRole_rows] at hm'
  obtain ⟨m, hm, rfl⟩ := List.mem_map.mp hm'
  have hlookup (id : String) : (db.assignRole sessionId role).currentSession id =
      (db.currentSession id).map fun s => if s.id = sessionId then { s with role := some role } else s := by
    refine (Table.find?_rewrite rfl (Session.id_role role) id).trans ?_
    simp [Database.currentSession]
  by_cases howner : m.active = true ∧ m.sessionId = sessionId
  · obtain ⟨s, hs, _⟩ := hI m hm howner.1
    rw [howner.2] at hs
    have hid : s.id = sessionId := (Table.find?_some hs).2
    rw [if_pos howner]
    exact ⟨{ s with role := some role }, by simp [hlookup, howner.2, hs, hid], rfl⟩
  · rw [if_neg howner] at hactive ⊢
    obtain ⟨s, hs, hrole⟩ := hI m hm hactive
    have hid : s.id ≠ sessionId := fun heq =>
      howner ⟨hactive, (Table.find?_some hs).2.symm.trans heq⟩
    exact ⟨s, by simp [hlookup, hs, hid], hrole⟩

theorem RolesAgree.roleUpdated {role : SessionRole}
    (hI : RolesAgree db) (h : RoleUpdated channelId sessionId role db db') : RolesAgree db' := by
  have hdemote (ids : List String) (db : Database) (hI : RolesAgree db) :
      RolesAgree (ids.foldl (fun db id => db.assignRole id .worker) db) := by
    induction ids generalizing db with
    | nil => exact hI
    | cons id ids ih => exact ih _ (hI.assignRole id .worker)
  cases h with
  | mk => exact ((hdemote _ _ hI).assignRole sessionId role).of_rows rfl (.of_sessions rfl)

/-- A registration that enters the channel writes a membership with the role of the request. -/
theorem RolesAgree.registered {role : SessionRole}
    {externalId : Option String} (hI : RolesAgree db)
    (h : Registered channelId sessionId role externalId db db')
    (hrole : enters db channelId sessionId externalId = true →
      ∀ s, db.currentSession sessionId = some s → s.role = some role) : RolesAgree db' := by
  cases h with
  | @inserted db₁ _ input hid hinput hinserted hjoined =>
    subst hid
    cases hinserted with
    | mk registeredAt at' sessions hinsert =>
      refine RolesAgree.joined ?_ hjoined fun _ => ?_
      · exact hI.of_rows rfl (.sessionInserted (.mk registeredAt at' sessions hinsert))
      · have hfound : sessions.find? input.id = some _ :=
          (Table.find?_insert hinsert input.id).trans (if_pos rfl)
        simp [Database.sessionRole, Database.currentSession, hfound, hinput]
  | @found db₁ _ hsession hfree htouched hjoined =>
    refine RolesAgree.joined ?_ hjoined fun hnew => ?_
    · exact hI.of_rows (congrArg Table.rows htouched.memberships) (.touched htouched)
    · obtain ⟨s, hs⟩ := Option.isSome_iff_exists.mp hsession
      obtain ⟨s', hs', hsame⟩ := KeepsSessionRoles.touched htouched _ s hs
      have hcopy := hrole (enters_of_joined htouched hfree hjoined hnew) s hs
      rw [Database.sessionRole, hs', Option.bind_some, hsame, hcopy]

theorem RolesAgree.enlisted {sessionId : String} (hI : RolesAgree db)
    (h : Runtime.Enlisted sessionId db db') : RolesAgree db' := by
  induction h with
  | same => exact hI
  | reactivated h => exact hI.reactivated h
  | inserted _ input hinserted ih =>
    refine ih.of_rows ?_ (.sessionInserted hinserted)
    cases hinserted with
    | mk => rfl

/-- A swap writes a worker's membership. -/
theorem RolesAgree.swapped {input : SwapInput} (hI : RolesAgree db) (h : Swapped input db db')
    (hrole : db.sessionRole input.replacementSessionId = some .worker) : RolesAgree db' := by
  cases h with
  | mk at' memberships _ hinsert =>
    have hretired : RolesAgree (retire db input.channelId input.oldSessionId at') :=
      hI.ended rfl (fun m => by simp [Membership.active]) (.of_sessions rfl)
    obtain ⟨s, hs, hworker⟩ := Option.bind_eq_some_iff.mp hrole
    exact hretired.inserted hinsert ⟨s, hs, hworker⟩

theorem RolesAgree.aside (hI : RolesAgree db) (h : Aside db db')
    (hroles : db'.storedRoles = db.storedRoles) : RolesAgree db' := by
  refine hI.of_rows ?_ (.of_stored hroles)
  cases h with
  | unlogged _ hmemberships => exact congrArg Table.rows hmemberships
  | logged _ hmemberships => exact congrArg Table.rows hmemberships

end Copies

/-- The roster and the membership queries tell the same of who holds a role in a channel. -/
structure ReadersAgree (db : Database) : Prop where
  /-- the roster, which the message policy asks for the planner, shows the holders of the role -/
  roster : ∀ channelId role,
    (((db.roster channelId).filter fun entry => entry.role = some role).map
      Database.RosterEntry.sessionId).Perm
      ((db.activeHolders channelId role).map Membership.sessionId)
  count : ∀ channelId role,
    ((db.roster channelId).filter fun entry => entry.role = some role).length =
      db.activeMembershipCount channelId role
  member : ∀ channelId sessionId role, db.isActiveMemberAs channelId sessionId role = true ↔
    db.isActiveMember channelId sessionId = true ∧ db.sessionRole sessionId = some role

section Readers

variable {db : Database}

theorem rosterEntries_agree {ms : List Membership} (role : SessionRole)
    (h : ∀ m ∈ ms, ∃ s, db.currentSession m.sessionId = some s ∧ s.role = m.role) :
    ((ms.filterMap fun m => (db.currentSession m.sessionId).map fun s =>
      (⟨s.id, s.displayName, s.role, m.joinedAt⟩ : Database.RosterEntry)).filter
        fun entry => entry.role = some role).map Database.RosterEntry.sessionId =
      (ms.filter fun m => m.role = some role).map Membership.sessionId := by
  induction ms with
  | nil => rfl
  | cons m ms ih =>
    obtain ⟨s, hs, hrole⟩ := h m List.mem_cons_self
    have hid : s.id = m.sessionId := (Table.find?_some hs).2
    have hrest := ih fun n hn => h n (List.mem_cons_of_mem _ hn)
    rw [List.filterMap_cons_some (by rw [hs]; rfl), List.filter_cons, List.filter_cons]
    by_cases hheld : m.role = some role
    · simp only [hrole, hheld, decide_true, if_true, List.map_cons, hid, hrest]
    · simp only [hrole, hheld, decide_false, Bool.false_eq_true, if_false, hrest]

theorem RolesAgree.roster_perm (hI : RolesAgree db) (channelId : String) (role : SessionRole) :
    (((db.roster channelId).filter fun entry => entry.role = some role).map
      Database.RosterEntry.sessionId).Perm
      ((db.activeHolders channelId role).map Membership.sessionId) := by
  have hrows : ∀ m ∈ db.activeMemberships channelId,
      ∃ s, db.currentSession m.sessionId = some s ∧ s.role = m.role := by
    intro m hm
    obtain ⟨hmem, hactive⟩ := Table.mem_select.mp ((List.mem_insertionSort _).mp hm)
    exact hI m hmem (decide_eq_true_eq.mp hactive).2
  have hsorted : ((db.activeMemberships channelId).filter fun m => m.role = some role).Perm
      ((db.memberships.select fun m => m.channelId = channelId ∧ m.active).filter
        fun m => m.role = some role) := (List.perm_insertionSort _ _).filter _
  have hselect : ((db.memberships.select fun m => m.channelId = channelId ∧ m.active).filter
      fun m => m.role = some role) = db.activeHolders channelId role := by
    unfold Database.activeHolders Table.select
    rw [List.filter_filter]
    congr 1
    funext m
    rw [← Bool.decide_and]
    exact decide_eq_decide.mpr (by tauto)
  unfold Database.roster
  rw [rosterEntries_agree role hrows]
  exact (hselect ▸ hsorted).map _

theorem RolesAgree.readers (hI : RolesAgree db) : ReadersAgree db where
  roster := hI.roster_perm
  count channelId role := by
    have hlength := (hI.roster_perm channelId role).length_eq
    rwa [List.length_map, List.length_map] at hlength
  member channelId sessionId role := by
    have hrole {m : Membership} (hm : m ∈ db.memberships.rows) (hactive : m.active = true)
        (hsession : m.sessionId = sessionId) : db.sessionRole sessionId = m.role := by
      obtain ⟨s, hs, hcopy⟩ := hI m hm hactive
      rw [hsession] at hs
      rw [Database.sessionRole, hs, Option.bind_some, hcopy]
    rw [Database.isActiveMemberAs_iff, Database.isActiveMember_iff]
    constructor
    · rintro ⟨m, hm, hchannel, hsession, hactive, hheld⟩
      exact ⟨⟨m, hm, hchannel, hsession, hactive⟩, (hrole hm hactive hsession).trans hheld⟩
    · rintro ⟨⟨m, hm, hchannel, hsession, hactive⟩, hheld⟩
      exact ⟨m, hm, hchannel, hsession, hactive, (hrole hm hactive hsession).symm.trans hheld⟩

end Readers

/-- Everything but the import. -/
def native : StoreOp → Bool
  | .importBegin .. => false
  | .importAppend _ => false
  | .importCommit => false
  | .importRollback => false
  | _ => true

/-- A request of a caller, a step of a rotation, or any other command of the store. -/
inductive NativeOp where
  | request (op : CrewOp)
  | store (op : StoreOp) (hnative : native op = true)

def nativeStep (w : World) : NativeOp → World
  | .request op => crewStep w op
  | .store op _ => storeStep w op

/-- A command that writes a membership writes the role that the session has: a registration of a
known session that enters, a raw join of a session that is not in the channel, and a swap that
finds what it is to swap. The other commands need nothing. -/
def WritesSessionRole (w : World) : NativeOp → Prop
  | .request (.registerSession _ request) =>
    Text.given request.channelId = true →
      enters w.db (request.channelId.getD "") request.sessionId request.externalId = true →
      ∀ s, w.db.currentSession request.sessionId = some s → s.role = some (request.role.getD .worker)
  | .request (.swapWorker inspected input) =>
    Swaps inspected input w → w.db.sessionRole input.replacementSessionId = some .worker
  | .store (.registerSession channelId sessionId role externalId _ _) _ =>
    enters w.db channelId sessionId externalId = true →
      ∀ s, w.db.currentSession sessionId = some s → s.role = some role
  | .store (.insertMembership channelId sessionId role) _ =>
    w.db.channelActive channelId = true → w.db.sessionLive sessionId = true →
      w.db.isActiveMember channelId sessionId = false → w.db.sessionRole sessionId = role
  | _ => True

/-- A store at rest where the copies agree, also in what a rollback of an import would restore. -/
structure RolesAtRest (w : World) : Prop where
  transactionDepth : w.transactionDepth = 0
  agree : Durable RolesAgree w

theorem RolesAtRest.keeps {w w' : World} (hI : RolesAtRest w) (hkeeps : Keeps w w')
    (h : RolesAgree w'.db) : RolesAtRest w' :=
  ⟨hkeeps.transactionDepth.trans hI.transactionDepth, h,
    fun session hs => hI.agree.2 session (hkeeps.importSession ▸ hs)⟩

theorem RolesAtRest.settles {α : Type} {x : Command α} {P : α → Database → Prop} {w : World}
    (hI : RolesAtRest w) (h : Settles x w P) (hP : ∀ a db', P a db' → RolesAgree db') :
    RolesAtRest (x w).2 := by
  refine hI.keeps h.keeps ?_
  rcases h.outcome with ⟨a, _, heffect⟩ | ⟨_, hdb⟩
  · exact hP a _ heffect
  · exact hdb ▸ hI.agree.1

theorem crewStep_rolesAgree {w : World} {op : CrewOp} (hI : RolesAtRest w)
    (hop : WritesSessionRole w (.request op)) : RolesAtRest (crewStep w op) := by
  have hrest := hI.transactionDepth
  have hagree := hI.agree.1
  cases op with
  | createChannel caller channelName =>
    refine hI.settles (Runtime.createChannel_settles hrest caller channelName) fun _ _ h => ?_
    obtain ⟨owner, hinserted⟩ := h
    cases hinserted with
    | mk => exact hagree.of_rows rfl (.of_sessions rfl)
  | registerSession caller request =>
    cases hchannel : Text.given request.channelId with
    | true =>
      exact hI.settles (Runtime.registerSession_settles hrest caller request hchannel)
        fun _ _ h => hagree.registered h (hop hchannel)
    | false =>
      obtain ⟨henlisted, hkeeps⟩ := Runtime.registerSession_enlisted hrest caller request hchannel
      exact hI.keeps hkeeps (hagree.enlisted henlisted)
  | join channelId sessionId authorizedBy context =>
    exact hI.settles (Runtime.join_role_settles hrest channelId sessionId authorizedBy context)
      fun _ _ h => hagree.joined h.2 fun _ => rfl
  | leave channelId sessionId context =>
    exact hI.settles (Runtime.leave_settles hrest channelId sessionId context)
      fun _ _ h => hagree.left h
  | closeChannel caller channelId =>
    exact hI.settles (Runtime.closeChannel_settles hrest caller channelId)
      fun _ _ h => hagree.channelClosed h
  | endSession caller sessionId =>
    exact hI.settles (Runtime.endSession_settles hrest caller sessionId)
      fun _ _ h => hagree.sessionEnded h
  | updateSessionRole caller channelId sessionId role =>
    exact hI.settles (Runtime.updateSessionRole_settles hrest caller channelId sessionId role)
      fun _ _ h => hagree.roleUpdated h.2
  | launchReplacement id =>
    refine hI.settles (write_settles rfl hrest (insertSession_effect w _)) fun _ _ h => ?_
    refine hagree.of_rows ?_ (.sessionInserted h)
    cases h with
    | mk => rfl
  | swapWorker inspected input =>
    exact hI.settles (swapWorker_settles w inspected input)
      fun _ _ h => hagree.swapped h.2 (hop h.1)

theorem storeStep_rolesAgree {w : World} {op : StoreOp} {hnative : native op = true}
    (hI : RolesAtRest w) (hop : WritesSessionRole w (.store op hnative)) :
    RolesAtRest (storeStep w op) := by
  have hstep := storeStep_transition hI.transactionDepth op
  refine ⟨hstep.transactionDepth.trans hI.transactionDepth,
    hstep.reached.durable (fun db' hagree heffect => ?_) (fun _ _ hagree => hagree) hI.agree⟩
  obtain ⟨heffect, hdb'⟩ := heffect
  have haside (h : Aside w.db db') (hroles : (storeStep w op).db.storedRoles = w.db.storedRoles) :
      RolesAgree db' := hagree.aside h (hdb' ▸ hroles)
  cases op with
  | insertSession input =>
    refine hagree.of_rows ?_ (.sessionInserted heffect)
    cases heffect with
    | mk => rfl
  | registerSession channelId sessionId role externalId deliveryMode provenance =>
    exact hagree.registered heffect hop
  | insertChannel id owner =>
    cases heffect with
    | mk => exact hagree.of_rows rfl (.of_sessions rfl)
  | insertMembership channelId sessionId role =>
    cases heffect with
    | already => exact hagree
    | joined joinedAt at' memberships hchannel hsession hnew hinsert =>
      exact hagree.joined (.joined joinedAt at' memberships hchannel hsession hnew hinsert)
        (hop hchannel hsession)
  | leaveMembership channelId sessionId => exact hagree.left heffect
  | markSessionEnded sessionId => exact hagree.sessionEnded heffect
  | reactivateOperatorSession sessionId => exact hagree.reactivated heffect
  | closeChannel channelId => exact hagree.channelClosed heffect
  | reopenChannel channelId =>
    cases heffect with
    | already => exact hagree
    | mk => exact hagree.of_rows rfl (.of_sessions rfl)
  | updateSessionRole channelId sessionId role => exact hagree.roleUpdated heffect
  | commitMessage input =>
    obtain ⟨receipt, hcommitted⟩ := heffect
    cases hcommitted with
    | duplicate => exact hagree
    | fresh => exact hagree.of_rows rfl (.of_sessions rfl)
  | resolveThread root actor channelId =>
    cases heffect <;> exact hagree.of_rows rfl (.of_sessions rfl)
  | reopenThread root actor channelId =>
    cases heffect <;> exact hagree.of_rows rfl (.of_sessions rfl)
  | importBegin digest version => cases hnative
  | importAppend event => cases hnative
  | importCommit => cases hnative
  | importRollback => cases hnative
  | _ => exact haside heffect (storeStep_storedRoles w rfl)

theorem nativeStep_rolesAgree {w : World} {op : NativeOp} (hI : RolesAtRest w)
    (hop : WritesSessionRole w op) : RolesAtRest (nativeStep w op) := by
  cases op with
  | request op => exact crewStep_rolesAgree hI hop
  | store op hnative => exact storeStep_rolesAgree hI hop

/-- In every run from a store without memberships whose commands write the role of the session, the
two copies agree in every state, and so do their readers. -/
theorem roles_agree {w : World} (hrest : w.transactionDepth = 0) (hclosed : w.importSession = none)
    (hempty : w.db.memberships.rows = []) (ops : List NativeOp)
    (hmeets : Trace.Meets nativeStep WritesSessionRole w ops) :
    RolesAgree (Trace.run nativeStep w ops).db ∧ ReadersAgree (Trace.run nativeStep w ops).db := by
  have hstart : RolesAtRest w := by
    refine ⟨hrest, fun m hm => ?_, fun session hs => ?_⟩
    · rw [hempty] at hm
      cases hm
    · rw [hclosed] at hs
      cases hs
  have hrun : RolesAtRest (Trace.run nativeStep w ops) :=
    Trace.invariant_run (fun w op hI hop => nativeStep_rolesAgree hI hop) hstart hmeets
  exact ⟨hrun.agree.1, hrun.agree.1.readers⟩

/-- An operator with a channel, which a worker enters and leads. -/
def promoted : List NativeOp :=
  (launched ++ [CrewOp.updateSessionRole (connectedAs "alice") "harbour" "bob" .planner]).map
    .request

theorem roles_agree_promoted :
    RolesAgree (Trace.run nativeStep (.initial .empty tally tally) promoted).db ∧
      ReadersAgree (Trace.run nativeStep (.initial .empty tally tally) promoted).db := by
  refine roles_agree rfl rfl rfl promoted ⟨fun hchannel => ?_, trivial, fun _ _ s hs => ?_,
    trivial, trivial⟩
  · cases hchannel
  · have hmissing : (Trace.run nativeStep (.initial .empty tally tally)
        (promoted.take 2)).db.currentSession "bob" = none := by decide
    exact absurd (hmissing.symm.trans hs) (by simp)

/-- The operator enters its own channel as a planner: the membership makes it the planner there,
and the roster, by its session, does not. -/
theorem roles_disagree_registered :
    ¬RolesAgree (Trace.run nativeStep (.initial .empty tally tally)
      ((launched ++ [CrewOp.registerSession (connectedAs "alice")
        (registration (some "harbour") "alice" .planner)]).map .request)).db := by
  intro hI
  have hcount := hI.readers.count "harbour" .planner
  revert hcount
  decide

end Wardroom.Crew
