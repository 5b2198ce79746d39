import Wardroom.Crew.Memberships
import Wardroom.Runtime.Native.Effects

/-! # The planner and the reviewer of a channel

A channel has at most one active planner and one active reviewer. A join checks
this for the channel joined, and a role change for every channel of its target;
a registration with a channel checks nothing, and a role change never asks
whether its target is in the channel it names.
-/

namespace Wardroom.Crew
open Wardroom.Library Wardroom.Domain Wardroom.Storage Wardroom.Application Wardroom.Rotation

/-- The roles that one session of a channel holds. -/
def exclusive : SessionRole → Bool
  | .planner => true
  | .reviewer => true
  | _ => false

/-- An active row of the channel with the role. -/
def holds (channelId : String) (role : SessionRole) (m : Membership) : Bool :=
  m.channelId = channelId ∧ m.role = some role ∧ m.active

def OneHolder (db : Database) : Prop :=
  ∀ role, exclusive role = true → ∀ channelId, (db.activeHolders channelId role).length ≤ 1

section Counts

variable {db db' : Database}

theorem activeHolders_length (db : Database) (channelId : String) (role : SessionRole) :
    (db.activeHolders channelId role).length = db.memberships.rows.countP (holds channelId role) :=
  List.countP_eq_length_filter.symm

theorem OneHolder.of_rows (hI : OneHolder db) (h : db'.memberships.rows = db.memberships.rows) :
    OneHolder db' := by
  intro role hrole channelId
  rw [activeHolders_length, h, ← activeHolders_length]
  exact hI role hrole channelId

theorem OneHolder.of_map {g : Membership → Membership} (hI : OneHolder db)
    (hrows : db'.memberships.rows = db.memberships.rows.map g)
    (hback : ∀ channelId role m, exclusive role = true → holds channelId role (g m) = true →
      holds channelId role m = true) : OneHolder db' := by
  intro role hrole channelId
  refine le_trans ?_ (hI role hrole channelId)
  rw [activeHolders_length, activeHolders_length]
  exact Table.countP_rewrite_le hrows fun m => hback channelId role m hrole

theorem holds_of_inactive {channelId : String} {role : SessionRole} {m m' : Membership}
    (h : holds channelId role m' = true) (hinactive : m'.active = false) :
    holds channelId role m = true := by
  simp [holds, hinactive] at h

variable {channelId sessionId : String}

theorem OneHolder.joined {role : Option SessionRole}
    (hI : OneHolder db) (h : Joined channelId sessionId role db db')
    (hvacant : db.isActiveMember channelId sessionId = false → ∀ r, exclusive r = true →
      role = some r → db.activeMembershipCount channelId r = 0) : OneHolder db' := by
  cases h with
  | already => exact hI
  | joined joinedAt at' memberships _ _ hnew hinsert =>
    intro r hr c
    rw [activeHolders_length]
    refine (Table.countP_insert hinsert (holds c r)).trans_le ?_
    rw [← activeHolders_length]
    by_cases hholds : holds c r ⟨channelId, sessionId, joinedAt, none, none, role⟩ = true
    · simp only [holds, decide_eq_true_eq] at hholds
      obtain ⟨rfl, hrole, _⟩ := hholds
      have hcount : (db.activeHolders channelId r).length = 0 := hvacant hnew r hr hrole
      rw [hcount]
      split <;> omega
    · rw [if_neg hholds]
      exact hI r hr c

/-- Ending rows, whatever their number, makes nobody a holder. -/
theorem OneHolder.ended {p : Membership → Bool} {f : Membership → Membership} (hI : OneHolder db)
    (hrows : db'.memberships.rows = db.memberships.rows.map fun m => if p m then f m else m)
    (hf : ∀ m, (f m).active = false) : OneHolder db' := by
  refine hI.of_map hrows fun channelId role m _ hholds => ?_
  by_cases hp : p m = true
  · rw [if_pos hp] at hholds
    exact holds_of_inactive hholds (hf m)
  · rwa [if_neg hp] at hholds

/-- Only operator memberships come back with a session. -/
theorem OneHolder.reactivated {sessionId : String} (hI : OneHolder db)
    (h : Reactivated sessionId db db') : OneHolder db' := by
  have hrestored : OneHolder (db.reactivate sessionId) := by
    refine hI.of_map rfl fun channelId role m hrole hholds => ?_
    cases hr : db.restorable sessionId m with
    | false => simpa [hr] using hholds
    | true =>
      have hoperator := (of_restorable hr).2.1
      simp only [hr, if_true, holds, hoperator, decide_eq_true_eq, Option.some.injEq] at hholds
      rw [← hholds.2.1] at hrole
      cases hrole
  cases h with
  | idle => exact hrestored
  | mk => exact hrestored.of_rows rfl

/-- A swapped-in worker holds neither role. -/
theorem OneHolder.swapped {input : SwapInput} (hI : OneHolder db) (h : Swapped input db db') :
    OneHolder db' := by
  cases h with
  | mk at' memberships _ hinsert =>
    have hretired : OneHolder (retire db input.channelId input.oldSessionId at') :=
      hI.ended rfl fun m => by simp [Membership.active]
    intro role hrole channelId
    have hworker : holds channelId role
        ⟨input.channelId, input.replacementSessionId, at', none, none, some .worker⟩ = false := by
      cases role <;> simp_all [holds, exclusive]
    rw [activeHolders_length]
    refine (Table.countP_insert hinsert (holds channelId role)).trans_le ?_
    rw [hworker, ← activeHolders_length]
    exact hretired role hrole channelId

theorem holds_rerole {demoted : List String} {sessionId channelId : String}
    {role role' : SessionRole} {m : Membership} (hexclusive : exclusive role' = true)
    (h : holds channelId role' (rerole demoted sessionId role m) = true) :
    (role = role' ∧ seated channelId sessionId m = true) ∨
      (holds channelId role' m = true ∧ m.sessionId ≠ sessionId ∧ m.sessionId ∉ demoted) := by
  unfold rerole at h
  by_cases hsession : m.active = true ∧ m.sessionId = sessionId
  · rw [if_pos hsession] at h
    simp only [holds, Option.some.injEq, decide_eq_true_eq] at h
    exact .inl ⟨h.2.1, by simp [seated, h.1, hsession]⟩
  · rw [if_neg hsession] at h
    by_cases hdemoted : m.active = true ∧ m.sessionId ∈ demoted
    · rw [if_pos hdemoted] at h
      simp only [holds, Option.some.injEq, decide_eq_true_eq] at h
      rw [← h.2.1] at hexclusive
      cases hexclusive
    · rw [if_neg hdemoted] at h
      have hactive : m.active = true := by
        simp only [holds, decide_eq_true_eq] at h
        exact h.2.2
      exact .inr ⟨h, fun heq => hsession ⟨hactive, heq⟩, fun hmem => hdemoted ⟨hactive, hmem⟩⟩

theorem demoted_of_no_conflict {channelId sessionId c : String} {role : SessionRole}
    (hexclusive : exclusive role = true)
    (hconflict : roleConflict db channelId sessionId role c = false) {m : Membership}
    (hm : m ∈ db.memberships.rows) (hholds : holds c role m = true)
    (hother : m.sessionId ≠ sessionId) : m.sessionId ∈ db.demoted channelId sessionId role := by
  have hmem : m ∈ db.activeHolders c role := List.mem_filter.mpr ⟨hm, hholds⟩
  by_cases hhandoff : role = .planner ∧ c = channelId
  · obtain ⟨rfl, rfl⟩ := hhandoff
    rw [Database.demoted, if_pos rfl]
    exact List.mem_map_of_mem (List.mem_filter.mpr ⟨hmem, by simpa using hother⟩)
  · have hcount : 0 < db.activeMembershipCountExcept c role sessionId := by
      refine List.length_pos_of_mem (a := m) (List.mem_filter.mpr ⟨hmem, by simpa using hother⟩)
    have hrole : role = .planner ∨ role = .reviewer := by
      cases role <;> simp_all [exclusive]
    simp only [roleConflict, hcount, decide_true, Bool.and_true, Bool.and_eq_false_iff,
      Bool.not_eq_false', Bool.and_eq_true, decide_eq_true_eq, Bool.or_eq_false_iff,
      decide_eq_false_iff_not] at hconflict
    rcases hconflict with hsame | ⟨hplanner, hreviewer⟩
    · exact absurd hsame hhandoff
    · rcases hrole with rfl | rfl
      · exact absurd rfl hplanner
      · exact absurd rfl hreviewer

/-- No channel of the target conflicts. -/
def Uncontested (db : Database) (channelId sessionId : String) (role : SessionRole) : Prop :=
  ∀ c ∈ db.activeMembershipChannels sessionId, roleConflict db channelId sessionId role c = false

theorem seated_isActiveMember {m : Membership}
    (hm : m ∈ db.memberships.rows) (h : seated channelId sessionId m = true) :
    db.isActiveMember channelId sessionId = true := by
  simp only [seated, decide_eq_true_eq] at h
  exact Database.isActiveMember_iff.mpr ⟨m, hm, h⟩

theorem OneHolder.changeRole {role : SessionRole}
    (hI : OneHolder db) (huncontested : Uncontested db channelId sessionId role)
    (hsingle : exclusive role = true → ∀ c, (db.activeRows c sessionId).length ≤ 1) :
    OneHolder (db.changeRole channelId sessionId role) := by
  intro role' hexclusive c
  rw [activeHolders_length, changeRole_rows, List.countP_map]
  by_cases hrole : role = role'
  · subst hrole
    cases hmember : db.isActiveMember c sessionId with
    | true =>
      -- every other holder of the channel is demoted, so the target's own rows remain
      have hchannel : c ∈ db.activeMembershipChannels sessionId :=
        Database.mem_activeMembershipChannels.mpr (Database.isActiveMember_iff.mp hmember)
      refine le_trans (List.countP_mono_left fun m hm hholds => ?_)
        ((activeRows_length db c sessionId).symm.trans_le (hsingle hexclusive c))
      rcases holds_rerole hexclusive hholds with ⟨_, hseated⟩ | ⟨hheld, hother, hkept⟩
      · exact hseated
      · exact absurd (demoted_of_no_conflict hexclusive (huncontested c hchannel) hm hheld hother) hkept
    | false =>
      -- the target has no row here, so the holders are among those of before
      refine le_trans (List.countP_mono_left fun m hm hholds => ?_)
        ((activeHolders_length db c role).symm.trans_le (hI role hexclusive c))
      rcases holds_rerole hexclusive hholds with ⟨_, hseated⟩ | ⟨hheld, _⟩
      · rw [seated_isActiveMember hm hseated] at hmember
        cases hmember
      · exact hheld
  · refine le_trans (List.countP_mono_left fun m hm hholds => ?_)
      ((activeHolders_length db c role').symm.trans_le (hI role' hexclusive c))
    rcases holds_rerole hexclusive hholds with ⟨heq, _⟩ | ⟨hheld, _⟩
    · exact absurd heq hrole
    · exact hheld

theorem changeRole_planner
    (hmember : db.isActiveMember channelId sessionId = true)
    (hsingle : (db.activeRows channelId sessionId).length ≤ 1) :
    ∃ m, (db.changeRole channelId sessionId .planner).activeHolders channelId .planner = [m] ∧
      m.sessionId = sessionId := by
  have hholders (m : Membership) (hm : m ∈ db.memberships.rows) :
      holds channelId .planner
        (rerole (db.demoted channelId sessionId .planner) sessionId .planner m) = true ↔
        seated channelId sessionId m = true := by
    constructor
    · intro hholds
      rcases holds_rerole rfl hholds with ⟨_, hseated⟩ | ⟨hheld, hother, hkept⟩
      · exact hseated
      · refine absurd (demoted_of_no_conflict rfl ?_ hm hheld hother) hkept
        simp [roleConflict]
    · intro hseated
      simp only [seated, decide_eq_true_eq] at hseated
      obtain ⟨hchannel, hsession, hactive⟩ := hseated
      rw [rerole, if_pos ⟨hactive, hsession⟩]
      exact decide_eq_true ⟨hchannel, rfl, hactive⟩
  have hlength : ((db.changeRole channelId sessionId .planner).activeHolders channelId
      .planner).length = 1 := by
    have hcount : ((db.changeRole channelId sessionId .planner).activeHolders channelId
        .planner).length = (db.activeRows channelId sessionId).length := by
      rw [activeHolders_length, changeRole_rows, List.countP_map, activeRows_length]
      exact List.countP_congr fun m hm => hholders m hm
    have hpos : 0 < (db.activeRows channelId sessionId).length := by
      obtain ⟨m, hm⟩ := Database.isActiveMember_iff.mp hmember
      exact List.length_pos_of_mem (Database.mem_activeRows.mpr hm)
    omega
  obtain ⟨m, hm⟩ := List.length_eq_one_iff.mp hlength
  refine ⟨m, hm, ?_⟩
  have hmem : m ∈ (db.changeRole channelId sessionId .planner).activeHolders channelId .planner := by
    rw [hm]
    exact List.mem_singleton_self m
  obtain ⟨hrow, hholds⟩ := List.mem_filter.mp hmem
  rw [changeRole_rows, List.mem_map] at hrow
  obtain ⟨m₀, hm₀, rfl⟩ := hrow
  have hseated := (hholders m₀ hm₀).mp hholds
  simp only [seated, decide_eq_true_eq] at hseated
  simp [rerole, hseated]

end Counts

/-- The requests that write memberships or roles, and the two steps of a rotation. -/
inductive CrewOp where
  | createChannel (caller : Runtime.Caller) (channelName : String)
  | registerSession (caller : Runtime.Caller) (request : Runtime.RegisterSessionRequest)
  | join (channelId sessionId : String) (authorizedBySessionId contextSessionId : Option String)
  | leave (channelId sessionId : String) (contextSessionId : Option String)
  | closeChannel (caller : Runtime.Caller) (channelId : String)
  | endSession (caller : Runtime.Caller) (sessionId : String)
  | updateSessionRole (caller : Runtime.Caller) (channelId sessionId : String) (role : SessionRole)
  | launchReplacement (replacementSessionId : String)
  | swapWorker (inspected : Option Nat) (input : SwapInput)

def crewStep (w : World) : CrewOp → World
  | .createChannel caller channelName => (Runtime.createChannel caller channelName w).2
  | .registerSession caller request => (Runtime.registerSession caller request w).2
  | .join channelId sessionId authorizedBy context =>
    (Runtime.join channelId sessionId authorizedBy context w).2
  | .leave channelId sessionId context => (Runtime.leave channelId sessionId context w).2
  | .closeChannel caller channelId => (Runtime.closeChannel caller channelId w).2
  | .endSession caller sessionId => (Runtime.endSession caller sessionId w).2
  | .updateSessionRole caller channelId sessionId role =>
    (Runtime.updateSessionRole caller channelId sessionId role w).2
  | .launchReplacement id =>
    (insertSession { id := id, displayName := some id, role := some .worker } w).2
  | .swapWorker inspected input => (Rotation.swapWorker inspected input w).2

theorem crewStep_keeps {w : World} (hrest : w.transactionDepth = 0) (op : CrewOp) :
    Keeps w (crewStep w op) := by
  cases op with
  | createChannel caller channelName =>
    exact (Runtime.createChannel_settles hrest caller channelName).keeps
  | registerSession caller request =>
    cases hchannel : Text.given request.channelId with
    | true => exact (Runtime.registerSession_settles hrest caller request hchannel).keeps
    | false => exact (Runtime.registerSession_enlisted hrest caller request hchannel).2
  | join channelId sessionId authorizedBy context =>
    exact (Runtime.join_settles hrest channelId sessionId authorizedBy context).keeps
  | leave channelId sessionId context =>
    exact (Runtime.leave_settles hrest channelId sessionId context).keeps
  | closeChannel caller channelId => exact (Runtime.closeChannel_settles hrest caller channelId).keeps
  | endSession caller sessionId => exact (Runtime.endSession_settles hrest caller sessionId).keeps
  | updateSessionRole caller channelId sessionId role =>
    exact (Runtime.updateSessionRole_settles hrest caller channelId sessionId role).keeps
  | launchReplacement id => exact (write_settles rfl hrest (insertSession_effect w _)).keeps
  | swapWorker inspected input => exact (swapWorker_settles w inspected input).keeps

/-- A registration that adds a membership: the channel is open, and the session is new, or is live,
not yet in the channel, and free for the external id. -/
def enters (db : Database) (channelId sessionId : String) (externalId : Option String) : Bool :=
  db.channelActive channelId && (db.currentSession sessionId).all (fun s => s.endedAt.isNone) &&
    !db.isActiveMember channelId sessionId && externalIdFree (db.currentSession sessionId) externalId

/-- A registration that enters a channel as planner or reviewer finds the role free; a role change
to planner or reviewer has a target that is in each channel at most once, and in the named channel
if it is to plan it. The other requests need nothing. -/
def KeepsRolesFree (w : World) : CrewOp → Prop
  | .registerSession _ request =>
    Text.given request.channelId = true →
      enters w.db (request.channelId.getD "") request.sessionId request.externalId = true →
      exclusive (request.role.getD .worker) = true →
      w.db.activeMembershipCount (request.channelId.getD "") (request.role.getD .worker) = 0
  | .updateSessionRole caller channelId sessionId role =>
    Runtime.roleRequestAllowed w.db caller channelId sessionId role = true →
      exclusive role = true →
      (∀ c, (w.db.activeRows c sessionId).length ≤ 1) ∧
        (role = .planner → w.db.isActiveMember channelId sessionId = true)
  | _ => True

variable {externalId : Option String}

theorem enters_of_joined {db db₁ db₂ : Database} {channelId sessionId : String}
    {role : Option SessionRole}
    (htouched : Touched sessionId db db₁)
    (hfree : externalIdFree (db.currentSession sessionId) externalId = true)
    (hjoined : Joined channelId sessionId role db₁ db₂)
    (hnew : db₁.isActiveMember channelId sessionId = false) :
    enters db channelId sessionId externalId = true := by
  cases hjoined with
  | already hmember => exact absurd (hnew.symm.trans hmember) Bool.false_ne_true
  | joined joinedAt at' memberships hchannel hsession =>
    have hactive : db.channelActive channelId = true := by
      unfold Database.channelActive Database.currentChannel at hchannel ⊢
      rwa [htouched.channels] at hchannel
    have hmember : db.isActiveMember channelId sessionId = false := by
      unfold Database.isActiveMember Database.activeRows at hnew ⊢
      rwa [htouched.memberships] at hnew
    rw [htouched.sessionLive] at hsession
    obtain ⟨s, hs, hend⟩ := Database.sessionLive_iff.mp hsession
    simp [enters, hactive, hmember, hs, hend, hs ▸ hfree]

theorem enters_of_inserted {db db₁ db₂ : Database} {input : SessionInput} {channelId : String}
    {role : Option SessionRole}
    (hinserted : SessionInserted input db db₁) (hjoined : Joined channelId input.id role db₁ db₂)
    (hnew : db₁.isActiveMember channelId input.id = false) :
    enters db channelId input.id externalId = true := by
  cases hinserted with
  | mk registeredAt at' sessions hinsert =>
    cases hjoined with
    | already hmember => exact absurd (hnew.symm.trans hmember) Bool.false_ne_true
    | joined joinedAt at'' memberships hchannel hsession =>
      have hmissing : db.currentSession input.id = none := by
        have habsent := (Table.insert?_eq_some.mp hinsert).1
        rw [Table.has_iff] at habsent
        exact Table.find?_none.mpr fun s hs hid => habsent (List.mem_map.mpr ⟨s, hs, hid⟩)
      have hactive : db.channelActive channelId = true := hchannel
      have hmember : db.isActiveMember channelId input.id = false := hnew
      simp [enters, hactive, hmember, hmissing, externalIdFree]

/-- A registration that entered did so under the rule. -/
theorem OneHolder.registered {db db' : Database} {channelId sessionId : String}
    {role : SessionRole} (hI : OneHolder db)
    (h : Registered channelId sessionId role externalId db db')
    (hvacant : enters db channelId sessionId externalId = true → exclusive role = true →
      db.activeMembershipCount channelId role = 0) : OneHolder db' := by
  have hfree {db₁ : Database} (hrows : db₁.memberships = db.memberships)
      (henters : db₁.isActiveMember channelId sessionId = false →
        enters db channelId sessionId externalId = true)
      (hnew : db₁.isActiveMember channelId sessionId = false) (r : SessionRole)
      (hr : exclusive r = true) (hrole : some role = some r) :
      db₁.activeMembershipCount channelId r = 0 := by
    cases hrole
    have hcount := hvacant (henters hnew) hr
    unfold Database.activeMembershipCount Database.activeHolders at hcount ⊢
    rwa [hrows]
  cases h with
  | @inserted db₁ _ input hid hrole hinserted hjoined =>
    subst hid
    have hrows : db₁.memberships = db.memberships := by
      cases hinserted with
      | mk registeredAt at' sessions hinsert => rfl
    exact (hI.of_rows (congrArg Table.rows hrows)).joined hjoined
      (hfree hrows (enters_of_inserted hinserted hjoined))
  | found _ hbound htouched hjoined =>
    exact (hI.of_rows (congrArg Table.rows htouched.memberships)).joined hjoined
      (hfree htouched.memberships (enters_of_joined htouched hbound hjoined))

theorem OneHolder.enlisted {db db' : Database} {sessionId : String} (hI : OneHolder db)
    (h : Runtime.Enlisted sessionId db db') : OneHolder db' := by
  induction h with
  | same => exact hI
  | reactivated h => exact hI.reactivated h
  | inserted _ input hinserted ih =>
    cases hinserted with
    | mk registeredAt at' sessions hinsert => exact ih.of_rows rfl

theorem roleRequest_uncontested {db : Database} {caller : Runtime.Caller}
    {channelId sessionId : String} {role : SessionRole}
    (h : Runtime.roleRequestAllowed db caller channelId sessionId role = true) :
    Uncontested db channelId sessionId role := by
  unfold Runtime.roleRequestAllowed at h
  cases hactor : Runtime.credentialed caller with
  | error e =>
    rw [hactor] at h
    cases h
  | ok actorId =>
    rw [hactor] at h
    simp only [roleChangeAllowed, Bool.and_eq_true, Bool.not_eq_true', List.any_eq_false] at h
    intro c hc
    simpa using h.2.2 c hc

structure CrewAtRest (w : World) : Prop where
  transactionDepth : w.transactionDepth = 0
  oneHolder : OneHolder w.db

theorem CrewAtRest.settles {α : Type} {x : Command α} {P : α → Database → Prop} {w : World}
    (hI : CrewAtRest w) (h : Settles x w P) (hP : ∀ a db', P a db' → OneHolder db') :
    CrewAtRest (x w).2 := by
  refine ⟨h.keeps.transactionDepth.trans hI.transactionDepth, ?_⟩
  rcases h.outcome with ⟨a, _, heffect⟩ | ⟨_, hdb⟩
  · exact hP a _ heffect
  · exact hdb ▸ hI.oneHolder

theorem crewStep_oneHolder {w : World} {op : CrewOp} (hI : CrewAtRest w)
    (hop : KeepsRolesFree w op) : CrewAtRest (crewStep w op) := by
  have hrest := hI.transactionDepth
  have hholder := hI.oneHolder
  cases op with
  | createChannel caller channelName =>
    refine hI.settles (Runtime.createChannel_settles hrest caller channelName) fun _ _ h => ?_
    obtain ⟨owner, hinserted⟩ := h
    cases hinserted with
    | mk => exact hholder.of_rows rfl
  | registerSession caller request =>
    cases hchannel : Text.given request.channelId with
    | true =>
      exact hI.settles (Runtime.registerSession_settles hrest caller request hchannel)
        fun _ _ h => hholder.registered h (hop hchannel)
    | false =>
      obtain ⟨henlisted, hkeeps⟩ := Runtime.registerSession_enlisted hrest caller request hchannel
      exact ⟨hkeeps.transactionDepth.trans hrest, hholder.enlisted henlisted⟩
  | join channelId sessionId authorizedBy context =>
    refine hI.settles (Runtime.join_settles hrest channelId sessionId authorizedBy context)
      fun _ _ h => ?_
    obtain ⟨role, ⟨hplanner, hreviewer⟩, hjoined⟩ := h
    refine hholder.joined hjoined fun _ r hr hrole => ?_
    cases r with
    | planner => exact hplanner hrole
    | reviewer => exact hreviewer hrole
    | operator => cases hr
    | worker => cases hr
  | leave channelId sessionId context =>
    refine hI.settles (Runtime.leave_settles hrest channelId sessionId context) fun _ _ h => ?_
    cases h with
    | mk => exact (hholder.ended rfl fun m => by simp [Membership.active]).of_rows rfl
  | closeChannel caller channelId =>
    refine hI.settles (Runtime.closeChannel_settles hrest caller channelId) fun _ _ h => ?_
    cases h with
    | already => exact hholder
    | mk => exact (hholder.ended rfl fun m => by simp [Membership.active]).of_rows rfl
  | endSession caller sessionId =>
    refine hI.settles (Runtime.endSession_settles hrest caller sessionId) fun _ _ h => ?_
    cases h with
    | mk => exact (hholder.ended rfl fun m => by simp [Membership.active]).of_rows rfl
  | updateSessionRole caller channelId sessionId role =>
    refine hI.settles (Runtime.updateSessionRole_settles hrest caller channelId sessionId role)
      fun _ _ h => ?_
    obtain ⟨hallowed, hupdated⟩ := h
    cases hupdated with
    | mk =>
      exact (hholder.changeRole (roleRequest_uncontested hallowed)
        fun hexclusive => (hop hallowed hexclusive).1).of_rows rfl
  | launchReplacement id =>
    refine hI.settles (write_settles rfl hrest (insertSession_effect w _)) fun _ _ h => ?_
    cases h with
    | mk => exact hholder.of_rows rfl
  | swapWorker inspected input =>
    exact hI.settles (swapWorker_settles w inspected input) fun _ _ h => hholder.swapped h.2

/-- In every run whose registrations and role changes keep to the condition, each channel has at
most one active planner and one active reviewer, and a session made planner is the one planner. -/
theorem crew_oneHolder {w : World} (hrest : w.transactionDepth = 0)
    (hempty : w.db.memberships.rows = []) (ops : List CrewOp)
    (hmeets : Trace.Meets crewStep KeepsRolesFree w ops) :
    (∀ channelId, ((Trace.run crewStep w ops).db.activeHolders channelId .planner).length ≤ 1 ∧
      ((Trace.run crewStep w ops).db.activeHolders channelId .reviewer).length ≤ 1) ∧
    ∀ caller channelId sessionId receipt w',
      Runtime.updateSessionRole caller channelId sessionId .planner (Trace.run crewStep w ops) =
        (.ok receipt, w') →
      KeepsRolesFree (Trace.run crewStep w ops)
        (.updateSessionRole caller channelId sessionId .planner) →
      ∃ m, w'.db.activeHolders channelId .planner = [m] ∧ m.sessionId = sessionId := by
  have hstart : CrewAtRest w := by
    refine ⟨hrest, fun role _ channelId => ?_⟩
    simp [activeHolders_length, hempty]
  have hrun : CrewAtRest (Trace.run crewStep w ops) :=
    Trace.invariant_run (fun w op hI hop => crewStep_oneHolder hI hop) hstart hmeets
  refine ⟨fun channelId => ⟨hrun.oneHolder .planner rfl channelId,
    hrun.oneHolder .reviewer rfl channelId⟩, ?_⟩
  intro caller channelId sessionId receipt w' hupdate hop
  obtain ⟨hallowed, hupdated⟩ := (Runtime.updateSessionRole_settles hrun.transactionDepth caller
    channelId sessionId .planner).of_ok hupdate
  obtain ⟨hsingle, hmember⟩ := hop hallowed rfl
  generalize w'.db = db' at hupdated ⊢
  cases hupdated with
  | mk => exact changeRole_planner (hmember rfl) (hsingle channelId)

def connectedAs (sessionId : String) : Runtime.Caller :=
  ⟨⟨[("token", sessionId)], some sessionId⟩, some "token"⟩

def registration (channelId : Option String) (sessionId : String) (role : SessionRole) :
    Runtime.RegisterSessionRequest :=
  ⟨channelId, sessionId, some role, none, none, none⟩

/-- An operator with a channel, and a worker registered in it. -/
def launched : List CrewOp :=
  [.registerSession (connectedAs "alice") (registration none "alice" .operator),
    .createChannel (connectedAs "alice") "harbour",
    .registerSession (connectedAs "alice") (registration (some "harbour") "bob" .worker)]

theorem crew_oneHolder_promoted : ∃ m,
    (Runtime.updateSessionRole (connectedAs "alice") "harbour" "bob" .planner
      (Trace.run crewStep (.initial .empty tally tally) launched)).2.db.activeHolders
        "harbour" .planner = [m] ∧ m.sessionId = "bob" := by
  have hmeets : Trace.Meets crewStep KeepsRolesFree (.initial .empty tally tally) launched := by
    refine ⟨fun hchannel => ?_, trivial, fun _ _ hexclusive => ?_, trivial⟩
    · cases hchannel
    · cases hexclusive
  have hop : KeepsRolesFree (Trace.run crewStep (.initial .empty tally tally) launched)
      (.updateSessionRole (connectedAs "alice") "harbour" "bob" .planner) :=
    fun _ _ => ⟨fun _ => (List.length_filter_le _ _).trans (by decide), fun _ => rfl⟩
  exact (crew_oneHolder rfl rfl launched hmeets).2 (connectedAs "alice") "harbour" "bob" _ _ rfl hop

/-- Two planners register in one channel; and one promoted from outside it leaves it without. -/
theorem crew_two_planners_and_none :
    ¬((Trace.run crewStep (.initial .empty tally tally) (launched ++
      [.registerSession (connectedAs "alice") (registration (some "harbour") "carol" .planner),
        .registerSession (connectedAs "alice") (registration (some "harbour") "dave" .planner)])
        ).db.activeHolders "harbour" .planner).length ≤ 1 ∧
    ∃ receipt w', Runtime.updateSessionRole (connectedAs "alice") "harbour" "erin" .planner
      (Trace.run crewStep (.initial .empty tally tally) (launched ++
        [.registerSession (connectedAs "alice") (registration (some "harbour") "carol" .planner),
          .registerSession (connectedAs "alice") (registration none "erin" .worker)])) =
        (.ok receipt, w') ∧ w'.db.activeHolders "harbour" .planner = [] :=
  ⟨by decide, _, _, rfl, rfl⟩

end Wardroom.Crew
