import Wardroom.Runtime.Liveness
import Wardroom.Runtime.Native.SendEffects

/-! # Archives as steps

An archive ends the runtimes bound to a channel one after another and then
closes it. The members and the runtimes are read once, before the first await;
the store and the service take other calls while a supervisor is awaited.
-/

namespace Wardroom.Lifecycle
open Wardroom.Library Wardroom.Domain Wardroom.Storage Wardroom.Runtime Prog

structure ChannelArchiveInput where
  channelId : String
  force : Bool
  deriving DecidableEq, Repr

structure ChannelArchiveRuntime where
  runtimeId : String
  sessionId : String
  generation : Nat
  deriving DecidableEq, Repr

structure ArchivePolicy where
  requiresForce : Bool
  activeMemberships : Nat
  activeRuntimes : Nat
  deriving DecidableEq, Repr

inductive TerminationOutcome where
  | terminated
  | failed (error : String)
  deriving DecidableEq, Repr

def TerminationOutcome.isFailed : TerminationOutcome → Bool
  | .terminated => false
  | .failed _ => true

structure RuntimeStep where
  runtime : ChannelArchiveRuntime
  outcome : TerminationOutcome
  deriving DecidableEq, Repr

inductive ArchiveStep where
  | runtimes (ok : Bool) (results : List RuntimeStep)
  | memberships (ok : Bool) (ended remaining : Nat)
  | channel (ok : Bool) (state : Option LifecycleState) (result : MutationReceipt)

structure ArchiveError where
  code : String
  message : String
  deriving DecidableEq, Repr

structure ArchiveResponse where
  channelId : String
  completed : Bool
  policy : ArchivePolicy
  steps : List ArchiveStep
  error : Option ArchiveError

/-- The rows are only counted. -/
def activeChannelMemberships (db : Database) (channelId : String) : List Membership :=
  db.memberships.select fun m => m.channelId = channelId && m.active

def archiveRuntime (r : Runtime) : ChannelArchiveRuntime := ⟨r.runtimeId, r.sessionId, r.generation⟩

/-- A runtime that is bound to the channel and has neither an end nor a final state. -/
def attachedTo (d : Daemon) (channelId : String) (r : Runtime) : Bool :=
  (d.binding r.runtimeId).bind RuntimeBinding.channelId = some channelId && r.endedAt.isNone && r.state.occupies

def activeChannelRuntimes (d : Daemon) (channelId : String) : List ChannelArchiveRuntime :=
  (d.list.filter (attachedTo d channelId)).map archiveRuntime

/-- A call at the `await` of one termination. -/
structure ArchiveCall where
  input : ChannelArchiveInput
  policy : ArchivePolicy
  results : List RuntimeStep
  awaited : ChannelArchiveRuntime
  rest : List ChannelArchiveRuntime

/-- The daemon, the archive calls under way and what earlier ones answered. -/
structure Archiving where
  hosted : Hosted
  calls : List ArchiveCall
  responses : List (ChannelArchiveInput × Except Failure ArchiveResponse)

/-- How the supervisor calls of a termination settle. -/
inductive TerminationReply where
  | done
  | failed (error : Failure)

def archiveForceRequired : ArchiveError :=
  ⟨"archiveForceRequired", "channel archive requires explicit force while sessions or runtimes remain attached"⟩

def archiveRuntimeTerminationFailed : ArchiveError :=
  ⟨"archiveRuntimeTerminationFailed", "one or more channel runtimes could not be terminated"⟩

def channelMissing (channelId : String) : Failure :=
  .runtime ("cannot archive channel \"" ++ channelId ++ "\": channel does not exist")

def archivePolicy (d : Daemon) (channel : Channel) : ArchivePolicy :=
  let memberRows := activeChannelMemberships d.db channel.id
  let runtimeRows := activeChannelRuntimes d channel.id
  ⟨channel.lifecycleState = .active && (0 < memberRows.length || 0 < runtimeRows.length), memberRows.length,
    runtimeRows.length⟩

/-- The close and the report on what remains. Nothing interleaves with it. -/
def closeArchived (input : ChannelArchiveInput) (policy : ArchivePolicy) (results : List RuntimeStep) :
    Action ArchiveResponse := do
  let closeResult ← onStore (closeChannel input.channelId)
  let d ← read
  let remainingMemberships := (activeChannelMemberships d.db input.channelId).length
  let remainingRuntimes := (activeChannelRuntimes d input.channelId).length
  let state := (d.db.currentChannel input.channelId).map Channel.lifecycleState
  let closed : Bool := state = some .closed
  pure
    { channelId := input.channelId
      completed := closed && remainingMemberships == 0 && remainingRuntimes == 0
      policy := policy
      steps := [
        .runtimes (remainingRuntimes == 0) results,
        .memberships (remainingMemberships == 0) policy.activeMemberships remainingMemberships,
        .channel closed state closeResult]
      error := none }

/-- `runtimeService.terminate` from the answer of the supervisor on. -/
def terminated (runtime : ChannelArchiveRuntime) (reply : TerminationReply) (d : Daemon) :
    TerminationOutcome × Daemon :=
  match reply with
  | .failed error => (.failed error.message, d)
  | .done =>
    match markState runtime.runtimeId runtime.generation .terminated (some "operator terminated") d with
    | (.ok _, d') => (.terminated, d')
    | (.error error, d') => (.failed error.message, d')

namespace Archiving

def answered (s : Archiving) (input : ChannelArchiveInput) (response : Except Failure ArchiveResponse) :
    Archiving :=
  { s with responses := s.responses ++ [(input, response)] }

def withDaemon (s : Archiving) (d : Daemon) : Archiving := { s with hosted := { s.hosted with daemon := d } }

/-- The rest of a call, up to its next await. -/
def proceed (s : Archiving) (input : ChannelArchiveInput) (policy : ArchivePolicy) (results : List RuntimeStep) :
    List ChannelArchiveRuntime → Archiving
  | runtime :: rest => { s with calls := s.calls ++ [⟨input, policy, results, runtime, rest⟩] }
  | [] =>
    if results.any fun step => step.outcome.isFailed then
      s.answered input (.ok ⟨input.channelId, false, policy, [.runtimes false results],
        some archiveRuntimeTerminationFailed⟩)
    else
      let closing := closeArchived input policy results s.hosted.daemon
      (s.withDaemon closing.2).answered input closing.1

/-- `archiveChannelLifecycle` up to its first await. -/
def archive (s : Archiving) (input : ChannelArchiveInput) : Archiving :=
  let d := s.hosted.daemon
  match d.db.currentChannel input.channelId with
  | none => s.answered input (.error (channelMissing input.channelId))
  | some channel =>
    let policy := archivePolicy d channel
    if policy.requiresForce && !input.force then
      s.answered input (.ok ⟨input.channelId, false, policy, [], some archiveForceRequired⟩)
    else s.proceed input policy [] (activeChannelRuntimes d input.channelId)

/-- A call goes on with the outcome of the termination it awaited. -/
def settle (s : Archiving) (call : ArchiveCall) (reply : TerminationReply) : Archiving :=
  let (outcome, d) := terminated call.awaited reply s.hosted.daemon
  (s.withDaemon d).proceed call.input call.policy (call.results ++ [⟨call.awaited, outcome⟩]) call.rest

end Archiving

/-- The commands of the store by which sessions come to a channel and leave it. -/
def enrols : StoreOp → Bool
  | .insertSession _ => true
  | .registerSession .. => true
  | .insertMembership .. => true
  | .leaveMembership .. => true
  | .markSessionEnded _ => true
  | _ => false

inductive ArchiveEvent where
  | hosting (event : HostingEvent)
  | store (op : {op : StoreOp // enrols op = true})
  | archive (input : ChannelArchiveInput)
  /-- The termination that the i-th call awaits has settled. -/
  | settled (i : Nat) (reply : TerminationReply)

namespace Archiving

def step (options : RuntimeServiceOptions) (s : Archiving) : ArchiveEvent → Archiving
  | .hosting event => { s with hosted := Hosting.step options s.hosted event }
  | .store op => s.withDaemon { s.hosted.daemon with store := storeStep s.hosted.daemon.store op }
  | .archive input => s.archive input
  | .settled i reply =>
    match s.calls[i]? with
    | none => s
    | some call => { s with calls := s.calls.eraseIdx i }.settle call reply

theorem step_settled (options : RuntimeServiceOptions) {s : Archiving} {i : Nat} {call : ArchiveCall}
    (hcall : s.calls[i]? = some call) (reply : TerminationReply) :
    s.step options (.settled i reply) = { s with calls := s.calls.eraseIdx i }.settle call reply := by
  rw [step, hcall]

end Archiving

def ChannelClosedIn (db : Database) (channelId : String) : Prop :=
  (db.currentChannel channelId).map Channel.lifecycleState = some .closed

instance (db : Database) (channelId : String) : Decidable (ChannelClosedIn db channelId) :=
  inferInstanceAs (Decidable (_ = _))

/-- A closed channel that still has an active membership. -/
def Stranded (db : Database) (channelId : String) : Prop :=
  ChannelClosedIn db channelId ∧ activeChannelMemberships db channelId ≠ []

theorem channelClosedIn_iff {db : Database} {channelId : String} :
    ChannelClosedIn db channelId ↔
      (db.currentChannel channelId).isSome = true ∧ db.channelActive channelId = false := by
  unfold ChannelClosedIn Database.channelActive
  cases db.currentChannel channelId with
  | none => simp
  | some channel => cases hstate : channel.lifecycleState <;> simp [hstate]

/-- What the close of a channel does to the channels and their members. -/
inductive ClosedNow (channelId : String) (db db' : Database) : Prop
  | already (hclosed : db.channelActive channelId = false) (hchannels : db'.channels = db.channels)
      (hmemberships : db'.memberships = db.memberships)
  | mk (hactive : db.channelActive channelId = true) (closedAt : String)
      (hchannels : db'.channels = (db.close channelId closedAt).channels)
      (hmemberships : db'.memberships = (db.close channelId closedAt).memberships)

theorem closeChannel_settles {w : World} (hrest : w.transactionDepth = 0) (channelId : String) :
    Settles (closeChannel channelId) w fun _ db' => ClosedNow channelId w.db db' := by
  apply write_settles rfl hrest
  apply ensures_write
  intro n
  simp only [Ensures, wp_bind, wp_database]
  cases hchannel : w.db.currentChannel channelId with
  | none => exact .refl _
  | some channel =>
    simp only [wp_ite, wp_unchanged, wp_bind, wp_now, wp_modifyDatabase]
    constructor
    · intro hclosed
      exact ⟨.already (by simp [Database.channelActive, hchannel, hclosed]) rfl rfl, .refl _⟩
    · intro hopen
      have hactive : w.db.channelActive channelId = true := by
        cases hstate : channel.lifecycleState with
        | active => simp [Database.channelActive, hchannel, hstate]
        | closed => exact absurd hstate hopen
      refine ensures_appendChange ⟨rfl, rfl, rfl, le_rfl⟩ fun _ => ?_
      exact .mk hactive _ rfl rfl

section Close

variable {db db' : Database} {channelId other : String}

theorem channelActive_congr (hchannels : db'.channels = db.channels) (id : String) :
    db'.channelActive id = db.channelActive id := by
  simp only [Database.channelActive, Database.currentChannel, hchannels]

theorem stranded_congr (hchannels : db'.channels = db.channels) (hmemberships : db'.memberships = db.memberships) :
    Stranded db' other ↔ Stranded db other := by
  simp only [Stranded, ChannelClosedIn, activeChannelMemberships, Database.currentChannel, hchannels, hmemberships]

theorem ClosedNow.after {db₁ : Database} (h : ClosedNow channelId db₁ db') (hchannels : db₁.channels = db.channels)
    (hmemberships : db₁.memberships = db.memberships) : ClosedNow channelId db db' := by
  cases h with
  | already hclosed hchannels' hmemberships' =>
    rw [channelActive_congr hchannels] at hclosed
    exact .already hclosed (hchannels'.trans hchannels) (hmemberships'.trans hmemberships)
  | mk hactive closedAt hchannels' hmemberships' =>
    rw [channelActive_congr hchannels] at hactive
    simp only [Database.close, hchannels] at hchannels'
    simp only [Database.close, hmemberships] at hmemberships'
    exact .mk hactive closedAt hchannels' hmemberships'

theorem currentChannel_close {closedAt : String} (hchannels : db'.channels = (db.close channelId closedAt).channels)
    (id : String) : db'.currentChannel id = (db.currentChannel id).map fun c =>
      if c.id = channelId then { c with lifecycleState := .closed, closedAt := some closedAt } else c := by
  have hrows : db'.channels.rows = db.channels.rows.map fun c => if decide (c.id = channelId) then
      { c with lifecycleState := .closed, closedAt := some closedAt } else c := by rw [hchannels]; rfl
  have hfound := Table.find?_rewrite hrows (Channel.id_closed closedAt) id
  simp only [decide_eq_true_eq] at hfound
  exact hfound

theorem ClosedNow.channelActive (h : ClosedNow channelId db db') :
    db'.channelActive other = true ↔ db.channelActive other = true ∧ other ≠ channelId := by
  cases h with
  | already hclosed hchannels _ =>
    rw [channelActive_congr hchannels]
    constructor
    · intro hactive
      refine ⟨hactive, ?_⟩
      rintro rfl
      rw [hclosed] at hactive
      cases hactive
    · exact fun hactive => hactive.1
  | mk hactive closedAt hchannels _ =>
    unfold Database.channelActive
    rw [currentChannel_close hchannels]
    cases hother : db.currentChannel other with
    | none => simp
    | some channel =>
      obtain rfl : channel.id = other := (Table.find?_some hother).2
      by_cases hid : channel.id = channelId <;> simp [hid]

theorem ClosedNow.isSome (h : ClosedNow channelId db db') :
    (db'.currentChannel other).isSome = (db.currentChannel other).isSome := by
  cases h with
  | already _ hchannels _ => simp only [Database.currentChannel, hchannels]
  | mk _ closedAt hchannels _ => rw [currentChannel_close hchannels, Option.isSome_map]

theorem mem_activeChannelMemberships {m : Membership} :
    m ∈ activeChannelMemberships db channelId ↔
      m ∈ db.memberships.rows ∧ m.channelId = channelId ∧ m.active = true := by
  simp [activeChannelMemberships, Table.mem_select]

theorem activeChannelMemberships_close {closedAt : String}
    (hmemberships : db'.memberships = (db.close channelId closedAt).memberships) :
    activeChannelMemberships db' other = if other = channelId then [] else activeChannelMemberships db other := by
  have hended (m : Membership) : (decide (({ m with sessionEndedAt := some closedAt } : Membership).channelId = other) &&
      ({ m with sessionEndedAt := some closedAt } : Membership).active) = false := by
    simp [Membership.active]
  have hrows : activeChannelMemberships db' other = (activeChannelMemberships db other).filter fun m =>
      !decide (m.channelId = channelId ∧ m.active = true) := by
    unfold activeChannelMemberships
    rw [hmemberships]
    exact Table.filter_rewrite_off hended
  rw [hrows]
  by_cases hid : other = channelId
  · rw [if_pos hid, List.filter_eq_nil_iff]
    intro m hm
    obtain ⟨_, hchannel, hactive⟩ := mem_activeChannelMemberships.mp hm
    simp [hchannel, hid, hactive]
  · rw [if_neg hid, List.filter_eq_self]
    intro m hm
    obtain ⟨_, hchannel, _⟩ := mem_activeChannelMemberships.mp hm
    simp [hchannel, hid]

theorem ClosedNow.stranded (h : ClosedNow channelId db db') : Stranded db' other ↔ Stranded db other := by
  cases h with
  | already _ hchannels hmemberships => exact stranded_congr hchannels hmemberships
  | mk hactive closedAt hchannels hmemberships =>
    unfold Stranded
    rw [activeChannelMemberships_close hmemberships, channelClosedIn_iff, channelClosedIn_iff,
      currentChannel_close hchannels, Option.isSome_map]
    by_cases hid : other = channelId
    · simp [hid, hactive]
    · have hsame : db'.channelActive other = db.channelActive other := by
        rw [Bool.eq_iff_iff, (ClosedNow.mk hactive closedAt hchannels hmemberships).channelActive]
        simp [hid]
      simp [hid, hsame]

end Close

/-- The channels, their members and the depth of nested write calls. -/
def berths (d : Daemon) : Table Channel.id × Table Membership.key × Nat :=
  (d.db.channels, d.db.memberships, d.store.transactionDepth)

section Berths

variable {d d' : Daemon}

theorem channels_of_berths (h : berths d' = berths d) : d'.db.channels = d.db.channels :=
  congrArg (fun part => part.1) h

theorem memberships_of_berths (h : berths d' = berths d) : d'.db.memberships = d.db.memberships :=
  congrArg (fun part => part.2.1) h

theorem depth_of_berths (h : berths d' = berths d) : d'.store.transactionDepth = d.store.transactionDepth :=
  congrArg (fun part => part.2.2) h

end Berths

theorem steady_berths : Steady berths where
  restore d d' h := by
    have hdepth := depth_of_berths h
    exact congrArg (fun depth => (d.db.channels, d.db.memberships, depth)) hdepth
  runtimes _ _ := rfl
  now _ := rfl
  lifecycle channelId sessionId runtimeId generation state endedAt d := by
    have hsame := steady_conversation.lifecycle channelId sessionId runtimeId generation state endedAt d
    have hdepth := steady_depth.lifecycle channelId sessionId runtimeId generation state endedAt d
    exact Prod.ext (congrArg (fun part => part.2.1) hsame) (Prod.ext (congrArg (fun part => part.2.2.1) hsame) hdepth)
  delivery messageId statuses d := by
    have hsame := steady_conversation.delivery messageId statuses d
    have hdepth := steady_depth.delivery messageId statuses d
    exact Prod.ext (congrArg (fun part => part.2.1) hsame) (Prod.ext (congrArg (fun part => part.2.2.1) hsame) hdepth)

def SameBerths (d d' : Daemon) : Prop := berths d' = berths d

instance : IsPreorder Daemon SameBerths where
  refl _ := rfl
  trans _ _ _ h h' := h'.trans h

theorem conducts_berths (marked : Option (String × RuntimeState)) : Conducts SameBerths marked where
  now _ := rfl
  randomUUID _ := rfl
  transaction := frame_transaction steady_berths (frame_pure _)
  create _ input := frame_createRuntime steady_berths input
  claim := frame_setProviderThreadId steady_berths fun _ _ => rfl
  bind := frame_bindRuntime steady_berths fun _ _ => rfl
  mark _ := frame_markState steady_berths _ _ _ _

theorem hosting_berths (options : RuntimeServiceOptions) (h : Hosted) (event : HostingEvent) :
    berths (Hosting.step options h event).daemon = berths h.daemon :=
  step_leads options h event (conducts_berths _)

theorem terminated_berths (runtime : ChannelArchiveRuntime) (reply : TerminationReply) (d : Daemon) :
    berths (terminated runtime reply d).2 = berths d := by
  cases reply with
  | failed error => rfl
  | done =>
    have hframe := frame_markState steady_berths runtime.runtimeId runtime.generation .terminated
      (some "operator terminated") d
    unfold terminated
    dsimp only
    generalize markState runtime.runtimeId runtime.generation .terminated (some "operator terminated") d = marking
      at hframe
    rcases marking with ⟨r, d'⟩
    cases r <;> exact hframe

/-- The commands that enrol leave the channels, and bring nobody into one that is closed. -/
structure Enrolled (db db' : Database) : Prop where
  channels : db'.channels = db.channels
  memberships : ∀ m ∈ db'.memberships.rows, m.active = true →
    (∃ m' ∈ db.memberships.rows, m'.channelId = m.channelId ∧ m'.active = true) ∨
      db.channelActive m.channelId = true

section Enrolled

variable {db db' : Database} {channelId sessionId : String}

theorem Enrolled.after {db₁ : Database} (hchannels : db₁.channels = db.channels)
    (hmemberships : db₁.memberships = db.memberships) (h : Enrolled db₁ db') : Enrolled db db' where
  channels := h.channels.trans hchannels
  memberships := by
    intro m hm hactive
    have hjoined := h.memberships m hm hactive
    rw [hmemberships] at hjoined
    have hsame : db₁.channelActive m.channelId = db.channelActive m.channelId := by
      rw [Database.channelActive, Database.currentChannel, hchannels]
      rfl
    rwa [hsame] at hjoined

theorem Enrolled.refl (db : Database) : Enrolled db db := ⟨rfl, fun m hm hactive => .inl ⟨m, hm, rfl, hactive⟩⟩

theorem Enrolled.of_update (hchannels : db'.channels = db.channels) {p : Membership → Bool} {f : Membership → Membership}
    (hrows : db'.memberships.rows = db.memberships.rows.map fun m => if p m then f m else m)
    (hf : ∀ m, (f m).active = false) : Enrolled db db' where
  channels := hchannels
  memberships := by
    intro m hm hactive
    rw [hrows] at hm
    obtain ⟨m', hm', rfl⟩ := List.mem_map.mp hm
    by_cases hp : p m' = true
    · rw [if_pos hp, hf] at hactive
      cases hactive
    · rw [if_neg hp] at hactive ⊢
      exact .inl ⟨m', hm', rfl, hactive⟩

theorem Enrolled.of_joined {role : Option SessionRole} (h : Joined channelId sessionId role db db') :
    Enrolled db db' := by
  cases h with
  | already hmember => exact .refl db
  | joined joinedAt at' memberships hchannel hsession hnew hinsert =>
    refine ⟨rfl, fun m hm hactive => ?_⟩
    change m ∈ memberships.rows at hm
    rw [(Table.insert?_eq_some.mp hinsert).2, List.mem_append, List.mem_singleton] at hm
    rcases hm with hm | rfl
    · exact .inl ⟨m, hm, rfl, hactive⟩
    · exact .inr hchannel

theorem Enrolled.of_sessionInserted {input : SessionInput} (h : SessionInserted input db db') : Enrolled db db' := by
  cases h with
  | mk registeredAt at' sessions hinsert => exact ⟨rfl, (Enrolled.refl db).memberships⟩

theorem Enrolled.of_registered {role : SessionRole} {externalId : Option String}
    (h : Registered channelId sessionId role externalId db db') : Enrolled db db' := by
  cases h with
  | inserted input hid hrole hinserted hjoined =>
    have hsame := Enrolled.of_joined hjoined
    cases hinserted with
    | mk registeredAt at' sessions hinsert => exact ⟨hsame.channels, hsame.memberships⟩
  | found hsession hfree htouched hjoined =>
    exact .after htouched.channels htouched.memberships (.of_joined hjoined)

theorem Enrolled.of_left (h : Left channelId sessionId db db') : Enrolled db db' := by
  cases h with
  | mk joined leftAt at' hjoined =>
    refine .of_update rfl rfl fun m => ?_
    simp [Membership.active]

theorem Enrolled.of_sessionEnded (h : SessionEnded sessionId db db') : Enrolled db db' := by
  cases h with
  | mk endedAt at' memberships =>
    refine .of_update rfl rfl fun m => ?_
    simp [Membership.active]

theorem enrolled_of_write {α : Type} {x body : Command α} {w : World} {P : α → Database → Prop} (hx : x = write body)
    (hrest : w.transactionDepth = 0) (h : Ensures x w P) (hP : ∀ a db', P a db' → Enrolled w.db db') :
    Enrolled w.db (receiptless x w).2.db ∧ (receiptless x w).2.transactionDepth = w.transactionDepth := by
  have hsettles := write_settles hx hrest h
  refine ⟨?_, hsettles.keeps.transactionDepth⟩
  rcases hsettles.outcome with ⟨a, _, hpost⟩ | ⟨_, hdb⟩
  · exact hP a _ hpost
  · change Enrolled w.db (x w).2.db
    rw [hdb]
    exact .refl _

theorem storeStep_enrolled {w : World} (hrest : w.transactionDepth = 0) {op : StoreOp} (henrols : enrols op = true) :
    Enrolled w.db (storeStep w op).db ∧ (storeStep w op).transactionDepth = w.transactionDepth := by
  cases op with
  | insertSession input =>
    exact enrolled_of_write rfl hrest (insertSession_effect w input) fun _ _ h => .of_sessionInserted h
  | registerSession channelId sessionId role externalId deliveryMode provenance =>
    exact enrolled_of_write rfl hrest
      (registerSession_effect w channelId sessionId role externalId deliveryMode provenance) fun _ _ h => .of_registered h
  | insertMembership channelId sessionId role =>
    exact enrolled_of_write rfl hrest (insertMembership_effect w channelId sessionId role) fun _ _ h =>
      .of_joined h
  | leaveMembership channelId sessionId =>
    exact enrolled_of_write rfl hrest (leaveMembership_effect w channelId sessionId) fun _ _ h => .of_left h
  | markSessionEnded sessionId =>
    exact enrolled_of_write rfl hrest (markSessionEnded_effect w sessionId) fun _ _ h => .of_sessionEnded h
  | _ => cases henrols

end Enrolled

def ArchiveStep.terminations : ArchiveStep → List RuntimeStep
  | .runtimes _ results => results
  | _ => []

/-- The answer of a call whose terminations have all succeeded. -/
structure Succeeded (response : ArchiveResponse) : Prop where
  error : response.error = none
  all : (response.steps.flatMap ArchiveStep.terminations).length = response.policy.activeRuntimes
  terminated : ∀ step ∈ response.steps.flatMap ArchiveStep.terminations, step.outcome = .terminated

/-- Nobody is a member of the channel, and no runtime that is bound to it is live. -/
def Unattached (d : Daemon) (channelId : String) : Prop :=
  activeChannelMemberships d.db channelId = [] ∧ activeChannelRuntimes d channelId = []

/-- What is known of a call under way: without force its channel is not open. -/
structure ArchiveCall.Sound (db : Database) (call : ArchiveCall) : Prop where
  unforced : call.input.force = false → db.channelActive call.input.channelId = false
  counted : call.results.length + (call.rest.length + 1) = call.policy.activeRuntimes

structure Orderly (s : Archiving) : Prop where
  rest : s.hosted.daemon.AtRest
  sound : ∀ call ∈ s.calls, call.Sound s.hosted.daemon.db

/-- An archive leaves the channels and their members, or answers a call and closes its channel. -/
inductive Does (s s' : Archiving) : Prop
  | leaves (hberths : berths s'.hosted.daemon = berths s.hosted.daemon)
      (hcalls : ∀ call ∈ s'.calls, call ∈ s.calls ∨ call.Sound s.hosted.daemon.db)
  | closes (input : ChannelArchiveInput) (response : ArchiveResponse)
      (hresponses : s'.responses = s.responses ++ [(input, .ok response)]) (hsucceeded : Succeeded response)
      (hclosed : ClosedNow input.channelId s.hosted.daemon.db s'.hosted.daemon.db)
      (hforce : input.force = false →
        s.hosted.daemon.db.channelActive input.channelId = false ∨ Unattached s.hosted.daemon input.channelId)
      (hrest : s'.hosted.daemon.AtRest) (hcalls : ∀ call ∈ s'.calls, call ∈ s.calls)

theorem closeArchived_effect {d : Daemon} (hrest : d.AtRest) (input : ChannelArchiveInput) {policy : ArchivePolicy}
    {results : List RuntimeStep} (hall : results.length = policy.activeRuntimes)
    (hterminated : ∀ step ∈ results, step.outcome = .terminated) :
    wp (closeArchived input policy results)
      (fun response d' => Succeeded response ∧ ClosedNow input.channelId d.db d'.db ∧ d'.AtRest)
      (fun _ d' => berths d' = berths d) d := by
  unfold closeArchived
  rw [wp_bind, wp_onStore]
  apply wp_mono (closeChannel_settles hrest input.channelId)
  · rintro receipt w' ⟨hclosed, hkeeps⟩
    refine ⟨⟨rfl, ?_, ?_⟩, hclosed, hkeeps.transactionDepth.trans hrest⟩
    · simpa [ArchiveStep.terminations] using hall
    · simpa [ArchiveStep.terminations] using hterminated
  · rintro error w' ⟨hdb, hkeeps⟩
    change (w'.db.channels, w'.db.memberships, w'.transactionDepth) = _
    rw [hdb, hkeeps.transactionDepth]
    rfl

end Wardroom.Lifecycle
