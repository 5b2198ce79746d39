import Wardroom.Federation.ChannelHome
import Wardroom.Library.Trace

/-! # The subscription to a channel of another home

A route file keeps how far the messages of the channel have been consumed.
Registrations and polls read it and rename a new file over it, each in steps of
its own, while the home commits what it likes.
-/

namespace Wardroom.Federation
open Wardroom.Library Wardroom.Library.JsonText Wardroom.Domain Wardroom.Storage

structure NewChange where
  channelId : Option String
  payload : Payload
  occurredAt : String
  sourceOrdinal : Option Int

/-- What the home does: it may append a change, and its other tables are what it likes. -/
structure HomeStep where
  tables : Database
  change : NewChange
  numeric : ∀ event, change.payload = .messageSent event → (treeOf event).Writable

namespace ChannelHome

def commit (home : ChannelHome) (c : HomeStep) : ChannelHome where
  db := { c.tables with
    changes := home.db.changes.append c.change.channelId c.change.payload c.change.occurredAt
      c.change.sourceOrdinal }
  numeric := by
    intro message hmem
    obtain ⟨hrow, hsent⟩ := mem_sentOf.mp hmem
    rcases List.mem_append.mp hrow with hold | hnew
    · exact home.numeric message (mem_sentOf.mpr ⟨hold, hsent⟩)
    · refine c.numeric message.2 ?_
      rw [List.mem_singleton.mp hnew] at hsent
      unfold Change.sent? at hsent
      split at hsent
      · rename_i event hevent
        exact hevent.trans (congrArg _ (Option.some.inj hsent))
      · cases hsent

end ChannelHome

/-- The record of a route; `registeredAt` is where the home was at its registration, which is not stored. -/
structure FederatedChannelRoute where
  cursor : Nat
  createdAt : JsString
  registeredAt : Nat
  deriving DecidableEq

/-- Where a registration or a poll is. -/
inductive RouteTask where
  /-- `upsertFederatedChannelRoute` reads next. -/
  | registering (cursor registeredAt : Nat)
  | asked (route : FederatedChannelRoute)
  /-- The messages of a page that are still to be handled, and its cursor. -/
  | handling (route : FederatedChannelRoute) (cursor : JsString) (events : List Tree)
  /-- `advanceFederatedChannelRouteCursor` reads next. -/
  | advancing (route : FederatedChannelRoute) (cursor : Nat)
  | writing (found : Option FederatedChannelRoute) (record : FederatedChannelRoute)
  | ended

structure Subscription where
  home : ChannelHome
  route : Option FederatedChannelRoute
  /-- The messages that the local runtime has been given. -/
  delivered : List Tree
  tasks : List RouteTask

inductive DeliveryResult where
  | accepted
  | runtimeNotFound
  | failed
  deriving DecidableEq

inductive SubscriptionEvent where
  | commit (step : HomeStep)
  /-- The home answers a registration; an older one did not tell its cursor. -/
  | register (withCursor : Bool)
  | poll
  /-- The home answers the i-th task. -/
  | answer (i : Nat)
  | handle (i : Nat) (result : DeliveryResult)
  /-- The i-th task reads the route. -/
  | read (i : Nat) (now : JsString)
  | write (i : Nat)
  | abort (i : Nat)

/-- `value.includes(recipient)`. -/
def includesText (value : Option Tree) (recipient : JsString) : Bool :=
  match value with
  | some (.array elements) => elements.any fun element =>
      match element with
      | .string s => s = recipient
      | _ => false
  | _ => false

def textOf (value : Option Tree) : Option JsString :=
  match value with
  | some (.string s) => some s
  | _ => none

/-- The message names the session among its targets. -/
def Addressed (recipient : JsString) (event : Tree) : Prop :=
  let target := event.get (text "target")
  textOf (target.bind fun target => target.get (text "sessionId")) = some recipient ∨
    includesText (target.bind fun target => target.get (text "sessionIds")) recipient = true

/-- The commit of the home recorded the session as delivered. -/
def Recorded (recipient : JsString) (event : Tree) : Prop :=
  includesText (event.get (text "deliveredRecipientSessionIds")) recipient = true

instance (recipient : JsString) (event : Tree) : Decidable (Addressed recipient event) :=
  inferInstanceAs (Decidable (_ ∨ _))

instance (recipient : JsString) (event : Tree) : Decidable (Recorded recipient event) :=
  inferInstanceAs (Decidable (_ = true))

/-- Its timestamp from the home is before that of the route. -/
def OccurredBefore (createdAt : JsString) (event : Tree) : Prop :=
  ∃ occurredAt ∈ textOf (event.get (text "occurredAt")), occurredAt < createdAt

instance (createdAt : JsString) (event : Tree) : Decidable (OccurredBefore createdAt event) :=
  inferInstanceAs (Decidable (∃ occurredAt ∈ textOf (event.get (text "occurredAt")), occurredAt < createdAt))

/-- The members that a message from the home must have. -/
def isCanonical (event : Tree) : Bool :=
  (textOf (event.get (text "id"))).isSome && (textOf (event.get (text "body"))).isSome &&
    (match event.get (text "deliveredRecipientSessionIds") with | some (.array _) => true | _ => false) &&
    (textOf (event.get (text "occurredAt"))).isSome

namespace Subscription

/-- The session that consumes the channel, and the ids of one poll. -/
structure Consumer where
  authorityId : JsString
  localSessionId : JsString
  channelId : JsString
  requestId : JsString

namespace Consumer

def recipient (c : Consumer) : JsString := canonicalRemoteSession c.authorityId c.localSessionId

def channel (c : Consumer) : String := sqlText c.channelId

end Consumer

variable (c : Consumer)

def enter (s : Subscription) (i : Nat) (task : RouteTask) : Subscription := { s with tasks := s.tasks.set i task }

/-- One message of a page: it is skipped, or given to the local runtime. -/
def handleBy (s : Subscription) (i : Nat) (result : DeliveryResult) : RouteTask → Subscription
  | .handling route cursor (event :: events) =>
    if isCanonical event = false then s.enter i .ended
    else if OccurredBefore route.createdAt event ∨ ¬Recorded c.recipient event then
      s.enter i (.handling route cursor events)
    else if result = .accepted then
      { s.enter i (.handling route cursor events) with delivered := event :: s.delivered }
    else s.enter i .ended
  | .handling route cursor [] =>
    match CursorCodec.decode (sqlText cursor) with
    | some n => s.enter i (.advancing route n)
    | none => s.enter i .ended
  | _ => s

def answerBy (s : Subscription) (i : Nat) : RouteTask → Subscription
  | .asked route =>
    match askPage s.home c.authorityId c.requestId c.localSessionId c.channelId (cursorText route.cursor) with
    | .ok page => s.enter i (.handling route page.cursor page.messages)
    | .error _ => s.enter i .ended
  | _ => s

def readBy (s : Subscription) (i : Nat) (now : JsString) : RouteTask → Subscription
  | .registering cursor registeredAt =>
    s.enter i (.writing s.route (s.route.getD ⟨cursor, now, registeredAt⟩))
  | .advancing _ cursor =>
    match s.route with
    | some current =>
      if cursor ≤ current.cursor then s.enter i .ended
      else s.enter i (.writing (some current) { current with cursor := cursor })
    | none => s.enter i .ended
  | _ => s

def writeBy (s : Subscription) (i : Nat) : RouteTask → Subscription
  | .writing _ record => { s.enter i .ended with route := some record }
  | _ => s

def step (s : Subscription) : SubscriptionEvent → Subscription
  | .commit homeStep => { s with home := s.home.commit homeStep }
  | .register withCursor =>
    let latest := s.home.db.changes.latestCursor
    { s with tasks := s.tasks ++ [.registering (if withCursor then latest else 0) latest] }
  | .poll => { s with tasks := s.tasks ++ s.route.toList.map .asked }
  | .answer i => s.tasks[i]?.elim s (answerBy c s i)
  | .handle i result => s.tasks[i]?.elim s (handleBy c s i result)
  | .read i now => s.tasks[i]?.elim s (readBy s i now)
  | .write i => s.tasks[i]?.elim s (writeBy s i)
  | .abort i => s.enter i .ended

/-- What has become of a message that the cursor has passed. -/
structure Accounted (s : Subscription) (createdAt : JsString) (event : Tree) : Prop where
  /-- It was delivered, here or by the home. -/
  kept : event ∈ s.delivered ∨ Recorded c.recipient event
  /-- Here, unless its timestamp was before that of the route. -/
  injected : Recorded c.recipient event → OccurredBefore createdAt event ∨ event ∈ s.delivered

/-- The messages up to a cursor that were committed after the registration and addressed to the session. -/
def Covered (s : Subscription) (route : FederatedChannelRoute) (cursor : Nat) : Prop :=
  ∀ message ∈ messagesAfter s.home.db c.channel route.registeredAt, message.1.cursor ≤ cursor →
    Addressed c.recipient (treeOf message.2) → s.Accounted c route.createdAt (treeOf message.2)

def LosesNothing (s : Subscription) : Prop := ∀ route ∈ s.route, s.Covered c route route.cursor

/-- A route that is there stays, and its cursor does not decrease. -/
def NeverBack (before after : Option FederatedChannelRoute) : Prop :=
  ∀ route ∈ before, ∃ route' ∈ after, route.cursor ≤ route'.cursor ∧
    route'.createdAt = route.createdAt ∧ route'.registeredAt = route.registeredAt

/-- A route is written over what was read, and the home has recorded what it addressed. -/
def Orderly (s : Subscription) : SubscriptionEvent → Prop
  | .write i => ∀ found record, s.tasks[i]? = some (.writing found record) → s.route = found
  | .handle i _ => ∀ route cursor event events, s.tasks[i]? = some (.handling route cursor (event :: events)) →
      ∀ message ∈ messagesAfter s.home.db c.channel route.registeredAt, treeOf message.2 = event →
        Addressed c.recipient event → Recorded c.recipient event
  | _ => True

/-- The two are records of one registration. -/
def SameRoute (route route' : FederatedChannelRoute) : Prop :=
  route'.createdAt = route.createdAt ∧ route'.registeredAt = route.registeredAt

/-- The route has been stored, and the home is as far as the cursor. -/
structure Known (s : Subscription) (route : FederatedChannelRoute) (cursor : Nat) : Prop where
  stored : ∃ route' ∈ s.route, SameRoute route route'
  reached : cursor ≤ s.home.db.changes.latestCursor

structure Writable (s : Subscription) (found : Option FederatedChannelRoute) (record : FederatedChannelRoute) :
    Prop where
  reached : record.cursor ≤ s.home.db.changes.latestCursor
  onward : ∀ route ∈ found, route.cursor ≤ record.cursor ∧ SameRoute route record
  covered : s.Covered c record record.cursor

/-- What is left to do of a page. -/
def Remains (s : Subscription) (route : FederatedChannelRoute) (cursor : Nat) (events : List Tree) : Prop :=
  ∀ message ∈ messagesAfter s.home.db c.channel route.registeredAt, message.1.cursor ≤ cursor →
    Addressed c.recipient (treeOf message.2) →
      s.Accounted c route.createdAt (treeOf message.2) ∨ treeOf message.2 ∈ events

/-- What a task has found out and not yet stored. -/
def Sound (s : Subscription) : RouteTask → Prop
  | .registering cursor registeredAt => cursor ≤ registeredAt ∧ registeredAt ≤ s.home.db.changes.latestCursor
  | .asked route => s.Known route route.cursor ∧ s.Covered c route route.cursor
  | .handling route cursor events => ∃ n, CursorCodec.decode (sqlText cursor) = some n ∧ s.Known route n ∧
      s.Remains c route n events
  | .advancing route n => s.Known route n ∧ s.Covered c route n
  | .writing found record => s.Writable c found record
  | .ended => True

structure Inv (s : Subscription) : Prop where
  reached : ∀ route ∈ s.route, route.cursor ≤ s.home.db.changes.latestCursor
  keeps : s.LosesNothing c
  sound : ∀ task ∈ s.tasks, s.Sound c task

theorem NeverBack.refl (route : Option FederatedChannelRoute) : NeverBack route route :=
  fun r hr => ⟨r, hr, Nat.le_refl _, rfl, rfl⟩

theorem NeverBack.trans {r₁ r₂ r₃ : Option FederatedChannelRoute} (h : NeverBack r₁ r₂) (h' : NeverBack r₂ r₃) :
    NeverBack r₁ r₃ := by
  intro r hr
  obtain ⟨r', hr', hle, hcreated, hregistered⟩ := h r hr
  obtain ⟨r'', hr'', hle', hcreated', hregistered'⟩ := h' r' hr'
  exact ⟨r'', hr'', hle.trans hle', hcreated'.trans hcreated, hregistered'.trans hregistered⟩

/-- The home only appends, what was delivered stays, and the route does not go back. -/
structure Grows (s s' : Subscription) : Prop where
  latest : s.home.db.changes.latestCursor ≤ s'.home.db.changes.latestCursor
  messages : ∀ after, ∀ message ∈ messagesAfter s'.home.db c.channel after,
    message.1.cursor ≤ s.home.db.changes.latestCursor → message ∈ messagesAfter s.home.db c.channel after
  delivered : ∀ event ∈ s.delivered, event ∈ s'.delivered
  route : NeverBack s.route s'.route

section Steps
variable {c : Consumer} {s s' : Subscription} {route : FederatedChannelRoute} {cursor i : Nat}

theorem Grows.of_home (hhome : s'.home = s.home) (hdelivered : ∀ event ∈ s.delivered, event ∈ s'.delivered)
    (hroute : NeverBack s.route s'.route) : s.Grows c s' where
  latest := by rw [hhome]
  messages := by
    intro after message hmem _
    rwa [hhome] at hmem
  delivered := hdelivered
  route := hroute

theorem Grows.enter (s : Subscription) (i : Nat) (task : RouteTask) : s.Grows c (s.enter i task) :=
  .of_home rfl (fun _ h => h) (.refl _)

theorem Accounted.mono (hg : s.Grows c s') {createdAt : JsString} {event : Tree}
    (h : s.Accounted c createdAt event) : s'.Accounted c createdAt event where
  kept := h.kept.imp_left (hg.delivered event)
  injected := fun hrecorded => (h.injected hrecorded).imp_right (hg.delivered event)

theorem Covered.mono (hg : s.Grows c s') (hcursor : cursor ≤ s.home.db.changes.latestCursor)
    (h : s.Covered c route cursor) : s'.Covered c route cursor := by
  intro message hmem hle haddressed
  exact (h message (hg.messages _ message hmem (hle.trans hcursor)) hle haddressed).mono hg

theorem Known.mono (hg : s.Grows c s') (h : s.Known route cursor) : s'.Known route cursor where
  stored := by
    obtain ⟨stored, hstored, hcreated, hregistered⟩ := h.stored
    obtain ⟨later, hlater, -, hcreated', hregistered'⟩ := hg.route stored hstored
    exact ⟨later, hlater, hcreated'.trans hcreated, hregistered'.trans hregistered⟩
  reached := h.reached.trans hg.latest

theorem Remains.mono (hg : s.Grows c s') {events : List Tree} (hcursor : cursor ≤ s.home.db.changes.latestCursor)
    (h : s.Remains c route cursor events) : s'.Remains c route cursor events := by
  intro message hmem hle haddressed
  exact (h message (hg.messages _ message hmem (hle.trans hcursor)) hle haddressed).imp_left
    (Accounted.mono hg)

variable {task : RouteTask}

theorem Sound.mono (hg : s.Grows c s') (h : s.Sound c task) : s'.Sound c task := by
  cases task with
  | registering cursor registeredAt => exact ⟨h.1, h.2.trans hg.latest⟩
  | asked route => exact ⟨h.1.mono hg, h.2.mono hg h.1.reached⟩
  | handling route cursor events =>
    obtain ⟨n, hn, hknown, hremains⟩ := h
    exact ⟨n, hn, hknown.mono hg, hremains.mono hg hknown.reached⟩
  | advancing route n => exact ⟨h.1.mono hg, h.2.mono hg h.1.reached⟩
  | writing found record =>
    exact ⟨h.reached.trans hg.latest, h.onward, h.covered.mono hg h.reached⟩
  | ended => trivial

theorem Inv.next (h : s.Inv c) (hg : s.Grows c s')
    (hroute : ∀ r ∈ s'.route, r ∈ s.route ∨ r.cursor ≤ s'.home.db.changes.latestCursor ∧ s'.Covered c r r.cursor)
    (htasks : ∀ task ∈ s'.tasks, task ∈ s.tasks ∨ s'.Sound c task) : s'.Inv c where
  reached := by
    intro r hr
    rcases hroute r hr with hold | hnew
    · exact (h.reached r hold).trans hg.latest
    · exact hnew.1
  keeps := by
    intro r hr
    rcases hroute r hr with hold | hnew
    · exact (h.keeps r hold).mono hg (h.reached r hold)
    · exact hnew.2
  sound := by
    intro task hmem
    rcases htasks task hmem with hold | hnew
    · exact (h.sound task hold).mono hg
    · exact hnew

/-- The step of one task, which leaves the others and the route. -/
theorem Inv.enter (h : s.Inv c) (htask : s.Sound c task) : (s.enter i task).Inv c := by
  have hg : s.Grows c (s.enter i task) := .enter s i task
  refine h.next hg (fun r hr => .inl hr) fun t ht => ?_
  rcases List.mem_or_eq_of_mem_set ht with hold | rfl
  · exact .inl hold
  · exact .inr (htask.mono hg)

/-- The invariant holds after the step, and the step has taken nothing back. -/
def Advances (c : Consumer) (s s' : Subscription) : Prop := s'.Inv c ∧ s.Grows c s'

theorem Inv.advances_enter (h : s.Inv c) (htask : s.Sound c task) :
    Advances c s (s.enter i task) := ⟨h.enter htask, .enter s i task⟩

theorem Inv.advances_refl (h : s.Inv c) : Advances c s s :=
  ⟨h, .of_home rfl (fun _ hmem => hmem) (.refl _)⟩

theorem latest_le_append (j : Journal) (channelId : Option String) (payload : Payload) (occurredAt : String)
    (sourceOrdinal : Option Int) :
    j.latestCursor ≤ (j.append channelId payload occurredAt sourceOrdinal).latestCursor := by
  have hnew : (⟨j.latestCursor + 1, channelId, payload, occurredAt, sourceOrdinal⟩ : Change) ∈
      (j.append channelId payload occurredAt sourceOrdinal).rows := List.mem_append_right _ List.mem_cons_self
  exact (Nat.le_succ _).trans (Journal.cursor_le_latest hnew)

theorem grows_commit (s : Subscription) (homeStep : HomeStep) :
    s.Grows c { s with home := s.home.commit homeStep } where
  latest := latest_le_append ..
  messages := by
    intro after message hmem hle
    obtain ⟨hsent, hkept⟩ := List.mem_filter.mp hmem
    obtain ⟨hrow, hevent⟩ := mem_sentOf.mp hsent
    rcases List.mem_append.mp hrow with hold | hnew
    · exact List.mem_filter.mpr ⟨mem_sentOf.mpr ⟨hold, hevent⟩, hkept⟩
    · rw [List.mem_singleton.mp hnew] at hle
      exact absurd hle (Nat.not_succ_le_self _)
  delivered := fun _ h => h
  route := .refl _

theorem Inv.of_append (h : s.Inv c) {tasks : List RouteTask} (htasks : ∀ task ∈ tasks, s.Sound c task) :
    Advances c s { s with tasks := s.tasks ++ tasks } := by
  have hg : s.Grows c { s with tasks := s.tasks ++ tasks } := .of_home rfl (fun _ hmem => hmem) (.refl _)
  refine ⟨h.next hg (fun r hr => .inl hr) fun task hmem => ?_, hg⟩
  rcases List.mem_append.mp hmem with hold | hnew
  · exact .inl hold
  · exact .inr ((htasks task hnew).mono hg)

theorem sound_asked (h : s.Inv c) (hr : route ∈ s.route) : s.Sound c (.asked route) :=
  ⟨⟨⟨route, hr, rfl, rfl⟩, h.reached route hr⟩, h.keeps route hr⟩

theorem advances_handleBy (h : s.Inv c) (htask : s.Sound c task)
    (hrecorded : ∀ route cursor event events, task = .handling route cursor (event :: events) →
      ∀ message ∈ messagesAfter s.home.db c.channel route.registeredAt, treeOf message.2 = event →
        Addressed c.recipient event → Recorded c.recipient event) (result : DeliveryResult) :
    Advances c s (s.handleBy c i result task) := by
  cases task with
  | registering cursor registeredAt => exact h.advances_refl
  | asked route => exact h.advances_refl
  | advancing route n => exact h.advances_refl
  | writing found record => exact h.advances_refl
  | ended => exact h.advances_refl
  | handling route cursor events =>
    obtain ⟨n, hn, hknown, hremains⟩ := htask
    cases events with
    | nil =>
      rw [handleBy, hn]
      refine h.advances_enter ⟨hknown, fun message hmem hle haddressed => ?_⟩
      exact (hremains message hmem hle haddressed).resolve_right List.not_mem_nil
    | cons event events =>
      rw [handleBy]
      split_ifs with hinvalid hskip haccepted
      · exact h.advances_enter trivial
      · refine h.advances_enter ⟨n, hn, hknown, fun message hmem hle haddressed => ?_⟩
        rcases hremains message hmem hle haddressed with hdone | hleft
        · exact .inl hdone
        rcases List.mem_cons.mp hleft with hhead | htail
        · have hkept := hrecorded route cursor event events rfl message hmem hhead (hhead ▸ haddressed)
          exact .inl ⟨.inr (hhead ▸ hkept), fun _ => .inl (hhead ▸ hskip.resolve_right fun hnot => hnot hkept)⟩
        · exact .inr htail
      · have hg : s.Grows c { s.enter i (.handling route cursor events) with delivered := event :: s.delivered } :=
          .of_home rfl (fun _ hmem => List.mem_cons_of_mem _ hmem) (.refl _)
        refine ⟨h.next hg (fun r hr => .inl hr) fun t ht => ?_, hg⟩
        rcases List.mem_or_eq_of_mem_set ht with hold | rfl
        · exact .inl hold
        right
        refine ⟨n, hn, hknown.mono hg, fun message hmem hle haddressed => ?_⟩
        rcases hremains message hmem hle haddressed with hdone | hleft
        · exact .inl (hdone.mono hg)
        rcases List.mem_cons.mp hleft with hhead | htail
        · have hmember : treeOf message.2 ∈ event :: s.delivered := hhead ▸ List.mem_cons_self
          exact .inl ⟨.inl hmember, fun _ => .inr hmember⟩
        · exact .inr htail
      · exact h.advances_enter trivial

theorem advances_readBy (h : s.Inv c) (htask : s.Sound c task) (now : JsString) :
    Advances c s (s.readBy i now task) := by
  cases task with
  | asked route => exact h.advances_refl
  | handling route cursor events => exact h.advances_refl
  | writing found record => exact h.advances_refl
  | ended => exact h.advances_refl
  | registering cursor registeredAt =>
    rw [readBy]
    refine h.advances_enter ?_
    cases hroute : s.route with
    | none =>
      refine ⟨htask.1.trans htask.2, fun r hr => (by cases hr), fun message hmem hle _ => ?_⟩
      have hlater := cursor_lt_of_mem hmem
      have hcursor : cursor ≤ registeredAt := htask.1
      change message.1.cursor ≤ cursor at hle
      change registeredAt < message.1.cursor at hlater
      omega
    | some stored =>
      have hstored : stored ∈ s.route := hroute
      refine ⟨h.reached stored hstored, fun r hr => ?_, h.keeps stored hstored⟩
      obtain rfl := Option.some.inj hr
      exact ⟨Nat.le_refl _, rfl, rfl⟩
  | advancing route n =>
    obtain ⟨hknown, hcovered⟩ := htask
    rw [readBy]
    cases hroute : s.route with
    | none => exact h.advances_enter trivial
    | some current =>
      dsimp only
      split_ifs with hbehind
      · exact h.advances_enter trivial
      · obtain ⟨stored, hstored, hcreated, hregistered⟩ := hknown.stored
        obtain rfl : current = stored := Option.some.inj (hroute.symm.trans hstored)
        refine h.advances_enter ⟨hknown.reached, fun r hr => ?_, fun message hmem hle haddressed => ?_⟩
        · obtain rfl := Option.some.inj hr
          exact ⟨Nat.le_of_not_le hbehind, rfl, rfl⟩
        · change message ∈ messagesAfter s.home.db c.channel current.registeredAt at hmem
          rw [hregistered] at hmem
          change s.Accounted c current.createdAt _
          rw [hcreated]
          exact hcovered message hmem hle haddressed

theorem advances_writeBy (h : s.Inv c) (htask : s.Sound c task)
    (hover : ∀ found record, task = .writing found record → s.route = found) :
    Advances c s (s.writeBy i task) := by
  cases task with
  | registering cursor registeredAt => exact h.advances_refl
  | asked route => exact h.advances_refl
  | handling route cursor events => exact h.advances_refl
  | advancing route n => exact h.advances_refl
  | ended => exact h.advances_refl
  | writing found record =>
    have hfound := hover found record rfl
    have hg : s.Grows c { s.enter i .ended with route := some record } := by
      refine .of_home rfl (fun _ hmem => hmem) fun r hr => ?_
      obtain ⟨hle, hcreated, hregistered⟩ := htask.onward r (hfound ▸ hr)
      exact ⟨record, rfl, hle, hcreated, hregistered⟩
    refine ⟨h.next hg (fun r hr => ?_) fun t ht => ?_, hg⟩
    · obtain rfl := Option.some.inj hr
      exact .inr ⟨htask.reached.trans hg.latest, htask.covered.mono hg htask.reached⟩
    · rcases List.mem_or_eq_of_mem_set ht with hold | rfl
      · exact .inl hold
      · exact .inr trivial

theorem advances_answerBy (h : s.Inv c) (htask : s.Sound c task) :
    Advances c s (s.answerBy c i task) := by
  cases task with
  | registering cursor registeredAt => exact h.advances_refl
  | handling route cursor events => exact h.advances_refl
  | advancing route n => exact h.advances_refl
  | writing found record => exact h.advances_refl
  | ended => exact h.advances_refl
  | asked route =>
    obtain ⟨hknown, hcovered⟩ := htask
    rw [answerBy]
    cases hask : askPage s.home c.authorityId c.requestId c.localSessionId c.channelId (cursorText route.cursor) with
    | error message => exact h.advances_enter trivial
    | ok page =>
      obtain ⟨n, hn, hreached, hpage⟩ := askPage_covers hask
      have hlatest : n ≤ s.home.db.changes.latestCursor := hreached.elim (fun heq => heq ▸ hknown.reached) id
      refine h.advances_enter ⟨n, hn, ⟨hknown.stored, hlatest⟩, fun message hmem hle haddressed => ?_⟩
      by_cases hpassed : message.1.cursor ≤ route.cursor
      · exact .inl (hcovered message hmem hpassed haddressed)
      · refine .inr (hpage message ?_ hle)
        obtain ⟨hsent, hkept⟩ := List.mem_filter.mp hmem
        rw [Bool.and_eq_true] at hkept
        exact List.mem_filter.mpr ⟨hsent,
          Bool.and_eq_true_iff.mpr ⟨decide_eq_true (Nat.not_le.mp hpassed), hkept.2⟩⟩

theorem advances_elim (h : s.Inv c) {next : RouteTask → Subscription}
    (hnext : ∀ task, s.tasks[i]? = some task → s.Sound c task → Advances c s (next task)) :
    Advances c s (s.tasks[i]?.elim s next) := by
  cases ht : s.tasks[i]? with
  | none => exact h.advances_refl
  | some task => exact hnext task ht (h.sound task (List.mem_of_getElem? ht))

theorem advances_step (h : s.Inv c) {event : SubscriptionEvent} (horderly : s.Orderly c event) :
    Advances c s (s.step c event) := by
  cases event with
  | commit homeStep =>
    have hg := grows_commit (c := c) s homeStep
    exact ⟨h.next hg (fun r hr => .inl hr) fun task hmem => .inl hmem, hg⟩
  | register withCursor =>
    refine h.of_append fun task hmem => ?_
    rw [List.mem_singleton.mp hmem]
    cases withCursor with
    | true => exact ⟨Nat.le_refl _, Nat.le_refl _⟩
    | false => exact ⟨Nat.zero_le _, Nat.le_refl _⟩
  | poll =>
    refine h.of_append fun task hmem => ?_
    obtain ⟨route, hroute, rfl⟩ := List.mem_map.mp hmem
    exact sound_asked h (Option.mem_toList.mp hroute)
  | answer i => exact advances_elim h fun task _ htask => advances_answerBy h htask
  | handle i result =>
    refine advances_elim h fun task ht htask => advances_handleBy h htask ?_ result
    rintro route cursor event events rfl
    exact horderly route cursor event events ht
  | read i now => exact advances_elim h fun task _ htask => advances_readBy h htask now
  | write i =>
    refine advances_elim h fun task ht htask => advances_writeBy h htask ?_
    rintro found record rfl
    exact horderly found record ht
  | abort i => exact h.advances_enter trivial

theorem advances_run (events : List SubscriptionEvent) (h : s.Inv c)
    (horderly : Trace.Meets (step c) (Orderly c) s events) :
    (Trace.run (step c) s events).Inv c ∧ NeverBack s.route (Trace.run (step c) s events).route := by
  induction events generalizing s with
  | nil => exact ⟨h, .refl _⟩
  | cons event events ih =>
    obtain ⟨hinv, hgrows⟩ := advances_step h horderly.1
    obtain ⟨hrun, hback⟩ := ih hinv horderly.2
    exact ⟨hrun, hgrows.route.trans hback⟩

end Steps

/-- No registration has been made, and the home is anywhere. -/
def initial (home : ChannelHome) : Subscription := ⟨home, none, [], []⟩

theorem inv_initial (c : Consumer) (home : ChannelHome) : (initial home).Inv c where
  reached := fun _ hr => by cases hr
  keeps := fun _ hr => by cases hr
  sound := fun _ hmem => by cases hmem

/-- In a run in which a route is written over what was read, and the home recorded the session as
delivered in every message that addresses it, the cursor never decreases and passes no such message
that is not accounted for. -/
theorem subscription_keeps (c : Consumer) (home : ChannelHome) (earlier later : List SubscriptionEvent)
    (h : Trace.Meets (step c) (Orderly c) (initial home) (earlier ++ later)) :
    NeverBack (Trace.run (step c) (initial home) earlier).route
        (Trace.run (step c) (initial home) (earlier ++ later)).route ∧
      (Trace.run (step c) (initial home) (earlier ++ later)).LosesNothing c := by
  obtain ⟨hearlier, hlater⟩ := (Trace.meets_append ..).mp h
  obtain ⟨hinv, -⟩ := advances_run earlier (inv_initial c home) hearlier
  obtain ⟨hend, hback⟩ := advances_run later hinv hlater
  rw [Trace.run_append]
  exact ⟨hback, hend.keeps⟩

theorem home_handleBy (s : Subscription) (i : Nat) (result : DeliveryResult) (task : RouteTask) :
    (s.handleBy c i result task).home = s.home := by
  unfold handleBy
  split
  · split_ifs <;> rfl
  · split <;> rfl
  · rfl

theorem home_answerBy (s : Subscription) (i : Nat) (task : RouteTask) :
    (s.answerBy c i task).home = s.home := by
  unfold answerBy
  split
  · split <;> rfl
  · rfl

theorem home_readBy (s : Subscription) (i : Nat) (now : JsString) (task : RouteTask) :
    (s.readBy i now task).home = s.home := by
  unfold readBy
  split
  · rfl
  · split
    · split_ifs <;> rfl
    · rfl
  · rfl

theorem home_writeBy (s : Subscription) (i : Nat) (task : RouteTask) : (s.writeBy i task).home = s.home := by
  cases task <;> rfl

theorem home_elim (s : Subscription) (i : Nat) {next : RouteTask → Subscription}
    (hnext : ∀ task, (next task).home = s.home) : (s.tasks[i]?.elim s next).home = s.home := by
  cases s.tasks[i]? with
  | none => rfl
  | some task => exact hnext task

theorem mem_rows_step {s : Subscription} {row : Change} (event : SubscriptionEvent)
    (h : row ∈ s.home.db.changes.rows) : row ∈ (s.step c event).home.db.changes.rows := by
  cases event with
  | commit homeStep => exact List.mem_append_left _ h
  | register withCursor => exact h
  | poll => exact h
  | abort i => exact h
  | answer i => rwa [step, home_elim s i (s.home_answerBy c i)]
  | handle i result => rwa [step, home_elim s i (s.home_handleBy c i result)]
  | read i now => rwa [step, home_elim s i (s.home_readBy i now)]
  | write i => rwa [step, home_elim s i (s.home_writeBy i)]

theorem mem_rows_run {s : Subscription} {row : Change} (events : List SubscriptionEvent)
    (h : row ∈ s.home.db.changes.rows) : row ∈ (Trace.run (step c) s events).home.db.changes.rows := by
  induction events generalizing s with
  | nil => exact h
  | cons event events ih => exact ih (mem_rows_step c event h)

/-- A condition that can be computed and makes a step orderly. -/
def isOrderly (c : Consumer) (s : Subscription) : SubscriptionEvent → Bool
  | .write i =>
    match s.tasks[i]? with
    | some (.writing found _) => s.route = found
    | _ => true
  | .handle _ _ => s.home.db.changes.sent.all fun message =>
      Addressed c.recipient (treeOf message.2) → Recorded c.recipient (treeOf message.2)
  | _ => true

theorem orderly_of_isOrderly {c : Consumer} {s : Subscription} {event : SubscriptionEvent}
    (h : s.isOrderly c event = true) : s.Orderly c event := by
  cases event with
  | commit homeStep => trivial
  | register withCursor => trivial
  | poll => trivial
  | answer i => trivial
  | read i now => trivial
  | abort i => trivial
  | handle i result =>
    rintro route cursor _ events - message hmem rfl haddressed
    exact of_decide_eq_true (List.all_eq_true.mp h message (List.mem_filter.mp hmem).1) haddressed
  | write i =>
    intro found record ht
    simpa only [isOrderly, ht, decide_eq_true_eq] using h

def sampleConsumer : Consumer := ⟨text "p", text "a", text "c", text "r"⟩

/-- A message to the session, with the sessions that its commit recorded as delivered. -/
def sentTo (delivered : List String) (occurredAt : String) : Json :=
  .obj [("id", .str "e"), ("body", .str "b"), ("target", .obj [("sessionIds", .arr [.str "federation:p:a"])]),
    ("deliveredRecipientSessionIds", .arr (delivered.map .str)), ("occurredAt", .str occurredAt)]

theorem writable_sentTo (delivered : List String) (occurredAt : String) :
    (treeOf (sentTo delivered occurredAt)).Writable := by
  have hnames : ElementsWritable (treesOf (delivered.map .str)) := by
    induction delivered with
    | nil => trivial
    | cons name names ih => exact ⟨trivial, ih⟩
  exact ⟨trivial, trivial, ⟨⟨trivial, trivial⟩, trivial⟩, hnames, trivial, trivial⟩

def sampleStart : Subscription := initial ⟨sampleTables, fun message hmem => by cases hmem⟩

/-- The session registers, a message is committed, and a poll of the route handles it. -/
def sampleRun (delivered : List String) (occurredAt : String) : List SubscriptionEvent :=
  [.register true,
    .commit ⟨sampleTables, ⟨some "c", .messageSent (sentTo delivered occurredAt), occurredAt, none⟩,
      fun _ hevent => Payload.messageSent.inj hevent ▸ writable_sentTo delivered occurredAt⟩,
    .read 0 (text "1"), .write 0, .poll, .answer 1, .handle 1 .accepted, .handle 1 .accepted, .read 1 (text "3"), .write 1]

/-- How far the cursor is, and how many messages the local runtime has been given. -/
def outcome (s : Subscription) : Option Nat × Nat := (s.route.map (·.cursor), s.delivered.length)

theorem subscription_keeps_delivered :
    NeverBack (Trace.run (step sampleConsumer) sampleStart []).route
        (Trace.run (step sampleConsumer) sampleStart ([] ++ sampleRun ["federation:p:a"] "2")).route ∧
      (Trace.run (step sampleConsumer) sampleStart ([] ++ sampleRun ["federation:p:a"] "2")).LosesNothing
        sampleConsumer := by
  refine subscription_keeps sampleConsumer _ [] _ (Trace.Meets.mono (fun _ _ => orderly_of_isOrderly) ?_)
  decide +kernel

/-- The home commits a message to the session and records it as undeliverable; the cursor passes it. A
message that is recorded as delivered is skipped when the clock of the home is behind. -/
theorem message_lost :
    ¬(Trace.run (step sampleConsumer) sampleStart (sampleRun [] "2")).LosesNothing sampleConsumer ∧
      outcome (Trace.run (step sampleConsumer) sampleStart (sampleRun ["federation:p:a"] "0")) = (some 1, 0) := by
  refine ⟨fun hkeeps => ?_, by decide +kernel⟩
  have hend : (Trace.run (step sampleConsumer) sampleStart (sampleRun [] "2")).route =
      some ⟨1, text "1", 0⟩ := by decide +kernel
  have hnone : (Trace.run (step sampleConsumer) sampleStart (sampleRun [] "2")).delivered = [] := by
    decide +kernel
  have hmem : (⟨1, some "c", .messageSent (sentTo [] "2"), "2", none⟩, sentTo [] "2") ∈
      messagesAfter (Trace.run (step sampleConsumer) sampleStart (sampleRun [] "2")).home.db
        sampleConsumer.channel 0 := by
    refine List.mem_filter.mpr ⟨mem_sentOf.mpr ⟨?_, rfl⟩, by decide +kernel⟩
    rw [← List.take_append_drop 2 (sampleRun [] "2"), Trace.run_append]
    exact mem_rows_run sampleConsumer _ List.mem_cons_self
  have haccounted := hkeeps _ hend _ hmem (Nat.le_refl 1) (by decide +kernel)
  rcases haccounted.kept with hdelivered | hrecorded
  · rw [hnone] at hdelivered
    exact List.not_mem_nil hdelivered
  · exact absurd hrecorded (by decide +kernel)

end Subscription
end Wardroom.Federation
