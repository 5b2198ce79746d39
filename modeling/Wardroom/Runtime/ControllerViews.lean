import Mathlib.Logic.Function.Basic
import Wardroom.Library.SharedLease
import Wardroom.Storage.AttachmentRows

/-! # The views under one controller lease

A viewer that attaches as the controller gets a view: an observer's stream,
while the input goes through the one controller connection of its attachment.
The views of the viewer share that attachment, and are counted. Between a call
and its view lie the HELLO of the controller and that of the view, and whatever
else happens meanwhile.
-/

namespace Wardroom.ControllerViews
open Wardroom.Library Wardroom.Domain Wardroom.Storage Prog

/-- Who looks at what. -/
structure Viewer where
  runtimeId : String
  actor : RuntimeActor

/-- A request in the mode of a controller. -/
structure RuntimeAttachRequest where
  attachmentId : Option String := none
  generation : Option Nat := none
  leaseExpiresAt : Option String := none
  outputCursor : Option Int := none
  operatorOverride : Bool := false

/-- How far a call of `attachInteractive` has come. -/
inductive Phase where
  /-- It awaits the HELLO of the controller it connects. -/
  | connecting (client : Nat)
  /-- It awaits the HELLO of a controller that another call connects. -/
  | waiting (client : Nat)
  /-- It found a controller, and perhaps its HELLO. -/
  | joining (hello : Bool)
  /-- It awaits the HELLO of its view. -/
  | viewing
  | opened
  /-- Its `detach` was called. -/
  | closed
  /-- It threw. -/
  | failed
  /-- Its attachment observes; there is no view. -/
  | observing
  deriving DecidableEq, Repr

structure Opening where
  attachment : RuntimeAttachment
  phase : Phase
  deriving DecidableEq, Repr

/-- The service and its attachments. The clients are numbered, and how the connecting of each ended is known later. -/
structure Views where
  store : AttachmentStore
  clients : String → Option Nat
  controllerReady : String → Option Nat
  controllerHellos : String → Bool
  controllerViewCounts : String → Option Nat
  created : Nat
  settled : Nat → Option Bool
  openings : List Opening

abbrev ViewAction (α : Type) := Prog Views Failure α

def Views.initial (store : AttachmentStore) : Views where
  store := store
  clients := fun _ => none
  controllerReady := fun _ => none
  controllerHellos := fun _ => false
  controllerViewCounts := fun _ => none
  created := 0
  settled := fun _ => none
  openings := []

def onAttachments {α : Type} (x : AttachmentAction α) : ViewAction α := fun s =>
  ((x s.store).1, { s with store := (x s.store).2 })

/-- A planner does not control what it supervises. -/
def Viewer.actorCanAccessRuntime (v : Viewer) (capability : Bool) (runtime : Runtime) : Bool :=
  v.actor.role = .operator || v.actor.sessionId = runtime.sessionId || capability

def authorizedRuntime (v : Viewer) (generation : Option Nat) (capability : Bool) : ViewAction Runtime := do
  let s ← read
  match s.store.daemon.runtime v.runtimeId with
  | none => fail (.coded "runtimeNotFound")
  | some runtime =>
    if generation.any fun g => runtime.generation ≠ g then fail (.coded "staleRuntimeGeneration")
    else if v.actorCanAccessRuntime capability runtime = false then fail (.coded "runtimeUnauthorized")
    else pure runtime

/-- The client that is registered is awaited, or one is connected. -/
def ensureControllerClient (attachmentId : String) : ViewAction Phase := do
  let s ← read
  match s.clients attachmentId with
  | some _ =>
    match s.controllerReady attachmentId with
    | some ready => pure (.waiting ready)
    | none => pure (.joining (s.controllerHellos attachmentId))
  | none => do
    modify fun s => { s with
      clients := Function.update s.clients attachmentId (some s.created)
      controllerReady := Function.update s.controllerReady attachmentId (some s.created)
      created := s.created + 1 }
    pure (.connecting s.created)

def attachInput (v : Viewer) (request : RuntimeAttachRequest) (uuid : String) (runtime : Runtime) :
    AttachRuntimeInput where
  attachmentId := request.attachmentId.getD ("attachment-" ++ uuid)
  runtimeId := runtime.runtimeId
  homeAuthorityId := runtime.homeAuthorityId
  sessionId := runtime.sessionId
  generation := runtime.generation
  viewerId := v.actor.sessionId
  mode := .controller
  leaseExpiresAt := request.leaseExpiresAt
  outputCursor := request.outputCursor.getD 0
  operatorOverride := request.operatorOverride && v.actor.role = .operator

/-- Up to the first `await`. -/
def openAttachment (v : Viewer) (request : RuntimeAttachRequest) (capability : Bool) (uuid : String) :
    ViewAction Unit := do
  let runtime ← authorizedRuntime v request.generation capability
  let attachment ← onAttachments (Storage.attach (attachInput v request uuid runtime))
  let phase ← match attachment.mode with
    | .controller => ensureControllerClient attachment.attachmentId
    | .observe => pure .observing
  modify fun s => { s with openings := s.openings ++ [⟨attachment, phase⟩] }

def Views.setPhase (s : Views) (i : Nat) (o : Opening) (phase : Phase) : Views :=
  { s with openings := s.openings.set i { o with phase := phase } }

/-- The `finally` of `ensureControllerClient`. -/
def Views.unready (s : Views) (attachmentId : String) (client : Nat) : Views :=
  if s.controllerReady attachmentId = some client then
    { s with controllerReady := Function.update s.controllerReady attachmentId none }
  else s

def Views.unregister (s : Views) (attachmentId : String) (client : Nat) : Views :=
  if s.clients attachmentId = some client then { s with clients := Function.update s.clients attachmentId none }
  else s

/-- The opening goes on when the connecting that it awaits has settled. -/
def resume (i : Nat) : ViewAction Unit := do
  let s ← read
  match s.openings[i]? with
  | none => pure ()
  | some o =>
    match o.phase with
    | .connecting client =>
      match s.settled client with
      | none => pure ()
      | some true => modify fun s =>
        ({ s with controllerHellos := Function.update s.controllerHellos o.attachment.attachmentId true }.unready
          o.attachment.attachmentId client).setPhase i o .viewing
      | some false => modify fun s =>
        ((s.unregister o.attachment.attachmentId client).unready o.attachment.attachmentId client).setPhase i o .failed
    | .waiting client =>
      match s.settled client with
      | none => pure ()
      | some true => modify fun s => s.setPhase i o .viewing
      | some false => modify fun s => s.setPhase i o .failed
    | .joining hello => modify fun s => s.setPhase i o (if hello then .viewing else .failed)
    | _ => pure ()

def viewConnected (i : Nat) (ok : Bool) : ViewAction Unit := do
  let s ← read
  match s.openings[i]? with
  | none => pure ()
  | some o =>
    if o.phase ≠ .viewing then pure ()
    else if ok then modify fun s =>
      { s with controllerViewCounts := Function.update s.controllerViewCounts o.attachment.attachmentId
                (some ((s.controllerViewCounts o.attachment.attachmentId).getD 0 + 1)) }.setPhase i o .opened
    else modify fun s => s.setPhase i o .failed

/-- `detach` of the service. Nothing modelled reads the event that it appends. -/
def detach (v : Viewer) (attachmentId : String) : ViewAction Unit := do
  let s ← read
  match s.store.attachment attachmentId with
  | none => fail (.coded "runtimeUnauthorized")
  | some attachment =>
    if v.actor.role ≠ .operator ∧ attachment.viewerId ≠ v.actor.sessionId then fail (.coded "runtimeUnauthorized")
    else do
      let detached ← onAttachments (Storage.detach attachment.attachmentId)
      modify fun s => { s with clients := Function.update s.clients detached.attachmentId none }

/-- `detach` of a view: the last one detaches the attachment. -/
def detachView (v : Viewer) (i : Nat) : ViewAction Unit := do
  let s ← read
  match s.openings[i]? with
  | none => pure ()
  | some o =>
    if o.phase ≠ .opened then pure ()
    else do
      modify fun s => s.setPhase i o .closed
      let remaining := (s.controllerViewCounts o.attachment.attachmentId).getD 1 - 1
      if 0 < remaining then modify fun s =>
        { s with controllerViewCounts := Function.update s.controllerViewCounts o.attachment.attachmentId (some remaining) }
      else do
        modify fun s =>
          { s with controllerViewCounts := Function.update s.controllerViewCounts o.attachment.attachmentId none }
        detach v o.attachment.attachmentId

inductive ViewEvent where
  | attachInteractive (request : RuntimeAttachRequest) (capability : Bool) (uuid : String)
  /-- The connecting of a controller has ended. -/
  | settle (client : Nat) (ok : Bool)
  | resume (i : Nat)
  | viewConnected (i : Nat) (ok : Bool)
  /-- The socket of a controller has closed. -/
  | close (attachmentId : String) (client : Nat)
  | detach (i : Nat)
  /-- Time passes. -/
  | wait

def ViewEvent.perform (v : Viewer) : ViewEvent → ViewAction Unit
  | .attachInteractive request capability uuid => openAttachment v request capability uuid
  | .settle client ok => modify fun s =>
    if client < s.created ∧ s.settled client = none then { s with settled := Function.update s.settled client (some ok) }
    else s
  | .resume i => ControllerViews.resume i
  | .viewConnected i ok => ControllerViews.viewConnected i ok
  | .close attachmentId client => modify fun s =>
    if s.clients attachmentId = some client then
      { s with
        clients := Function.update s.clients attachmentId none
        controllerHellos := Function.update s.controllerHellos attachmentId false }
    else s
  | .detach i => detachView v i
  | .wait => do
    let _ ← onAttachments attachmentNow
    pure ()

def step (v : Viewer) (s : Views) (e : ViewEvent) : Views := (e.perform v s).2

def Phase.use : Phase → Use
  | .connecting _ | .waiting _ | .joining _ | .viewing | .observing => .opening
  | .opened => .opened
  | .closed | .failed => .over

/-- Under every open view lies a controller's attachment that is not detached. When every view is closed, or its
opening has failed, the attachment is detached. -/
structure Shared (s : Views) : Prop where
  held : ∀ o ∈ s.openings, o.phase.use = .opened → ∃ a, s.store.attachment o.attachment.attachmentId = some a ∧
    a.mode = .controller ∧ a.live = true
  givenUp : (∀ o ∈ s.openings, o.phase.use = .over) → ∀ o ∈ s.openings, ∀ a,
    s.store.attachment o.attachment.attachmentId = some a → a.live = false

def tellResume (s : Views) (i : Nat) : LeaseEvent :=
  match s.openings[i]? with
  | none => .idle
  | some o =>
    match o.phase with
    | .connecting client | .waiting client => if s.settled client = some false then .fails i else .idle
    | .joining hello => if hello then .idle else .fails i
    | _ => .idle

def tellConnected (s : Views) (i : Nat) (ok : Bool) : LeaseEvent :=
  match s.openings[i]? with
  | none => .idle
  | some o => if o.phase = .viewing then if ok then .opens i else .fails i else .idle

def tellDetach (s : Views) (i : Nat) : LeaseEvent :=
  match s.openings[i]? with
  | none => .idle
  | some o => if o.phase = .opened then .closes i else .idle

def tell (v : Viewer) (s : Views) : ViewEvent → LeaseEvent
  | .attachInteractive request capability uuid =>
    match (openAttachment v request capability uuid s).1 with
    | .ok () => .take
    | .error _ => .idle
  | .resume i => tellResume s i
  | .viewConnected i ok => tellConnected s i ok
  | .detach i => tellDetach s i
  | .settle _ _ | .close _ _ | .wait => .idle

/-- The attachment of the viewer is not detached. -/
def Views.held (v : Viewer) (runtime : Runtime) (s : Views) : Bool :=
  s.store.attachments.rows.any fun a =>
    a.belongs runtime.runtimeId runtime.generation v.actor.sessionId && a.live

/-- The lease that the views share. -/
def Views.lease (v : Viewer) (runtime : Runtime) (s : Views) : SharedLease :=
  ⟨s.openings.map fun o => o.phase.use, s.held v runtime⟩

def Opening.counts (attachmentId : String) (o : Opening) : Bool :=
  o.phase = .opened && o.attachment.attachmentId = attachmentId

/-- The openings are about the one row of the viewer, and the open ones are counted. -/
structure Coherent (v : Viewer) (runtime : Runtime) (s : Views) : Prop where
  kept : AttachmentsKept s.store
  stored : s.store.daemon.runtime v.runtimeId = some runtime
  idle : s.openings ≠ [] → s.store.Idle
  rows : ∀ o ∈ s.openings, ∃ a ∈ s.store.attachments.rows, a.attachmentId = o.attachment.attachmentId ∧
    a.belongs runtime.runtimeId runtime.generation v.actor.sessionId = true
  controls : ∀ a ∈ s.store.attachments.rows, a.belongs runtime.runtimeId runtime.generation v.actor.sessionId = true →
    a.live = true → a.mode = .controller
  counted : ∀ attachmentId, (s.controllerViewCounts attachmentId).getD 0 =
    s.openings.countP (Opening.counts attachmentId)

section Coherence

variable {v : Viewer} {runtime : Runtime} {s s' : Views} {o : Opening} {i : Nat} {phase : Phase}

theorem held_iff : s.held v runtime = true ↔ ∃ a ∈ s.store.attachments.rows,
    a.belongs runtime.runtimeId runtime.generation v.actor.sessionId = true ∧ a.live = true := by
  simp [Views.held]

theorem held_congr (h : s'.store.attachments = s.store.attachments) : s'.held v runtime = s.held v runtime := by
  rw [Views.held, Views.held, h]

/-- The row under an opening is the one that counts. -/
theorem Coherent.row (h : Coherent v runtime s) (ho : o ∈ s.openings) :
    ∃ a, s.store.attachment o.attachment.attachmentId = some a ∧ a ∈ s.store.attachments.rows ∧
      a.belongs runtime.runtimeId runtime.generation v.actor.sessionId = true ∧ (a.live = true ↔ s.held v runtime = true) := by
  obtain ⟨a, ha, hid, hbelongs⟩ := h.rows o ho
  have hfound : s.store.attachment a.attachmentId = some a := Table.find?_of_mem ha
  refine ⟨a, hid ▸ hfound, ha, hbelongs, fun hlive => held_iff.mpr ⟨a, ha, hbelongs, hlive⟩, fun hheld => ?_⟩
  obtain ⟨b, hb, hbelongs', hlive⟩ := held_iff.mp hheld
  rw [h.kept.indexed.belonging ha hb hbelongs hbelongs']
  exact hlive

theorem Coherent.attachmentId (h : Coherent v runtime s) {o' : Opening} (ho : o ∈ s.openings) (ho' : o' ∈ s.openings) :
    o.attachment.attachmentId = o'.attachment.attachmentId := by
  obtain ⟨a, ha, hid, hbelongs⟩ := h.rows o ho
  obtain ⟨a', ha', hid', hbelongs'⟩ := h.rows o' ho'
  rw [← hid, ← hid', h.kept.indexed.belonging ha ha' hbelongs hbelongs']

theorem mem_openings {attachments : List Opening} (ho : attachments[i]? = some o) : o ∈ attachments :=
  List.mem_of_getElem? ho

theorem shared_iff_good (h : Coherent v runtime s) : Shared s ↔ (s.lease v runtime).Good := by
  constructor
  · intro hshared
    constructor
    · intro hopened
      obtain ⟨o, ho, huse⟩ := List.mem_map.mp hopened
      obtain ⟨a, hfound, -, hlive⟩ := hshared.held o ho huse
      obtain ⟨a', hfound', -, -, hheld⟩ := h.row ho
      rw [hfound, Option.some.injEq] at hfound'
      exact hheld.mp (hfound' ▸ hlive)
    · intro hnonempty hover
      obtain ⟨o, ho⟩ := List.exists_mem_of_ne_nil s.openings (by simpa [Views.lease] using hnonempty)
      obtain ⟨a, hfound, -, -, hheld⟩ := h.row ho
      have hdead := hshared.givenUp (fun o ho => hover _ (List.mem_map_of_mem ho)) o ho a hfound
      rw [hdead] at hheld
      exact Bool.eq_false_iff.mpr fun hbad => Bool.false_ne_true (hheld.mpr hbad)
  · intro hgood
    constructor
    · intro o ho huse
      obtain ⟨a, hfound, ha, hbelongs, hheld⟩ := h.row ho
      have hlive := hheld.mpr (hgood.held (List.mem_map.mpr ⟨o, ho, huse⟩))
      exact ⟨a, hfound, h.controls a ha hbelongs hlive, hlive⟩
    · intro hover o ho a hfound
      obtain ⟨a', hfound', -, -, hheld⟩ := h.row ho
      rw [hfound, Option.some.injEq] at hfound'
      subst hfound'
      refine Bool.eq_false_iff.mpr fun hlive => ?_
      have hfree := hgood.givenUp (List.ne_nil_of_mem (List.mem_map_of_mem ho)) fun u hu => by
        obtain ⟨o', ho', rfl⟩ := List.mem_map.mp hu
        exact hover o' ho'
      exact Bool.false_ne_true (hfree.symm.trans (hheld.mp hlive))

/-- Nothing is told, and nothing that the lease rests on changes. -/
theorem Coherent.same (h : Coherent v runtime s) (hstore : s'.store = s.store) (hopenings : s'.openings = s.openings)
    (hcounts : s'.controllerViewCounts = s.controllerViewCounts) :
    Coherent v runtime s' ∧ s'.lease v runtime = s.lease v runtime := by
  refine ⟨⟨?_, ?_, ?_, ?_, ?_, ?_⟩, ?_⟩
  · exact hstore ▸ h.kept
  · exact hstore ▸ h.stored
  · rw [hstore, hopenings]
    exact h.idle
  · rw [hstore, hopenings]
    exact h.rows
  · exact hstore ▸ h.controls
  · rw [hcounts, hopenings]
    exact h.counted
  · rw [Views.lease, Views.lease, Views.held, Views.held, hstore, hopenings]

theorem Coherent.goes_on (h : Coherent v runtime s) (ho : s.openings[i]? = some o) (hstore : s'.store = s.store)
    (hopenings : s'.openings = s.openings.set i { o with phase := phase })
    (hcounted : ∀ attachmentId, (s'.controllerViewCounts attachmentId).getD 0 =
      (s.openings.set i { o with phase := phase }).countP (Opening.counts attachmentId)) :
    Coherent v runtime s' ∧
      s'.lease v runtime = ⟨(s.lease v runtime).uses.set i phase.use, (s.lease v runtime).held⟩ := by
  refine ⟨⟨?_, ?_, ?_, ?_, ?_, ?_⟩, ?_⟩
  · exact hstore ▸ h.kept
  · exact hstore ▸ h.stored
  · rw [hstore]
    exact fun _ => h.idle (List.ne_nil_of_mem (mem_openings ho))
  · rw [hstore, hopenings]
    intro o' ho'
    rcases List.mem_or_eq_of_mem_set ho' with hmem | rfl
    · exact h.rows o' hmem
    · exact h.rows o (mem_openings ho)
  · exact hstore ▸ h.controls
  · rw [hopenings]
    exact hcounted
  · rw [Views.lease, Views.lease, Views.held, Views.held, hstore, hopenings, List.map_set]

theorem countP_goes_on (ho : s.openings[i]? = some o) (attachmentId : String) :
    (s.openings.set i { o with phase := phase }).countP (Opening.counts attachmentId) =
      s.openings.countP (Opening.counts attachmentId) - (if o.counts attachmentId = true then 1 else 0) +
        if Opening.counts attachmentId { o with phase := phase } = true then 1 else 0 := by
  obtain ⟨hi, rfl⟩ := List.getElem?_eq_some_iff.mp ho
  exact List.countP_set hi

theorem Coherent.setPhase (h : Coherent v runtime s) (ho : s.openings[i]? = some o) (hphase : o.phase ≠ .opened)
    (hnew : phase ≠ .opened) (hstore : s'.store = s.store) (hopenings : s'.openings = (s.setPhase i o phase).openings)
    (hcounts : s'.controllerViewCounts = s.controllerViewCounts) :
    Coherent v runtime s' ∧
      s'.lease v runtime = ⟨(s.lease v runtime).uses.set i phase.use, (s.lease v runtime).held⟩ := by
  refine h.goes_on ho hstore hopenings fun attachmentId => ?_
  rw [countP_goes_on ho, hcounts, h.counted]
  simp [Opening.counts, hphase, hnew]

theorem lease_set_same (ho : s.openings[i]? = some o) :
    (s.lease v runtime).uses.set i o.phase.use = (s.lease v runtime).uses := by
  refine List.ext_getElem? fun j => ?_
  rw [List.getElem?_set]
  split_ifs with hij hlt
  · subst hij
    simp [Views.lease, ho]
  · subst hij
    rw [List.getElem?_eq_none (by simpa using hlt)]
  · rfl

theorem uses_getElem? (ho : s.openings[i]? = some o) : (s.lease v runtime).uses[i]? = some o.phase.use := by
  simp [Views.lease, ho]

theorem wp_onAttachments {α : Type} {x : AttachmentAction α} {Q : α → Views → Prop} {E : Failure → Views → Prop} :
    wp (onAttachments x) Q E s ↔
      wp x (fun a t => Q a { s with store := t }) (fun e t => E e { s with store := t }) s.store := by
  unfold wp onAttachments
  rcases x s.store with ⟨result, t⟩
  cases result <;> rfl

/-- What an event does, and what it tells of that. -/
structure Told (v : Viewer) (runtime : Runtime) (s s' : Views) (e : LeaseEvent) : Prop where
  coherent : Coherent v runtime s'
  lease : s'.lease v runtime = (s.lease v runtime).step e
  enabled : (s.lease v runtime).Enabled e

theorem told_idle (h : Coherent v runtime s' ∧ s'.lease v runtime = s.lease v runtime) : Told v runtime s s' .idle :=
  ⟨h.1, h.2, trivial⟩

/-- Only the clock went on, or the attachments are as they were. -/
theorem Coherent.later (h : Coherent v runtime s) {t : AttachmentStore} (hkept : AttachmentsKept t)
    (hstays : RowsStay s.store t) (hsame : t.attachments = s.store.attachments) :
    Coherent v runtime { s with store := t } ∧ Views.lease v runtime { s with store := t } = s.lease v runtime := by
  refine ⟨⟨hkept, ?_, fun hopen => hstays.idle (h.idle hopen), fun o ho => hstays.belonging (h.rows o ho), ?_, h.counted⟩, ?_⟩
  · rw [Daemon.runtime, hstays.runtimes]
    exact h.stored
  · rw [hsame]
    exact h.controls
  · rw [Views.lease, Views.lease, held_congr hsame]

theorem ensureControllerClient_spec (attachmentId : String) (Q : Phase → Views → Prop) (E : Failure → Views → Prop)
    (hQ : ∀ phase s', phase.use = .opening → s'.store = s.store → s'.openings = s.openings →
      s'.controllerViewCounts = s.controllerViewCounts → Q phase s') :
    wp (ensureControllerClient attachmentId) Q E s := by
  unfold ensureControllerClient
  rw [wp_bind, wp_read]
  cases s.clients attachmentId with
  | none => exact hQ _ _ rfl rfl rfl rfl
  | some client =>
    dsimp only
    cases s.controllerReady attachmentId with
    | none => exact hQ _ _ rfl rfl rfl rfl
    | some ready => exact hQ _ _ rfl rfl rfl rfl

structure Viewer.Asks (v : Viewer) (runtime : Runtime) (input : AttachRuntimeInput) : Prop where
  runtimeId : input.runtimeId = runtime.runtimeId
  generation : input.generation = runtime.generation
  viewerId : input.viewerId = v.actor.sessionId
  mode : input.mode = .controller

section Attached

variable {t : AttachmentStore} {input : AttachRuntimeInput} {a : RuntimeAttachment}

theorem obtained_belongs (hobtained : Obtained s.store t input a) (hasks : v.Asks runtime input) :
    a.belongs runtime.runtimeId runtime.generation v.actor.sessionId = true := by
  rw [← hasks.runtimeId, ← hasks.generation, ← hasks.viewerId]
  exact hobtained.belongs

theorem Coherent.obtained_mode (h : Coherent v runtime s) (hobtained : Obtained s.store t input a)
    (hasks : v.Asks runtime input) : a.mode = .controller := by
  rcases hobtained.mode with hmem | hmode
  · exact h.controls a hmem (obtained_belongs hobtained hasks) hobtained.live
  · exact hmode.trans hasks.mode

/-- An opening more, over the row that its attach has returned. -/
theorem Coherent.opens (h : Coherent v runtime s) (hobtained : Obtained s.store t input a)
    (hasks : v.Asks runtime input) (huse : phase.use = .opening) (hstore : s'.store = t)
    (hopenings : s'.openings = s.openings ++ [⟨a, phase⟩])
    (hcounts : s'.controllerViewCounts = s.controllerViewCounts) : Told v runtime s s' .take := by
  have hbelongs := obtained_belongs hobtained hasks
  refine ⟨⟨?_, ?_, ?_, ?_, ?_, ?_⟩, ?_, trivial⟩
  · exact hstore ▸ hobtained.kept
  · rw [hstore, Daemon.runtime, hobtained.stays.runtimes]
    exact h.stored
  · exact fun _ => hstore ▸ hobtained.stays.idle hobtained.idle
  · rw [hstore, hopenings]
    intro o ho
    rcases List.mem_append.mp ho with ho | ho
    · exact hobtained.stays.belonging (h.rows o ho)
    · rw [List.mem_singleton] at ho
      subst ho
      exact ⟨a, hobtained.mem, rfl, hbelongs⟩
  · rw [hstore]
    intro b hb hbelongs' _
    rw [hobtained.kept.indexed.belonging hb hobtained.mem hbelongs' hbelongs]
    exact h.obtained_mode hobtained hasks
  · intro attachmentId
    have hphase : phase ≠ .opened := fun hbad => by
      rw [hbad] at huse
      cases huse
    rw [hcounts, hopenings, h.counted, List.countP_append, List.countP_singleton]
    simp [Opening.counts, hphase]
  · have hheld : s'.held v runtime = true := held_iff.mpr ⟨a, hstore ▸ hobtained.mem, hbelongs, hobtained.live⟩
    rw [Views.lease, hopenings, List.map_append, hheld]
    simp [SharedLease.step, Views.lease, huse]

end Attached

theorem openAttachment_told (h : Coherent v runtime s) (request : RuntimeAttachRequest) (capability : Bool)
    (uuid : String) :
    wp (openAttachment v request capability uuid) (fun _ s' => Told v runtime s s' .take)
      (fun _ s' => Told v runtime s s' .idle) s := by
  have hnothing : Told v runtime s s .idle := told_idle ⟨h, rfl⟩
  unfold openAttachment authorizedRuntime
  rw [wp_bind, wp_bind, wp_read, h.stored]
  simp only [wp_ite, wp_fail, wp_pure]
  refine ⟨fun _ => hnothing, fun _ => ⟨fun _ => hnothing, fun _ => ?_⟩⟩
  rw [wp_bind, wp_onAttachments]
  refine wp_mono (attach_obtained h.kept _) (fun a t hobtained => ?_) fun e t hfailed => ?_
  · have hasks : v.Asks runtime (attachInput v request uuid runtime) := ⟨rfl, rfl, rfl, rfl⟩
    rw [h.obtained_mode hobtained hasks]
    dsimp only
    rw [wp_bind]
    refine ensureControllerClient_spec _ _ _ fun phase s' huse hstore hopenings hcounts => ?_
    exact h.opens hobtained hasks huse hstore (congrArg (· ++ [⟨a, phase⟩]) hopenings) hcounts
  · exact told_idle (h.later hfailed.1 hfailed.2.1 hfailed.2.2)

theorem attachInteractive_told (h : Coherent v runtime s) (request : RuntimeAttachRequest) (capability : Bool)
    (uuid : String) : Told v runtime s (step v s (.attachInteractive request capability uuid))
      (tell v s (.attachInteractive request capability uuid)) := by
  change Told v runtime s (openAttachment v request capability uuid s).2
    (match (openAttachment v request capability uuid s).1 with
      | .ok () => .take
      | .error _ => .idle)
  rcases cases_of_wp (openAttachment_told h request capability uuid) with ⟨_, hok, htold⟩ | ⟨_, herror, htold⟩
  · rw [hok]
    exact htold
  · rw [herror]
    exact htold

theorem Coherent.awaits_view (h : Coherent v runtime s) (ho : s.openings[i]? = some o) (huse : o.phase.use = .opening)
    (hstore : s'.store = s.store) (hopenings : s'.openings = (s.setPhase i o .viewing).openings)
    (hcounts : s'.controllerViewCounts = s.controllerViewCounts) : Told v runtime s s' .idle := by
  have hphase : o.phase ≠ .opened := fun hbad => by
    rw [hbad] at huse
    cases huse
  have hset := h.setPhase ho hphase (by simp) hstore hopenings hcounts
  have hsame : Phase.viewing.use = o.phase.use := huse.symm
  rw [hsame, lease_set_same ho] at hset
  exact told_idle hset

/-- The opening throws. -/
theorem Coherent.throws (h : Coherent v runtime s) (ho : s.openings[i]? = some o) (huse : o.phase.use = .opening)
    (hstore : s'.store = s.store) (hopenings : s'.openings = (s.setPhase i o .failed).openings)
    (hcounts : s'.controllerViewCounts = s.controllerViewCounts) : Told v runtime s s' (.fails i) := by
  have hphase : o.phase ≠ .opened := fun hbad => by
    rw [hbad] at huse
    cases huse
  have hset := h.setPhase ho hphase (by simp) hstore hopenings hcounts
  refine ⟨hset.1, hset.2, ?_⟩
  rw [SharedLease.Enabled, uses_getElem? ho, huse]

theorem unready_parts (s : Views) (attachmentId : String) (client : Nat) :
    (s.unready attachmentId client).store = s.store ∧ (s.unready attachmentId client).openings = s.openings ∧
      (s.unready attachmentId client).controllerViewCounts = s.controllerViewCounts := by
  unfold Views.unready
  split_ifs <;> exact ⟨rfl, rfl, rfl⟩

theorem unregister_parts (s : Views) (attachmentId : String) (client : Nat) :
    (s.unregister attachmentId client).store = s.store ∧ (s.unregister attachmentId client).openings = s.openings ∧
      (s.unregister attachmentId client).controllerViewCounts = s.controllerViewCounts := by
  unfold Views.unregister
  split_ifs <;> exact ⟨rfl, rfl, rfl⟩

theorem resume_told (h : Coherent v runtime s) (i : Nat) :
    wp (resume i) (fun _ s' => Told v runtime s s' (tellResume s i))
      (fun _ s' => Told v runtime s s' (tellResume s i)) s := by
  have hnothing : Told v runtime s s .idle := told_idle ⟨h, rfl⟩
  unfold resume tellResume
  rw [wp_bind, wp_read]
  cases ho : s.openings[i]? with
  | none => exact hnothing
  | some o =>
    dsimp only
    cases hphase : o.phase with
    | connecting client =>
      have huse : o.phase.use = .opening := by rw [hphase]; rfl
      dsimp only
      cases hsettled : s.settled client with
      | none => exact hnothing
      | some ok =>
        cases ok with
        | true =>
          obtain ⟨hstore, hopenings, hcounts⟩ := unready_parts { s with
            controllerHellos := Function.update s.controllerHellos o.attachment.attachmentId true }
            o.attachment.attachmentId client
          refine h.awaits_view ho huse hstore ?_ hcounts
          exact congrArg (List.set · i { o with phase := .viewing }) hopenings
        | false =>
          obtain ⟨hstore, hopenings, hcounts⟩ := unregister_parts s o.attachment.attachmentId client
          obtain ⟨hstore', hopenings', hcounts'⟩ :=
            unready_parts (s.unregister o.attachment.attachmentId client) o.attachment.attachmentId client
          refine h.throws ho huse (hstore'.trans hstore) ?_ (hcounts'.trans hcounts)
          exact congrArg (List.set · i { o with phase := .failed }) (hopenings'.trans hopenings)
    | waiting client =>
      have huse : o.phase.use = .opening := by rw [hphase]; rfl
      dsimp only
      cases hsettled : s.settled client with
      | none => exact hnothing
      | some ok =>
        cases ok with
        | true => exact h.awaits_view ho huse rfl rfl rfl
        | false => exact h.throws ho huse rfl rfl rfl
    | joining hello =>
      have huse : o.phase.use = .opening := by rw [hphase]; rfl
      cases hello with
      | true => exact h.awaits_view ho huse rfl rfl rfl
      | false => exact h.throws ho huse rfl rfl rfl
    | viewing => exact hnothing
    | opened => exact hnothing
    | closed => exact hnothing
    | failed => exact hnothing
    | observing => exact hnothing

theorem counts_opened {attachmentId : String} (hphase : o.phase ≠ .opened) : o.counts attachmentId = false := by
  simp [Opening.counts, hphase]

theorem Coherent.view_opens (h : Coherent v runtime s) (ho : s.openings[i]? = some o) (hphase : o.phase = .viewing)
    (hstore : s'.store = s.store) (hopenings : s'.openings = (s.setPhase i o .opened).openings)
    (hcounts : s'.controllerViewCounts = Function.update s.controllerViewCounts o.attachment.attachmentId
      (some ((s.controllerViewCounts o.attachment.attachmentId).getD 0 + 1))) : Told v runtime s s' (.opens i) := by
  have hset := h.goes_on ho hstore hopenings fun attachmentId => by
    rw [countP_goes_on ho, counts_opened (hphase ▸ by simp), hcounts, Function.update_apply]
    by_cases hid : attachmentId = o.attachment.attachmentId
    · subst hid
      simp [Opening.counts, h.counted]
    · simp [Opening.counts, h.counted, hid, Ne.symm hid]
  refine ⟨hset.1, hset.2, ?_⟩
  rw [SharedLease.Enabled, uses_getElem? ho, hphase]
  rfl

theorem viewConnected_told (h : Coherent v runtime s) (i : Nat) (ok : Bool) :
    wp (viewConnected i ok) (fun _ s' => Told v runtime s s' (tellConnected s i ok))
      (fun _ s' => Told v runtime s s' (tellConnected s i ok)) s := by
  have hnothing : Told v runtime s s .idle := told_idle ⟨h, rfl⟩
  unfold viewConnected tellConnected
  rw [wp_bind, wp_read]
  cases ho : s.openings[i]? with
  | none => exact hnothing
  | some o =>
    dsimp only
    by_cases hphase : o.phase = .viewing
    · have huse : o.phase.use = .opening := by rw [hphase]; rfl
      rw [if_neg (not_not.mpr hphase), if_pos hphase]
      cases ok with
      | false => exact h.throws ho huse rfl rfl rfl
      | true => exact h.view_opens ho hphase rfl rfl rfl
    · rw [if_pos hphase, if_neg hphase]
      exact hnothing

theorem detach_released (h : Coherent v runtime s) (ho : o ∈ s.openings) :
    wp (detach v o.attachment.attachmentId)
      (fun _ s' => Coherent v runtime s' ∧ s'.openings = s.openings ∧ s'.held v runtime = false) (fun _ _ => False) s := by
  obtain ⟨a, hfound, ha, hbelongs, -⟩ := h.row ho
  have hidle : s.store.Idle := h.idle (List.ne_nil_of_mem ho)
  have hviewer := (belongs_iff.mp hbelongs).2
  unfold detach
  rw [wp_bind, wp_read, hfound]
  simp only [wp_ite, wp_fail]
  refine ⟨fun hrefused => hrefused.2 hviewer, fun _ => ?_⟩
  rw [wp_bind, wp_onAttachments]
  refine wp_mono (detach_givenUp h.kept hidle ha) (fun a' t hgone => ?_) fun _ _ hbad => hbad
  refine ⟨⟨hgone.kept, ?_, fun _ => hgone.stays.idle hidle, fun o ho => hgone.stays.belonging (h.rows o ho), ?_,
    h.counted⟩, rfl, ?_⟩
  · change Daemon.runtime t.daemon v.runtimeId = some runtime
    rw [Daemon.runtime, hgone.stays.runtimes]
    exact h.stored
  · exact fun b hb hbelongs' hlive => h.controls b (hgone.dead.live b hb hlive) hbelongs' hlive
  · refine Bool.eq_false_iff.mpr fun hheld => ?_
    obtain ⟨b, hb, hbelongs', hlive⟩ := held_iff.mp hheld
    have hsame := h.kept.indexed.belonging (hgone.dead.live b hb hlive) ha hbelongs' hbelongs
    have hdead := hgone.dead.dead b hb (congrArg _ hsame)
    rw [hdead] at hlive
    cases hlive

theorem opened_iff_counted (h : Coherent v runtime s) (ho : o ∈ s.openings) :
    .opened ∈ (s.lease v runtime).uses ↔ 0 < s.openings.countP (Opening.counts o.attachment.attachmentId) := by
  rw [List.countP_pos_iff]
  constructor
  · intro hopened
    obtain ⟨o', ho', huse⟩ := List.mem_map.mp hopened
    have hphase : o'.phase = .opened := by
      cases hphase : o'.phase <;> rw [hphase] at huse <;> first | rfl | cases huse
    exact ⟨o', ho', by simp [Opening.counts, hphase, h.attachmentId ho' ho]⟩
  · rintro ⟨o', ho', hcounts⟩
    simp only [Opening.counts, Bool.and_eq_true, decide_eq_true_eq] at hcounts
    exact List.mem_map.mpr ⟨o', ho', by rw [hcounts.1]; rfl⟩

/-- The view is closed, and those that remain are counted. -/
def Views.closeView (s : Views) (i : Nat) (o : Opening) (remaining : Option Nat) : Views :=
  { s.setPhase i o .closed with
    controllerViewCounts := Function.update s.controllerViewCounts o.attachment.attachmentId remaining }

theorem closeView_counts (s : Views) (i : Nat) (o : Opening) (remaining : Option Nat) (attachmentId : String) :
    (s.closeView i o remaining).controllerViewCounts attachmentId =
      if attachmentId = o.attachment.attachmentId then remaining else s.controllerViewCounts attachmentId :=
  Function.update_apply ..

/-- What closing a view does before the attachment is given up. -/
structure ViewClosed (v : Viewer) (runtime : Runtime) (s : Views) (i : Nat) (o : Opening) (s' : Views) : Prop where
  coherent : Coherent v runtime s'
  uses : (s'.lease v runtime).uses = (s.lease v runtime).uses.set i .over
  held : s'.held v runtime = s.held v runtime
  mem : { o with phase := .closed } ∈ s'.openings

theorem Coherent.view_closes (h : Coherent v runtime s) (ho : s.openings[i]? = some o) (hphase : o.phase = .opened)
    {remaining : Option Nat} (hremaining : remaining.getD 0 =
      (s.controllerViewCounts o.attachment.attachmentId).getD 0 - 1) :
    ViewClosed v runtime s i o (s.closeView i o remaining) ∧
      (.opened ∈ (s.lease v runtime).uses.set i .over ↔ 0 < remaining.getD 0) := by
  have hset : Coherent v runtime (s.closeView i o remaining) ∧ (s.closeView i o remaining).lease v runtime =
      ⟨(s.lease v runtime).uses.set i Phase.closed.use, (s.lease v runtime).held⟩ := by
    refine h.goes_on ho rfl rfl fun attachmentId => ?_
    rw [countP_goes_on ho, closeView_counts]
    by_cases hid : attachmentId = o.attachment.attachmentId
    · subst hid
      simp [Opening.counts, h.counted, hphase, hremaining]
    · simp [Opening.counts, h.counted, hphase, hid, Ne.symm hid]
  obtain ⟨hcoherent, hlease⟩ := hset
  have hmem : { o with phase := .closed } ∈ (s.closeView i o remaining).openings := by
    obtain ⟨hi, -⟩ := List.getElem?_eq_some_iff.mp ho
    exact List.mem_set hi _
  have huses : ((s.closeView i o remaining).lease v runtime).uses = (s.lease v runtime).uses.set i .over :=
    congrArg SharedLease.uses hlease
  refine ⟨⟨hcoherent, huses, congrArg SharedLease.held hlease, hmem⟩, ?_⟩
  have hopened := opened_iff_counted hcoherent hmem
  rw [huses, ← hcoherent.counted, closeView_counts, if_pos rfl] at hopened
  exact hopened

section Closed

variable {t : Views}

theorem ViewClosed.told_left (hclosed : ViewClosed v runtime s i o s')
    (henabled : (s.lease v runtime).Enabled (.closes i)) (hleft : .opened ∈ (s.lease v runtime).uses.set i .over) :
    Told v runtime s s' (.closes i) := by
  refine ⟨hclosed.coherent, ?_, henabled⟩
  have hcontains : ((s.lease v runtime).uses.set i .over).contains .opened = true := List.contains_iff_mem.mpr hleft
  rw [SharedLease.step, hcontains, Bool.and_true, ← hclosed.uses]
  exact congrArg _ hclosed.held

theorem ViewClosed.told_last (hclosed : ViewClosed v runtime s i o s')
    (henabled : (s.lease v runtime).Enabled (.closes i)) (hcoherent : Coherent v runtime t)
    (hopenings : t.openings = s'.openings) (hfree : t.held v runtime = false)
    (hlast : ¬.opened ∈ (s.lease v runtime).uses.set i .over) : Told v runtime s t (.closes i) := by
  refine ⟨hcoherent, ?_, henabled⟩
  have hcontains : ((s.lease v runtime).uses.set i .over).contains .opened = false := by
    rw [Bool.eq_false_iff, ne_eq, List.contains_iff_mem]
    exact hlast
  rw [SharedLease.step, hcontains, Bool.and_false, ← hclosed.uses, Views.lease, Views.lease, hfree, hopenings]

end Closed

theorem detachView_told (h : Coherent v runtime s) (i : Nat) :
    wp (detachView v i) (fun _ s' => Told v runtime s s' (tellDetach s i)) (fun _ _ => False) s := by
  have hnothing : Told v runtime s s .idle := told_idle ⟨h, rfl⟩
  unfold detachView tellDetach
  rw [wp_bind, wp_read]
  cases ho : s.openings[i]? with
  | none => exact hnothing
  | some o =>
    dsimp only
    by_cases hphase : o.phase = .opened
    · rw [if_neg (not_not.mpr hphase), if_pos hphase]
      have henabled : (s.lease v runtime).Enabled (.closes i) := by
        rw [SharedLease.Enabled, uses_getElem? ho, hphase]
        rfl
      -- the view is counted, so that the default of the source is not reached
      have hcounted : 0 < (s.controllerViewCounts o.attachment.attachmentId).getD 0 := by
        rw [h.counted, List.countP_pos_iff]
        exact ⟨o, mem_openings ho, by simp [Opening.counts, hphase]⟩
      have hdefault : (s.controllerViewCounts o.attachment.attachmentId).getD 1 =
          (s.controllerViewCounts o.attachment.attachmentId).getD 0 := by
        cases hcount : s.controllerViewCounts o.attachment.attachmentId with
        | none =>
          rw [hcount] at hcounted
          exact (lt_irrefl 0 hcounted).elim
        | some n => rfl
      simp only [wp_bind, wp_modify, wp_ite, hdefault]
      refine ⟨fun hleft => ?_, fun hlast => ?_⟩
      · obtain ⟨hclosed, hopened⟩ := h.view_closes ho hphase (Option.getD_some ..)
        exact hclosed.told_left henabled (hopened.mpr hleft)
      · obtain ⟨hclosed, hopened⟩ := h.view_closes ho hphase
          (Option.getD_none.trans (Nat.eq_zero_of_not_pos hlast).symm)
        have hreleased := detach_released hclosed.coherent hclosed.mem
        refine wp_mono hreleased (fun _ s' hgone => ?_) fun _ _ hbad => hbad
        obtain ⟨hcoherent, hopenings, hfree⟩ := hgone
        exact hclosed.told_last henabled hcoherent hopenings hfree fun hbad => lt_irrefl 0 (hopened.mp hbad)
    · rw [if_pos hphase, if_neg hphase]
      exact hnothing

theorem step_told (h : Coherent v runtime s) (e : ViewEvent) : Told v runtime s (step v s e) (tell v s e) := by
  have hnothing {s' : Views} (hsame : s'.store = s.store ∧ s'.openings = s.openings ∧
      s'.controllerViewCounts = s.controllerViewCounts) : Told v runtime s s' .idle :=
    told_idle (h.same hsame.1 hsame.2.1 hsame.2.2)
  cases e with
  | attachInteractive request capability uuid => exact attachInteractive_told h request capability uuid
  | settle client ok =>
    refine hnothing ?_
    change Views.store (ite _ _ _) = _ ∧ Views.openings (ite _ _ _) = _ ∧ Views.controllerViewCounts (ite _ _ _) = _
    split_ifs <;> exact ⟨rfl, rfl, rfl⟩
  | resume i => rcases cases_of_wp (resume_told h i) with ⟨_, _, htold⟩ | ⟨_, _, htold⟩ <;> exact htold
  | viewConnected i ok =>
    rcases cases_of_wp (viewConnected_told h i ok) with ⟨_, _, htold⟩ | ⟨_, _, htold⟩ <;> exact htold
  | close attachmentId client =>
    refine hnothing ?_
    change Views.store (ite _ _ _) = _ ∧ Views.openings (ite _ _ _) = _ ∧ Views.controllerViewCounts (ite _ _ _) = _
    split_ifs <;> exact ⟨rfl, rfl, rfl⟩
  | detach i =>
    rcases cases_of_wp (detachView_told h i) with ⟨_, _, htold⟩ | ⟨_, _, hbad⟩
    · exact htold
    · exact hbad.elim
  | wait => exact told_idle (h.later (h.kept.same ⟨rfl, rfl⟩ rfl) (attachmentNow_stays s.store) rfl)

end Coherence

def SharedRun (v : Viewer) : Views → List ViewEvent → Prop :=
  Trace.Meets (step v) fun s e => Shared (step v s e)

def tellings (v : Viewer) : Views → List ViewEvent → List LeaseEvent := Trace.tellings (step v) (tell v)

section Runs

variable {v : Viewer} {runtime : Runtime} {s : Views}

theorem tellings_enabled (h : Coherent v runtime s) (events : List ViewEvent) :
    Trace.Meets SharedLease.step SharedLease.Enabled (s.lease v runtime) (tellings v s events) := by
  have hrun := Trace.meets_tellings (G := fun s e => (Views.lease v runtime s).Enabled (tell v s e))
    (H := SharedLease.Enabled) (fun s e hs => (step_told hs e).coherent) (fun s e hs => (step_told hs e).lease)
    (fun s e _ => Iff.rfl) h events
  refine hrun.mp ?_
  have hstep (s : Views) (e : ViewEvent) (hs : Coherent v runtime s) (_ : True) : Coherent v runtime (step v s e) :=
    (step_told hs e).coherent
  exact Trace.meets_of_invariant hstep (fun s e hs _ => (step_told hs e).enabled) h
    (Trace.meets_of_forall (fun _ _ => trivial) s events)

theorem sharedRun_iff_safe (h : Coherent v runtime s) (hgood : (s.lease v runtime).Good) (events : List ViewEvent) :
    SharedRun v s events ↔
      Trace.Meets SharedLease.step SharedLease.Safe (s.lease v runtime) (tellings v s events) := by
  have hshared (s : Views) (e : ViewEvent) (hs : Coherent v runtime s) :
      Shared (step v s e) ↔ ((s.lease v runtime).step (tell v s e)).Good := by
    rw [shared_iff_good (step_told hs e).coherent, (step_told hs e).lease]
  have hrun := Trace.meets_tellings (G := fun s e => Shared (step v s e))
    (H := fun l e => (SharedLease.step l e).Good) (fun s e hs => (step_told hs e).coherent)
    (fun s e hs => (step_told hs e).lease) hshared h events
  exact hrun.trans (SharedLease.good_run_iff hgood (tellings_enabled h events))

theorem initial_coherent {store : AttachmentStore} (hkept : AttachmentsKept store)
    (hstored : store.daemon.runtime v.runtimeId = some runtime)
    (hcontrols : ∀ a ∈ store.attachments.rows,
      a.belongs runtime.runtimeId runtime.generation v.actor.sessionId = true → a.live = true → a.mode = .controller) :
    Coherent v runtime (.initial store) :=
  ⟨hkept, hstored, fun hopen => (hopen rfl).elim, fun _ ho => (List.not_mem_nil ho).elim, hcontrols, fun _ => rfl⟩

end Runs

/-- In whatever order the calls of a viewer, the connections they await and the detaches of its views go on: the
attachment is there under every open view and is given up with the last, all along the run, exactly when no view
opens after the lease was given up and no opening that fails is the last that the lease was for. -/
theorem shared_iff (d : Daemon) (ops : List AttachmentOp) (v : Viewer) (runtime : Runtime)
    (hstored : (Trace.run attachmentStep ⟨d, .empty⟩ ops).daemon.runtime v.runtimeId = some runtime)
    (hcontrols : ∀ a ∈ (Trace.run attachmentStep ⟨d, .empty⟩ ops).attachments.rows,
      a.belongs runtime.runtimeId runtime.generation v.actor.sessionId = true → a.live = true → a.mode = .controller)
    (events : List ViewEvent) :
    SharedRun v (.initial (Trace.run attachmentStep ⟨d, .empty⟩ ops)) events ↔
      Trace.Meets SharedLease.step SharedLease.Safe
        ⟨[], (Views.initial (Trace.run attachmentStep ⟨d, .empty⟩ ops)).held v runtime⟩
        (tellings v (.initial (Trace.run attachmentStep ⟨d, .empty⟩ ops)) events) :=
  sharedRun_iff_safe (initial_coherent (attachments_run d ops) hstored hcontrols) (SharedLease.good_nil _) events

def helm : Viewer := ⟨"runtime-1", ⟨"helm", .worker, "credential-1"⟩⟩

def attaches : ViewEvent := .attachInteractive {} false "1"

/-- The first call connects the controller, the second finds it. -/
def twoViews : List ViewEvent :=
  [attaches, .settle 0 true, .resume 0, .viewConnected 0 true, attaches, .resume 1, .viewConnected 1 true]

theorem two_views_shared :
    SharedRun helm (.initial (Trace.run attachmentStep ⟨bridge, .empty⟩ [])) (twoViews ++ [.detach 0, .detach 1]) := by
  refine (shared_iff bridge [] helm bridgeRuntime rfl (fun a ha => (List.not_mem_nil ha).elim) _).mpr ?_
  decide +kernel

/-- A controller that cannot be connected keeps its lease, and the one view that is open takes the lease along when it
is closed while another is being opened. -/
theorem lease_leaks_and_goes :
    ¬SharedRun helm (.initial ⟨bridge, .empty⟩) [attaches, .settle 0 false, .resume 0] ∧
      ¬SharedRun helm (.initial ⟨bridge, .empty⟩)
        [attaches, .settle 0 true, .resume 0, .viewConnected 0 true, attaches, .resume 1, .detach 0,
          .viewConnected 1 true] := by
  have hcoherent : Coherent helm bridgeRuntime (.initial ⟨bridge, .empty⟩) :=
    initial_coherent (attachments_run bridge []) rfl fun a ha => (List.not_mem_nil ha).elim
  constructor
  · rw [sharedRun_iff_safe hcoherent (SharedLease.good_nil _)]
    decide +kernel
  · rw [sharedRun_iff_safe hcoherent (SharedLease.good_nil _)]
    decide +kernel

end Wardroom.ControllerViews
