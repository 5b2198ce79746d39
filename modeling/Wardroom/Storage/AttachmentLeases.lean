import Wardroom.Storage.Attachments

/-! # Leases over runs of attachments

The indexes and the count of the observers bound the undetached attachments in
every run. What an attach returns is what was asked, unless the viewer holds
something else already, comes back while another one controls, or brings a lease
that is over.
-/

namespace Wardroom.Storage
open Wardroom.Library Wardroom.Domain Prog

inductive AttachmentOp where
  | attach (input : AttachRuntimeInput)
  | detach (attachmentId : String)
  | renew (attachmentId leaseExpiresAt : String)
  /-- Time passes, and leases with it. -/
  | wait

def AttachmentOp.perform : AttachmentOp → AttachmentAction Unit
  | .attach input => do
    let _ ← Storage.attach input
    pure ()
  | .detach attachmentId => do
    let _ ← Storage.detach attachmentId
    pure ()
  | .renew attachmentId leaseExpiresAt => do
    let _ ← renewControllerLease attachmentId leaseExpiresAt
    pure ()
  | .wait => do
    let _ ← attachmentNow
    pure ()

def attachmentStep (s : AttachmentStore) (op : AttachmentOp) : AttachmentStore := (op.perform s).2

namespace AttachmentStore

def viewers (s : AttachmentStore) (runtimeId : String) (generation : Nat) (viewerId : String) :
    List RuntimeAttachment :=
  s.attachments.select fun a => a.of runtimeId generation && a.viewerId = viewerId && a.live

/-- The daemon later: only the clock went on. -/
def later (s : AttachmentStore) (readings : Nat) : AttachmentStore :=
  { s with daemon := { s.daemon with store := { s.daemon.store with ticks := s.daemon.store.ticks + readings } } }

end AttachmentStore

structure Bounded (s : AttachmentStore) : Prop where
  controllers : ∀ runtimeId generation, (s.controllers runtimeId generation).length ≤ 1
  observers : ∀ runtimeId runtime, s.daemon.runtime runtimeId = some runtime → ∀ generation,
    (s.observers runtimeId generation).length ≤ s.daemon.maxObserversPerRuntime runtime.machineId
  viewers : ∀ runtimeId generation viewerId, (s.viewers runtimeId generation viewerId).length ≤ 1

/-- The request is sound, and its runtime can be attached to. -/
structure Admitted (s : AttachmentStore) (input : AttachRuntimeInput) : Prop where
  identity : input.validateIdentity = .ok ()
  named : input.attachmentId ≠ "" ∧ input.viewerId ≠ ""
  idle : s.daemon.store.transactionDepth = 0 ∧ s.daemon.store.importSession = none
  runtime : ∃ runtime, checkAttach s.daemon input = .ok runtime

/-- Another viewer holds the lease that is asked for, and keeps it. -/
def Busy (s : AttachmentStore) (input : AttachRuntimeInput) : Prop :=
  input.mode = .controller ∧ input.operatorOverride = false ∧
    ∃ holder ∈ s.controllers input.runtimeId input.generation, leaseExpired holder.leaseExpiresAt s.time = false

/-- A cursor that the table takes, and gives back. -/
def Readable (input : AttachRuntimeInput) : Prop := 0 ≤ input.outputCursor ∧ input.outputCursor ≤ 9007199254740991

theorem Readable.wordSized {input : AttachRuntimeInput} (h : Readable input) : WordSized input.outputCursor := by
  obtain ⟨hleast, hmost⟩ := h
  constructor <;> omega

/-- What was asked, stored. -/
structure Granted (s s' : AttachmentStore) (input : AttachRuntimeInput) (a : RuntimeAttachment) : Prop where
  stored : s'.attachment a.attachmentId = some a
  undetached : a.detachedAt = none
  mode : a.mode = input.mode
  lease : input.mode = .controller → leaseExpired a.leaseExpiresAt s.time = false

/-- A call that returns grants what was asked; one that fails changes nothing, and says of a lease
that is taken that it is. -/
def AttachKept (s : AttachmentStore) (input : AttachRuntimeInput) : Prop :=
  match Storage.attach input s with
  | (.ok a, s') => Granted s s' input a
  | (.error e, s') => s'.attachments = s.attachments ∧
      (Admitted s input → s.current input = none → Busy s input → e = .coded "controllerLeaseBusy")

/-- The row of the request breaks no constraint but that on controllers. -/
def Fits (s : AttachmentStore) (input : AttachRuntimeInput) : Prop :=
  Readable input ∧ (s.earlier input = none → s.attachments.has input.attachmentId = false)

/-- An undetached attachment of the viewer is what it asks for. Without one, nobody asks for a lease
that is taken who was here before or whose cursor cannot be bound, and no lease is over when it is
asked for. -/
def Answerable (s : AttachmentStore) (input : AttachRuntimeInput) : Prop :=
  Admitted s input →
    match s.current input with
    | some a => a.mode = input.mode ∧ (input.mode = .controller → leaseExpired a.leaseExpiresAt s.time = false)
    | none => input.mode = .controller →
        (Busy s input → s.earlier input = none ∧ WordSized input.outputCursor) ∧
          (¬Busy s input → Fits s input → leaseExpired input.leaseExpiresAt s.time = false)

section Rules

variable {s : AttachmentStore} {E : Failure → AttachmentStore → Prop}

@[simp] theorem wp_attachmentNow {Q : String → AttachmentStore → Prop} :
    wp attachmentNow Q E s ↔ Q s.time (s.later 1) := Iff.rfl

@[simp] theorem wp_setAttachments {Q : Unit → AttachmentStore → Prop} (t : Table RuntimeAttachment.attachmentId) :
    wp (setAttachments t) Q E s ↔ Q () { s with attachments := t } := Iff.rfl

@[simp] theorem wp_readBack {Q : RuntimeAttachment → AttachmentStore → Prop} (row : RuntimeAttachment) :
    wp (readBack row) Q E s ↔ (9007199254740991 < row.outputCursor → E (tooLargeToRead row.outputCursor) s) ∧
      (¬9007199254740991 < row.outputCursor → Q row s) := by
  unfold readBack
  rw [wp_ite, wp_fail, wp_pure]

theorem wp_attachmentTransaction {α : Type} {Q : α → AttachmentStore → Prop} {body : AttachmentAction α} :
    wp (attachmentTransaction body) Q E s ↔
      (0 < s.daemon.store.transactionDepth ∨ s.daemon.store.importSession.isSome →
        E (.sqlite "cannot start a transaction within a transaction") s) ∧
      (¬(0 < s.daemon.store.transactionDepth ∨ s.daemon.store.importSession.isSome) →
        wp body Q (fun e s' => E e { s' with attachments := s.attachments }) s) := by
  by_cases hopen : 0 < s.daemon.store.transactionDepth ∨ s.daemon.store.importSession.isSome
  · have hrefused : attachmentTransaction body s =
        (.error (.sqlite "cannot start a transaction within a transaction"), s) := if_pos hopen
    simp [wp, hrefused, hopen]
  · have hruns : attachmentTransaction body s =
        atomically AttachmentStore.attachments (fun t s => { s with attachments := t }) body s := if_neg hopen
    have hsame : wp (attachmentTransaction body) Q E s ↔
        wp (atomically AttachmentStore.attachments (fun t s => { s with attachments := t }) body) Q E s := by
      unfold wp
      rw [hruns]
    rw [hsame, wp_atomically]
    simp [hopen]

/-- Only the clock of the daemon went on. -/
structure Later (s s' : AttachmentStore) : Prop where
  runtimes : s'.daemon.runtimes = s.daemon.runtimes
  quotas : s'.daemon.quotas = s.daemon.quotas

theorem Later.refl (s : AttachmentStore) : Later s s := ⟨rfl, rfl⟩

theorem Later.trans {s' s'' : AttachmentStore} (h : Later s s') (h' : Later s' s'') : Later s s'' :=
  ⟨h'.runtimes.trans h.runtimes, h'.quotas.trans h.quotas⟩

theorem Later.restored {s' : AttachmentStore} (h : Later s s') (t : Table RuntimeAttachment.attachmentId) :
    Later s { s' with attachments := t } := ⟨h.runtimes, h.quotas⟩

end Rules

/-- No two rows break an index. -/
def Indexed (t : Table RuntimeAttachment.attachmentId) : Prop :=
  ∀ a ∈ t.rows, ∀ b ∈ t.rows, a.clashes b = false

/-- A row of the same viewer that is live only if the old one was, in its mode. -/
structure Fades (a a' : RuntimeAttachment) : Prop where
  attachmentId : a'.attachmentId = a.attachmentId
  runtimeId : a'.runtimeId = a.runtimeId
  generation : a'.generation = a.generation
  viewerId : a'.viewerId = a.viewerId
  mode : a'.mode = a.mode
  live : a'.live = true → a.live = true

section Indexes

variable {a b a' b' : RuntimeAttachment} {t u : Table RuntimeAttachment.attachmentId} {runtimeId viewerId : String}
  {generation : Nat}

theorem of_iff : a.of runtimeId generation = true ↔ a.runtimeId = runtimeId ∧ a.generation = generation := by
  simp [RuntimeAttachment.of]

theorem controls_iff : a.controls runtimeId generation = true ↔
    a.of runtimeId generation = true ∧ a.mode = .controller ∧ a.live = true := by
  simp [RuntimeAttachment.controls, and_assoc]

theorem observes_iff : a.observes runtimeId generation = true ↔
    a.of runtimeId generation = true ∧ a.mode = .observe ∧ a.live = true := by
  simp [RuntimeAttachment.observes, and_assoc]

theorem clashes_iff : a.clashes b = true ↔ a.attachmentId ≠ b.attachmentId ∧ b.of a.runtimeId a.generation = true ∧
    (a.viewerId = b.viewerId ∨ (a.mode = .controller ∧ a.live = true) ∧ b.mode = .controller ∧ b.live = true) := by
  simp [RuntimeAttachment.clashes, and_assoc]

theorem Fades.refl (a : RuntimeAttachment) : Fades a a := ⟨rfl, rfl, rfl, rfl, rfl, id⟩

theorem Fades.of (h : Fades a a') : a'.of runtimeId generation = a.of runtimeId generation := by
  rw [RuntimeAttachment.of, RuntimeAttachment.of, h.runtimeId, h.generation]

theorem Fades.controls (h : Fades a a') (hc : a'.controls runtimeId generation = true) :
    a.controls runtimeId generation = true := by
  obtain ⟨hof, hmode, hlive⟩ := controls_iff.mp hc
  exact controls_iff.mpr ⟨h.of ▸ hof, h.mode ▸ hmode, h.live hlive⟩

theorem Fades.observes (h : Fades a a') (hc : a'.observes runtimeId generation = true) :
    a.observes runtimeId generation = true := by
  obtain ⟨hof, hmode, hlive⟩ := observes_iff.mp hc
  exact observes_iff.mpr ⟨h.of ▸ hof, h.mode ▸ hmode, h.live hlive⟩

theorem Fades.clashes (h : Fades a a') (h' : Fades b b') (hclash : a'.clashes b' = true) : a.clashes b = true := by
  obtain ⟨hid, hof, hviewer⟩ := clashes_iff.mp hclash
  rw [h'.of, h.runtimeId, h.generation] at hof
  rw [h.attachmentId, h'.attachmentId] at hid
  rw [h.viewerId, h'.viewerId, h.mode, h'.mode] at hviewer
  refine clashes_iff.mpr ⟨hid, hof, hviewer.imp_right fun hboth => ?_⟩
  exact ⟨⟨hboth.1.1, h.live hboth.1.2⟩, hboth.2.1, h'.live hboth.2.2⟩

theorem detached_fades (at' seenAt : String) (a : RuntimeAttachment) : Fades a (a.detached at' seenAt) :=
  ⟨rfl, rfl, rfl, rfl, rfl, fun hlive => by cases hlive⟩

theorem renewed_fades (leaseExpiresAt seenAt : String) (a : RuntimeAttachment) :
    Fades a (a.renewed leaseExpiresAt seenAt) := ⟨rfl, rfl, rfl, rfl, rfl, id⟩

theorem fades_ite {p : RuntimeAttachment → Bool} {f : RuntimeAttachment → RuntimeAttachment} (hf : ∀ a, Fades a (f a))
    (a : RuntimeAttachment) : Fades a (if p a = true then f a else a) := by
  split_ifs
  · exact hf a
  · exact .refl a

theorem Indexed.fade {g : RuntimeAttachment → RuntimeAttachment} (h : Indexed t) (hg : ∀ a, Fades a (g a))
    (hrows : u.rows = t.rows.map g) : Indexed u := by
  intro a ha b hb
  rw [hrows] at ha hb
  obtain ⟨a₀, ha₀, rfl⟩ := List.mem_map.mp ha
  obtain ⟨b₀, hb₀, rfl⟩ := List.mem_map.mp hb
  exact Bool.eq_false_iff.mpr fun hclash => Bool.eq_false_iff.mp (h a₀ ha₀ b₀ hb₀) ((hg a₀).clashes (hg b₀) hclash)

theorem Indexed.viewer (h : Indexed t) (ha : a ∈ t.rows) (hb : b ∈ t.rows) (hof : a.of runtimeId generation = true)
    (hof' : b.of runtimeId generation = true) (hviewer : a.viewerId = b.viewerId) : a.attachmentId = b.attachmentId := by
  by_contra hid
  obtain ⟨rfl, rfl⟩ := of_iff.mp hof
  exact Bool.eq_false_iff.mp (h a ha b hb) (clashes_iff.mpr ⟨hid, hof', .inl hviewer⟩)

theorem Indexed.controller (h : Indexed t) (ha : a ∈ t.rows) (hb : b ∈ t.rows)
    (hc : a.controls runtimeId generation = true) (hc' : b.controls runtimeId generation = true) :
    a.attachmentId = b.attachmentId := by
  by_contra hid
  obtain ⟨hof, hmode, hlive⟩ := controls_iff.mp hc
  obtain ⟨hof', hmode', hlive'⟩ := controls_iff.mp hc'
  obtain ⟨rfl, rfl⟩ := of_iff.mp hof
  exact Bool.eq_false_iff.mp (h a ha b hb)
    (clashes_iff.mpr ⟨hid, hof', .inr ⟨⟨hmode, hlive⟩, hmode', hlive'⟩⟩)

theorem clashes_comm : a.clashes b = b.clashes a := by
  rw [Bool.eq_iff_iff, clashes_iff, clashes_iff, of_iff, of_iff]
  constructor
  · rintro ⟨hid, ⟨hr, hg⟩, hviewer | ⟨ha, hb⟩⟩
    · exact ⟨Ne.symm hid, ⟨hr.symm, hg.symm⟩, .inl hviewer.symm⟩
    · exact ⟨Ne.symm hid, ⟨hr.symm, hg.symm⟩, .inr ⟨hb, ha⟩⟩
  · rintro ⟨hid, ⟨hr, hg⟩, hviewer | ⟨ha, hb⟩⟩
    · exact ⟨Ne.symm hid, ⟨hr.symm, hg.symm⟩, .inl hviewer.symm⟩
    · exact ⟨Ne.symm hid, ⟨hr.symm, hg.symm⟩, .inr ⟨hb, ha⟩⟩

theorem Indexed.with_row (h : ∀ x ∈ t.rows, x.attachmentId ≠ a.attachmentId → ∀ y ∈ t.rows,
      y.attachmentId ≠ a.attachmentId → x.clashes y = false)
    (hclear : t.rows.any a.clashes = false)
    (hrows : ∀ x ∈ u.rows, x = a ∨ x ∈ t.rows ∧ x.attachmentId ≠ a.attachmentId) : Indexed u := by
  have hnone (x : RuntimeAttachment) (hx : x ∈ t.rows) : a.clashes x = false :=
    Bool.eq_false_iff.mpr (List.any_eq_false.mp hclear x hx)
  intro x hx y hy
  rcases hrows x hx with rfl | ⟨hx, hxa⟩ <;> rcases hrows y hy with rfl | ⟨hy, hya⟩
  · exact Bool.eq_false_iff.mpr fun hself => (clashes_iff.mp hself).1 rfl
  · exact hnone y hy
  · rw [clashes_comm]
    exact hnone x hx
  · exact h x hx hxa y hy hya

end Indexes

structure AttachmentsKept (s : AttachmentStore) : Prop where
  indexed : Indexed s.attachments
  observers : ∀ runtimeId runtime, s.daemon.runtime runtimeId = some runtime → ∀ generation,
    (s.observers runtimeId generation).length ≤ s.daemon.maxObserversPerRuntime runtime.machineId

section Kept

variable {s s' : AttachmentStore} {input : AttachRuntimeInput}

theorem Later.runtime (h : Later s s') (runtimeId : String) : s'.daemon.runtime runtimeId = s.daemon.runtime runtimeId := by
  rw [Daemon.runtime, Daemon.runtime, h.runtimes]

theorem Later.maxObservers (h : Later s s') (machineId : String) :
    s'.daemon.maxObserversPerRuntime machineId = s.daemon.maxObserversPerRuntime machineId := by
  rw [Daemon.maxObserversPerRuntime, Daemon.maxObserversPerRuntime, h.quotas]

theorem AttachmentsKept.bounded (h : AttachmentsKept s) : Bounded s := by
  refine ⟨fun runtimeId generation => ?_, h.observers, fun runtimeId generation viewerId => ?_⟩
  · rw [AttachmentStore.controllers, Table.length_select]
    exact Table.countP_le_one fun a ha b hb hc hc' => h.indexed.controller ha hb hc hc'
  · rw [AttachmentStore.viewers, Table.length_select]
    refine Table.countP_le_one fun a ha b hb hc hc' => ?_
    simp only [Bool.and_eq_true, decide_eq_true_eq] at hc hc'
    exact h.indexed.viewer ha hb hc.1.1 hc'.1.1 (hc.1.2.trans hc'.1.2.symm)

theorem AttachmentsKept.same (h : AttachmentsKept s) (hlater : Later s s') (hrows : s'.attachments = s.attachments) :
    AttachmentsKept s' := by
  refine ⟨hrows ▸ h.indexed, fun runtimeId runtime hruntime generation => ?_⟩
  rw [hlater.runtime] at hruntime
  rw [hlater.maxObservers, AttachmentStore.observers, hrows]
  exact h.observers runtimeId runtime hruntime generation

theorem AttachmentsKept.fade {g : RuntimeAttachment → RuntimeAttachment} (h : AttachmentsKept s) (hlater : Later s s')
    (hg : ∀ a, Fades a (g a)) (hrows : s'.attachments.rows = s.attachments.rows.map g) : AttachmentsKept s' := by
  refine ⟨h.indexed.fade hg hrows, fun runtimeId runtime hruntime generation => ?_⟩
  rw [hlater.runtime] at hruntime
  rw [hlater.maxObservers, AttachmentStore.observers, Table.length_select]
  refine le_trans (Table.countP_rewrite_le hrows fun a => (hg a).observes) ?_
  rw [← Table.length_select]
  exact h.observers runtimeId runtime hruntime generation

end Kept

section Calls

variable {s : AttachmentStore} {input : AttachRuntimeInput}

/-- What became of the controller of the generation. -/
structure Roomy (s : AttachmentStore) (input : AttachRuntimeInput) (s' : AttachmentStore) : Prop where
  later : Later s s'
  fades : ∃ g : RuntimeAttachment → RuntimeAttachment, (∀ a, Fades a (g a)) ∧ (∀ a, a.live = false → g a = a) ∧
    s'.attachments.rows = s.attachments.rows.map g
  busy : Busy s input → s'.attachments = s.attachments
  free : ¬Busy s input → input.mode = .controller → s'.controllers input.runtimeId input.generation = []

theorem roomy_same (h : Later s s') (hattachments : s'.attachments = s.attachments)
    (hfree : ¬Busy s input → input.mode = .controller → s.controllers input.runtimeId input.generation = []) :
    Roomy s input s' := by
  refine ⟨h, ⟨id, .refl, fun _ _ => rfl, by rw [hattachments, List.map_id]⟩, fun _ => hattachments, fun hidle hmode => ?_⟩
  rw [AttachmentStore.controllers, hattachments]
  exact hfree hidle hmode

theorem roomy_detached (hI : Indexed s.attachments) (h : Later s s') {holder : RuntimeAttachment}
    (hholder : holder ∈ s.controllers input.runtimeId input.generation) (at' seenAt : String)
    (hidle : ¬Busy s input) (hrows : s'.attachments = s.attachments.update
      (fun a => a.attachmentId = holder.attachmentId && a.live) (RuntimeAttachment.detached at' seenAt) fun _ => rfl) :
    Roomy s input s' := by
  have hfades (a : RuntimeAttachment) := fades_ite
    (p := fun a => a.attachmentId = holder.attachmentId && a.live) (detached_fades at' seenAt) a
  refine ⟨h, ⟨_, hfades, fun a ha => if_neg (by simp [ha]), by rw [hrows]; rfl⟩,
    fun hbusy => absurd hbusy hidle, fun _ _ => ?_⟩
  rw [AttachmentStore.controllers, Table.select, List.filter_eq_nil_iff, hrows]
  intro a ha hcontrols
  obtain ⟨a₀, ha₀, rfl⟩ := List.mem_map.mp ha
  obtain ⟨hmem, hholds⟩ := Table.mem_select.mp hholder
  have hold := (hfades a₀).controls hcontrols
  have hsame := hI.controller ha₀ hmem hold hholds
  have hlive := (controls_iff.mp hold).2.2
  have hgone : (decide (a₀.attachmentId = holder.attachmentId) && a₀.live) = true := by
    rw [hsame, hlive, decide_eq_true rfl, Bool.and_self]
  rw [if_pos hgone] at hcontrols
  cases (controls_iff.mp hcontrols).2.2

theorem makeRoom_spec (hI : Indexed s.attachments) (runtime : Runtime) (input : AttachRuntimeInput) :
    wp (makeRoom runtime input)
      (fun _ s' => Roomy s input s' ∧ (input.mode = .observe → s'.attachments = s.attachments ∧
        (s.observers input.runtimeId input.generation).length < s.daemon.maxObserversPerRuntime runtime.machineId))
      (fun _ s' => input.mode = .observe ∧ Later s s') s := by
  unfold makeRoom
  rw [wp_bind, wp_read]
  cases hmode : input.mode with
  | observe =>
    simp only [wp_ite, wp_fail, wp_pure]
    refine ⟨fun _ => ⟨trivial, .refl s⟩, fun hroom => ⟨roomy_same (.refl s) rfl fun _ hc => ?_, fun _ =>
      ⟨trivial, Nat.lt_of_not_le hroom⟩⟩⟩
    cases hmode.symm.trans hc
  | controller =>
    have hbusy (hidle : ¬Busy s input) {holder : RuntimeAttachment} {rest : List RuntimeAttachment}
        (hholders : s.controllers input.runtimeId input.generation = holder :: rest)
        (hkeeps : leaseExpired holder.leaseExpiresAt s.time = false) (hoverride : input.operatorOverride = false) : False :=
      hidle ⟨hmode, hoverride, holder, hholders ▸ List.mem_cons_self, hkeeps⟩
    cases hholders : s.controllers input.runtimeId input.generation with
    | nil => exact ⟨roomy_same (.refl s) rfl fun _ _ => hholders, fun hbad => by cases hbad⟩
    | cons holder rest =>
      have hmem : holder ∈ s.controllers input.runtimeId input.generation := hholders ▸ List.mem_cons_self
      -- the index leaves no other controller, so that nobody is busy when this one goes
      have hidle (hgoes : leaseExpired holder.leaseExpiresAt s.time = true ∨ input.operatorOverride = true) :
          ¬Busy s input := by
        rintro ⟨-, hoverride, other, hother, hkeeps⟩
        obtain ⟨ho, hoc⟩ := Table.mem_select.mp hother
        obtain ⟨hh, hhc⟩ := Table.mem_select.mp hmem
        have hsame := Table.eq_of_key ho hh (hI.controller ho hh hoc hhc)
        rcases hgoes with hexpired | hgoes
        · rw [hsame, hexpired] at hkeeps
          cases hkeeps
        · rw [hoverride] at hgoes
          cases hgoes
      simp only [wp_ite, wp_bind, wp_attachmentNow, wp_pure]
      refine ⟨fun hgiven => ⟨fun hgoes => ?_, fun hstays => ?_⟩, fun hgiven => ⟨fun hgoes => ?_, fun hstays => ?_⟩⟩
      · exact ⟨roomy_detached hI ⟨rfl, rfl⟩ hmem _ _ (hidle hgoes) rfl, fun hbad => by cases hbad⟩
      · rw [not_or, Bool.not_eq_true, Bool.not_eq_true] at hstays
        exact ⟨roomy_same ⟨rfl, rfl⟩ rfl fun hfree _ => (hbusy hfree hholders hstays.1 hstays.2).elim,
          fun hbad => by cases hbad⟩
      · exact ⟨roomy_detached hI ⟨rfl, rfl⟩ hmem _ _ (hidle (.inr hgoes)) rfl, fun hbad => by cases hbad⟩
      · refine ⟨roomy_same (.refl s) rfl fun hfree _ => (hbusy hfree hholders ?_ (by simpa using hstays)).elim,
          fun hbad => by cases hbad⟩
        rw [leaseExpired, Bool.eq_false_iff]
        intro hexpired
        obtain ⟨lease, hlease, hover⟩ := (Option.any_eq_true _ _).mp hexpired
        rw [Text.given, hlease, Option.any_some] at hgiven
        rw [Bool.and_eq_true] at hover
        exact hgiven hover.1

/-- The viewer has a row that is not detached, as it asked, and the bounds stay. -/
structure Took (s s' : AttachmentStore) (input : AttachRuntimeInput) (a : RuntimeAttachment) : Prop where
  later : Later s s'
  stored : s'.attachment a.attachmentId = some a
  undetached : a.detachedAt = none
  mode : a.mode = input.mode
  lease : a.leaseExpiresAt = input.leaseExpiresAt
  kept : AttachmentsKept s'

theorem observers_step (hkept : AttachmentsKept s) (hlater : Later s s') {a : RuntimeAttachment}
    (hof : a.of input.runtimeId input.generation = true) (hmode : a.mode = input.mode)
    (hroom : input.mode = .observe → ∀ runtime, s.daemon.runtime input.runtimeId = some runtime →
      (s.observers input.runtimeId input.generation).length < s.daemon.maxObserversPerRuntime runtime.machineId)
    (hsame : ∀ q : RuntimeAttachment → Bool, q a = false → s'.attachments.rows.countP q ≤ s.attachments.rows.countP q)
    (hmore : ∀ q : RuntimeAttachment → Bool, s'.attachments.rows.countP q ≤ s.attachments.rows.countP q + 1)
    (runtimeId : String) (runtime : Runtime) (hruntime : s'.daemon.runtime runtimeId = some runtime) (generation : Nat) :
    (s'.observers runtimeId generation).length ≤ s'.daemon.maxObserversPerRuntime runtime.machineId := by
  rw [hlater.runtime] at hruntime
  have hold := hkept.observers runtimeId runtime hruntime generation
  rw [hlater.maxObservers]
  rw [AttachmentStore.observers, Table.length_select] at hold ⊢
  by_cases hobserves : a.observes runtimeId generation = true
  · obtain ⟨hof', hmode', -⟩ := observes_iff.mp hobserves
    obtain ⟨hr, hg⟩ := of_iff.mp hof
    obtain ⟨rfl, rfl⟩ := of_iff.mp hof'
    have hroom' := hroom (hmode.symm.trans hmode') runtime (hr ▸ hruntime)
    rw [AttachmentStore.observers, Table.length_select, ← hr, ← hg] at hroom'
    exact (hmore _).trans hroom'
  · exact (hsame _ (Bool.eq_false_iff.mpr hobserves)).trans hold

theorem reattach_spec (hkept : AttachmentsKept s) {e : RuntimeAttachment} (he : e ∈ s.attachments.rows)
    (hdead : e.live = false) (hof : e.of input.runtimeId input.generation = true)
    (hroom : input.mode = .observe → ∀ runtime, s.daemon.runtime input.runtimeId = some runtime →
      (s.observers input.runtimeId input.generation).length < s.daemon.maxObserversPerRuntime runtime.machineId) :
    wp (reattach e input)
      (fun a s' => Readable input ∧
        (input.mode = .controller → s.controllers input.runtimeId input.generation = []) ∧ Took s s' input a)
      (fun error s' => Later s s' ∧ error ≠ .coded "controllerLeaseBusy" ∧ (¬Readable input ∨
        input.mode = .controller ∧ s.controllers input.runtimeId input.generation ≠ [])) s := by
  have hclash (at' seenAt : String) {b : RuntimeAttachment} (hb : b ∈ s.attachments.rows) :
      (RuntimeAttachment.reattached input at' seenAt e).clashes b = true ↔
        input.mode = .controller ∧ b ∈ s.controllers input.runtimeId input.generation := by
    obtain ⟨hr, hg⟩ := of_iff.mp hof
    rw [clashes_iff, AttachmentStore.controllers, Table.mem_select, controls_iff]
    change e.attachmentId ≠ b.attachmentId ∧ b.of e.runtimeId e.generation = true ∧
      (e.viewerId = b.viewerId ∨ (input.mode = .controller ∧ _) ∧ _) ↔ _
    rw [hr, hg]
    constructor
    · rintro ⟨hid, hof', hviewer | ⟨hmode, hcontrols⟩⟩
      · exact absurd (hkept.indexed.viewer he hb hof hof' hviewer) hid
      · exact ⟨hmode.1, hb, hof', hcontrols⟩
    · rintro ⟨hmode, -, hof', hmode', hlive⟩
      refine ⟨fun hid => ?_, hof', .inr ⟨⟨hmode, rfl⟩, hmode', hlive⟩⟩
      rw [← Table.eq_of_key he hb hid, hdead] at hlive
      cases hlive
  unfold reattach
  simp only [wp_bind, wp_attachmentNow, wp_read, wp_ite, wp_fail, wp_setAttachments, wp_readBack]
  refine ⟨fun hlarge => ⟨⟨rfl, rfl⟩, Failure.noConfusion, .inl fun hread => hlarge hread.wordSized⟩, fun _ =>
    ⟨fun hcursor => ⟨⟨rfl, rfl⟩, Failure.noConfusion, .inl fun hread => Int.not_lt.mpr hread.1 hcursor⟩,
      fun hcursor => ⟨fun hany => ?_, fun hclear => ?_⟩⟩⟩
  · obtain ⟨b, hb, hbad⟩ := List.any_eq_true.mp hany
    obtain ⟨hmode, hmem⟩ := (hclash _ _ hb).mp hbad
    exact ⟨⟨rfl, rfl⟩, Failure.noConfusion, .inr ⟨hmode, List.ne_nil_of_mem hmem⟩⟩
  · have hrows : (s.attachments.update (fun a => a.attachmentId = e.attachmentId)
          (RuntimeAttachment.reattached input s.time (s.later 1).time) fun _ => rfl).rows =
        s.attachments.rows.map fun x => if x.attachmentId = e.attachmentId then
          RuntimeAttachment.reattached input s.time (s.later 1).time x else x := by
      refine List.map_congr_left fun x _ => ?_
      simp only [decide_eq_true_eq]
    refine ⟨fun hover => ⟨⟨rfl, rfl⟩, Failure.noConfusion, .inl fun hread => Int.not_lt.mpr hread.2 hover⟩,
      fun hunder => ⟨⟨Int.not_lt.mp hcursor, Int.not_lt.mp hunder⟩, fun hmode => ?_, ⟨rfl, rfl⟩, ?_, rfl, rfl, rfl,
        ?_, ?_⟩⟩
    · refine List.eq_nil_iff_forall_not_mem.mpr fun b hb => hclear ?_
      have hmem := (Table.mem_select.mp hb).1
      exact List.any_eq_true.mpr ⟨b, hmem, (hclash _ _ hmem).mpr ⟨hmode, hb⟩⟩
    · refine (Table.find?_rewrite (t := s.attachments) (p := fun a => a.attachmentId = e.attachmentId)
        (f := RuntimeAttachment.reattached input s.time (s.later 1).time) rfl (fun _ => rfl) e.attachmentId).trans ?_
      rw [Table.find?_of_mem he, Option.map_some, if_pos (decide_eq_true rfl)]
    · refine Indexed.with_row (fun x hx _ y hy _ => hkept.indexed x hx y hy) (Bool.eq_false_iff.mpr hclear)
        fun x hx => ?_
      obtain ⟨x₀, hx₀, rfl⟩ := List.mem_map.mp hx
      by_cases hid : x₀.attachmentId = e.attachmentId
      · rw [if_pos (decide_eq_true hid), Table.eq_of_key hx₀ he hid]
        exact .inl rfl
      · rw [if_neg (by simpa using hid)]
        exact .inr ⟨hx₀, hid⟩
    · refine observers_step (s := s) (a := RuntimeAttachment.reattached input s.time (s.later 1).time e) hkept ⟨rfl, rfl⟩ hof rfl hroom
        (fun q hq => ?_) fun q => ?_
      · refine (congrArg (List.countP q) hrows).trans_le ?_
        rw [List.countP_map]
        refine List.countP_mono_left fun x hx hq' => ?_
        by_cases hid : x.attachmentId = e.attachmentId
        · rw [Function.comp_apply, if_pos hid, Table.eq_of_key hx he hid, hq] at hq'
          cases hq'
        · rwa [Function.comp_apply, if_neg hid] at hq'
      · exact Table.countP_rewrite_le_succ hrows q

/-- The viewer has no row of the generation. -/
def Vacant (s : AttachmentStore) (input : AttachRuntimeInput) : Prop :=
  ∀ a ∈ s.attachments.rows, a.of input.runtimeId input.generation = true → a.viewerId ≠ input.viewerId

theorem insertAttachment_spec (hkept : AttachmentsKept s) (hvacant : Vacant s input)
    (hroom : input.mode = .observe → ∀ runtime, s.daemon.runtime input.runtimeId = some runtime →
      (s.observers input.runtimeId input.generation).length < s.daemon.maxObserversPerRuntime runtime.machineId) :
    wp (insertAttachment input)
      (fun a s' => Readable input ∧ s.attachments.has input.attachmentId = false ∧
        (input.mode = .controller → s.controllers input.runtimeId input.generation = []) ∧ Took s s' input a)
      (fun error s' => Later s s' ∧
        (input.mode = .controller → s.controllers input.runtimeId input.generation ≠ [] →
          (error = .coded "controllerLeaseBusy" ↔ WordSized input.outputCursor)) ∧
        (¬(Readable input ∧ s.attachments.has input.attachmentId = false) ∨
          input.mode = .controller ∧ s.controllers input.runtimeId input.generation ≠ [])) s := by
  have hclash (at' seenAt : String) {b : RuntimeAttachment} (hb : b ∈ s.attachments.rows) :
      (RuntimeAttachment.fresh input at' seenAt).clashes b = true ↔ input.attachmentId ≠ b.attachmentId ∧
        input.mode = .controller ∧ b ∈ s.controllers input.runtimeId input.generation := by
    rw [clashes_iff, AttachmentStore.controllers, Table.mem_select, controls_iff]
    change input.attachmentId ≠ b.attachmentId ∧ b.of input.runtimeId input.generation = true ∧
      (input.viewerId = b.viewerId ∨ (input.mode = .controller ∧ _) ∧ _) ↔ _
    constructor
    · rintro ⟨hid, hof', hviewer | ⟨hmode, hcontrols⟩⟩
      · exact absurd hviewer.symm (hvacant b hb hof')
      · exact ⟨hid, hmode.1, hb, hof', hcontrols⟩
    · rintro ⟨hid, hmode, -, hof', hcontrols⟩
      exact ⟨hid, hof', .inr ⟨⟨hmode, rfl⟩, hcontrols⟩⟩
  unfold insertAttachment
  simp only [wp_bind, wp_attachmentNow, wp_read, wp_ite, wp_fail]
  refine ⟨fun hlarge => ⟨⟨rfl, rfl⟩, fun _ _ => iff_of_false Failure.noConfusion hlarge,
    .inl fun h => hlarge h.1.wordSized⟩, fun hsized => ?_⟩
  have hsized : WordSized input.outputCursor := not_not.mp hsized
  have hnamed (hmode : input.mode = .controller) : Failure.coded (if input.mode = .controller then
      "controllerLeaseBusy" else "runtimeAttachmentAlreadyExists") = .coded "controllerLeaseBusy" := by rw [if_pos hmode]
  refine ⟨fun hrefused => ⟨⟨rfl, rfl⟩, fun hmode _ => iff_of_true (hnamed hmode) hsized, ?_⟩, fun hclear => ?_⟩
  · rcases hrefused with hcursor | hany
    · exact .inl fun h => absurd hcursor (Int.not_lt.mpr h.1.1)
    · obtain ⟨b, hb, hbad⟩ := List.any_eq_true.mp hany
      obtain ⟨-, hmode, hmem⟩ := (hclash _ _ hb).mp hbad
      exact .inr ⟨hmode, List.ne_nil_of_mem hmem⟩
  · obtain ⟨hcursor, hclear⟩ := not_or.mp hclear
    cases hinsert : s.attachments.insert? (RuntimeAttachment.fresh input s.time (s.later 1).time) with
    | none =>
      have htaken : s.attachments.has input.attachmentId = true := Table.insert?_eq_none.mp hinsert
      have hinsert' : ((s.later 1).later 1).attachments.insert? (RuntimeAttachment.fresh input s.time (s.later 1).time) =
          none := hinsert
      rw [hinsert']
      refine ⟨⟨rfl, rfl⟩, fun hmode _ => iff_of_true (hnamed hmode) hsized, .inl fun h => ?_⟩
      rw [htaken] at h
      cases h.2
    | some t =>
      have hinsert' : ((s.later 1).later 1).attachments.insert? (RuntimeAttachment.fresh input s.time (s.later 1).time) =
          some t := hinsert
      rw [hinsert']
      obtain ⟨hnew, hrows⟩ := Table.insert?_eq_some.mp hinsert
      have hfree : s.attachments.has input.attachmentId = false := Bool.eq_false_iff.mpr hnew
      have hnone (hmode : input.mode = .controller) : s.controllers input.runtimeId input.generation = [] := by
        refine List.eq_nil_iff_forall_not_mem.mpr fun b hb => hclear ?_
        have hmem := (Table.mem_select.mp hb).1
        refine List.any_eq_true.mpr ⟨b, hmem, (hclash _ _ hmem).mpr ⟨fun hid => hnew ?_, hmode, hb⟩⟩
        exact (Table.has_iff _ _).mpr (List.mem_map.mpr ⟨b, hmem, hid.symm⟩)
      dsimp only
      rw [wp_bind, wp_setAttachments, wp_readBack]
      refine ⟨fun hover => ⟨⟨rfl, rfl⟩, fun hmode hheld => absurd (hnone hmode) hheld,
        .inl fun h => Int.not_lt.mpr h.1.2 hover⟩, fun hunder => ?_⟩
      refine ⟨⟨Int.not_lt.mp hcursor, Int.not_lt.mp hunder⟩, hfree, hnone, ⟨rfl, rfl⟩, ?_, rfl, rfl, rfl, ?_, ?_⟩
      · exact (Table.find?_insert hinsert _).trans (if_pos rfl)
      · refine Indexed.with_row (fun x hx _ y hy _ => hkept.indexed x hx y hy) (Bool.eq_false_iff.mpr hclear)
          fun x hx => ?_
        change x ∈ t.rows at hx
        rw [hrows, List.mem_append, List.mem_singleton] at hx
        rcases hx with hx | hx
        · refine .inr ⟨hx, fun hid => hnew ?_⟩
          exact (Table.has_iff _ _).mpr (List.mem_map.mpr ⟨x, hx, hid⟩)
        · exact .inl hx
      · have hcount (q : RuntimeAttachment → Bool) := Table.countP_insert hinsert q
        refine observers_step (s := s) (a := RuntimeAttachment.fresh input s.time (s.later 1).time) hkept ⟨rfl, rfl⟩
          (of_iff.mpr ⟨rfl, rfl⟩) rfl hroom (fun q hq => ?_) fun q => ?_
        · exact ((hcount q).trans (by rw [hq]; rfl)).le
        · refine (hcount q).le.trans (Nat.add_le_add_left ?_ _)
          split_ifs
          · exact le_rfl
          · exact Nat.zero_le 1

/-- The ways an attach ends once its request was admitted. -/
structure Attached (s : AttachmentStore) (input : AttachRuntimeInput) (a : RuntimeAttachment) (s' : AttachmentStore) :
    Prop where
  later : Later s s'
  kept : AttachmentsKept s'
  admitted : Admitted s input
  outcome : s.current input = some a ∧ s'.attachments = s.attachments ∨
    s.current input = none ∧ Fits s input ∧ (input.mode = .controller → ¬Busy s input) ∧ Took s s' input a

structure Failed (s : AttachmentStore) (input : AttachRuntimeInput) (e : Failure) (s' : AttachmentStore) : Prop where
  later : Later s s'
  unchanged : s'.attachments = s.attachments
  vacant : Admitted s input → s.current input = none
  unfit : Admitted s input → input.mode = .controller → Busy s input ∨ ¬Fits s input
  busy : Admitted s input → Busy s input →
    (e = .coded "controllerLeaseBusy" ↔ s.earlier input = none ∧ WordSized input.outputCursor)

theorem dead_of_current (h : s.current input = none) {a : RuntimeAttachment} (ha : a ∈ s.attachments.rows)
    (hof : a.of input.runtimeId input.generation = true) (hviewer : a.viewerId = input.viewerId) : a.live = false := by
  have hnot := List.find?_eq_none.mp h a ha
  simpa [hof, hviewer] using hnot

theorem mem_of_earlier {e : RuntimeAttachment} (h : s.earlier input = some e) :
    e ∈ s.attachments.rows ∧ e.of input.runtimeId input.generation = true ∧ e.live = false := by
  obtain ⟨hmem, hselected⟩ := Table.mem_select.mp ((List.mem_insertionSort _).mp (List.mem_of_head? h))
  simp only [Bool.and_eq_true, Bool.not_eq_true'] at hselected
  exact ⟨hmem, hselected.1.1, hselected.2⟩

theorem vacant_of_none (hcurrent : s.current input = none) (hearlier : s.earlier input = none) : Vacant s input := by
  intro a ha hof hviewer
  have hdead := dead_of_current hcurrent ha hof hviewer
  have hnil := List.head?_eq_none_iff.mp hearlier
  have hmem : a ∈ s.attachments.select fun a =>
      a.of input.runtimeId input.generation && a.viewerId = input.viewerId && !a.live :=
    Table.mem_select.mpr ⟨ha, by simp [hof, hviewer, hdead]⟩
  rw [← List.mem_insertionSort (fun a b : RuntimeAttachment => b.attachedAt ≤ a.attachedAt), hnil] at hmem
  cases hmem

theorem runtime_of_checkAttach {d : Daemon} {runtime : Runtime} (h : checkAttach d input = .ok runtime) :
    d.runtime input.runtimeId = some runtime := by
  unfold checkAttach at h
  cases hruntime : d.runtime input.runtimeId with
  | none =>
    rw [hruntime] at h
    cases h
  | some found =>
    rw [hruntime] at h
    dsimp only at h
    obtain ⟨-, -, h⟩ := ok_of_bind h
    split_ifs at h
    cases h
    rfl

theorem attach_spec (hkept : AttachmentsKept s) (input : AttachRuntimeInput) :
    wp (attach input) (fun a s' => Attached s input a s') (fun e s' => Failed s input e s') s := by
  have hearly (e : Failure) (hnot : ¬Admitted s input) : Failed s input e s :=
    ⟨.refl s, rfl, fun h => absurd h hnot, fun h => absurd h hnot, fun h => absurd h hnot⟩
  unfold attach
  simp only [wp_bind, wp_ofExcept, wp_ite, wp_fail]
  refine ⟨fun _ hidentity => ⟨fun hunnamed => hearly _ fun h => ?_, fun hnamed => ?_⟩,
    fun e herror => hearly _ fun h => ?_⟩
  · exact hunnamed.elim h.named.1 h.named.2
  · rw [wp_attachmentTransaction]
    refine ⟨fun hopen => hearly _ fun h => ?_, fun hidle => ?_⟩
    · rw [h.idle.1, h.idle.2] at hopen
      rcases hopen with hopen | hopen
      · exact absurd hopen (lt_irrefl 0)
      · cases hopen
    · simp only [wp_bind, wp_read, wp_ofExcept]
      refine ⟨fun runtime hruntime => ?_, fun e herror => hearly _ fun h => ?_⟩
      · have hadmitted : Admitted s input := by
          rw [not_or, Nat.pos_iff_ne_zero, not_not, Option.not_isSome_iff_eq_none] at hidle
          exact ⟨hidentity, not_or.mp hnamed, hidle, runtime, hruntime⟩
        cases hcurrent : s.current input with
        | some a => exact ⟨.refl s, hkept, hadmitted, .inl ⟨hcurrent, rfl⟩⟩
        | none =>
          dsimp only
          rw [wp_bind]
          refine wp_mono (makeRoom_spec hkept.indexed runtime input) (fun _ s₁ hroomy => ?_) fun e s₁ hfull => ?_
          · obtain ⟨hroomy, hobserve⟩ := hroomy
            obtain ⟨g, hfades, hdead, hrows⟩ := hroomy.fades
            have hkept₁ := hkept.fade hroomy.later hfades hrows
            have hroom (hmode : input.mode = .observe) (found : Runtime)
                (hfound : s₁.daemon.runtime input.runtimeId = some found) :
                (s₁.observers input.runtimeId input.generation).length <
                  s₁.daemon.maxObserversPerRuntime found.machineId := by
              obtain ⟨hsame, hlt⟩ := hobserve hmode
              rw [hroomy.later.runtime, runtime_of_checkAttach hruntime] at hfound
              cases hfound
              rw [hroomy.later.maxObservers, AttachmentStore.observers, hsame]
              exact hlt
            have hfree (hnone : input.mode = .controller → s₁.controllers input.runtimeId input.generation = [])
                (hmode : input.mode = .controller) : ¬Busy s input := by
              intro hbusy
              have hsame := hroomy.busy hbusy
              obtain ⟨-, -, holder, hholder, -⟩ := hbusy
              have hnil := hnone hmode
              rw [AttachmentStore.controllers, hsame] at hnil
              rw [AttachmentStore.controllers, hnil] at hholder
              cases hholder
            have htaken (hheld : input.mode = .controller ∧ s₁.controllers input.runtimeId input.generation ≠ []) :
                Busy s input := by
              by_contra hidle
              exact hheld.2 (hroomy.free hidle hheld.1)
            cases hearlier : s.earlier input with
            | some e =>
              obtain ⟨he, hof, hlive⟩ := mem_of_earlier hearlier
              have he₁ : e ∈ s₁.attachments.rows := by
                rw [hrows]
                exact List.mem_map.mpr ⟨e, he, hdead e hlive⟩
              refine wp_mono (reattach_spec hkept₁ he₁ hlive hof hroom) (fun a s' hok => ?_) fun error s' hfailed => ?_
              · obtain ⟨hcursor, hnone, htook⟩ := hok
                have hlater := hroomy.later.trans htook.later
                refine ⟨hlater, htook.kept, hadmitted, .inr ⟨hcurrent, ⟨hcursor, fun hbad => ?_⟩, hfree hnone, ?_⟩⟩
                · cases hearlier.symm.trans hbad
                · exact { htook with later := hlater }
              · obtain ⟨hlater, hother, hwhy⟩ := hfailed
                refine ⟨(hroomy.later.trans hlater).restored _, rfl, fun _ => hcurrent, fun _ _ => ?_, fun _ _ => ?_⟩
                · exact hwhy.elim (fun hunread => .inr fun hfits => hunread hfits.1) fun hheld => .inl (htaken hheld)
                · exact ⟨fun hbad => absurd hbad hother, fun hbad => (by cases hearlier.symm.trans hbad.1)⟩
            | none =>
              have hvacant : Vacant s₁ input := by
                intro a ha hof hviewer
                rw [hrows] at ha
                obtain ⟨a₀, ha₀, rfl⟩ := List.mem_map.mp ha
                rw [(hfades a₀).of] at hof
                rw [(hfades a₀).viewerId] at hviewer
                exact vacant_of_none hcurrent hearlier a₀ ha₀ hof hviewer
              have hhas : s₁.attachments.has input.attachmentId = s.attachments.has input.attachmentId := by
                rw [Bool.eq_iff_iff, Table.has_iff, Table.has_iff, hrows, List.map_map]
                have hids : RuntimeAttachment.attachmentId ∘ g = RuntimeAttachment.attachmentId :=
                  funext fun a => (hfades a).attachmentId
                rw [hids]
              refine wp_mono (insertAttachment_spec hkept₁ hvacant hroom) (fun a s' hok => ?_) fun error s' hfailed => ?_
              · obtain ⟨hcursor, hunused, hnone, htook⟩ := hok
                have hlater := hroomy.later.trans htook.later
                exact ⟨hlater, htook.kept, hadmitted, .inr ⟨hcurrent, ⟨hcursor, fun _ => hhas ▸ hunused⟩, hfree hnone,
                  { htook with later := hlater }⟩⟩
              · obtain ⟨hlater, hcoded, hwhy⟩ := hfailed
                refine ⟨(hroomy.later.trans hlater).restored _, rfl, fun _ => hcurrent, fun _ _ => ?_, fun _ hbusy => ?_⟩
                · refine hwhy.elim (fun hunfit => .inr fun hfits => hunfit ⟨hfits.1, ?_⟩) fun hheld => .inl (htaken hheld)
                  rw [hhas]
                  exact hfits.2 hearlier
                · have hheld : s₁.controllers input.runtimeId input.generation ≠ [] := fun hnil =>
                    hfree (fun _ => hnil) hbusy.1 hbusy
                  exact (hcoded hbusy.1 hheld).trans ⟨fun hsized => ⟨hearlier, hsized⟩, And.right⟩
          · obtain ⟨hmode, hlater⟩ := hfull
            refine ⟨hlater.restored _, rfl, fun _ => hcurrent, fun _ hcontroller => ?_, fun _ hbusy => ?_⟩
            · cases hmode.symm.trans hcontroller
            · cases hmode.symm.trans hbusy.1
      · obtain ⟨runtime, hruntime⟩ := h.runtime
        cases hruntime.symm.trans herror
  · cases h.identity.symm.trans herror

theorem detachRow_kept (hkept : AttachmentsKept s) (attachmentId : String) :
    wp (detachRow attachmentId) (fun _ s' => Later s s' ∧ AttachmentsKept s') (fun _ _ => False) s := by
  unfold detachRow
  simp only [wp_bind, wp_attachmentNow]
  have hlater : Later s ((s.later 1).later 1) := ⟨rfl, rfl⟩
  have hkept' := hkept.same hlater rfl
  exact ⟨⟨rfl, rfl⟩, hkept'.fade ⟨rfl, rfl⟩ (fades_ite (detached_fades _ _)) rfl⟩

theorem detach_kept (hkept : AttachmentsKept s) (attachmentId : String) :
    wp (detach attachmentId) (fun _ s' => AttachmentsKept s') (fun _ s' => AttachmentsKept s') s := by
  unfold detach
  rw [wp_attachmentTransaction]
  refine ⟨fun _ => hkept, fun _ => ?_⟩
  rw [wp_bind, wp_read]
  cases s.attachment attachmentId with
  | none => exact hkept
  | some attachment =>
    dsimp only
    split_ifs
    · rw [wp_bind]
      refine wp_mono (detachRow_kept hkept attachmentId) (fun _ s' hpost => ?_) fun _ _ hbad => hbad.elim
      rw [wp_bind, wp_read]
      cases s'.attachment attachmentId with
      | none => exact hkept.same (hpost.1.restored _) rfl
      | some attachment => exact hpost.2
    · rw [wp_bind, wp_read]
      cases s.attachment attachmentId with
      | none => exact hkept.same ((Later.refl s).restored _) rfl
      | some attachment => exact hkept

theorem renew_kept (hkept : AttachmentsKept s) (attachmentId leaseExpiresAt : String) :
    wp (renewControllerLease attachmentId leaseExpiresAt) (fun _ s' => AttachmentsKept s')
      (fun _ s' => AttachmentsKept s') s := by
  unfold renewControllerLease
  rw [wp_attachmentTransaction]
  refine ⟨fun _ => hkept, fun _ => ?_⟩
  rw [wp_bind, wp_read]
  cases (s.attachment attachmentId).filter RuntimeAttachment.live with
  | none => exact hkept
  | some attachment =>
    simp only [wp_ite, wp_fail, wp_bind, wp_attachmentNow, wp_setAttachments, wp_pure]
    exact ⟨fun _ => hkept, fun _ => hkept.fade ⟨rfl, rfl⟩ (fades_ite (renewed_fades _ _)) rfl⟩

theorem attachmentStep_kept (hkept : AttachmentsKept s) (op : AttachmentOp) : AttachmentsKept (attachmentStep s op) := by
  have hwp : wp op.perform (fun _ s' => AttachmentsKept s') (fun _ s' => AttachmentsKept s') s := by
    cases op with
    | attach input =>
      rw [AttachmentOp.perform, wp_bind]
      exact wp_mono (attach_spec hkept input) (fun _ _ hok => hok.kept)
        fun _ _ hfailed => hkept.same hfailed.later hfailed.unchanged
    | detach attachmentId =>
      rw [AttachmentOp.perform, wp_bind]
      exact wp_mono_ok (detach_kept hkept attachmentId) fun _ _ hpost => hpost
    | renew attachmentId leaseExpiresAt =>
      rw [AttachmentOp.perform, wp_bind]
      exact wp_mono_ok (renew_kept hkept attachmentId leaseExpiresAt) fun _ _ hpost => hpost
    | wait => exact hkept.same ⟨rfl, rfl⟩ rfl
  rcases cases_of_wp hwp with ⟨_, _, hpost⟩ | ⟨_, _, hpost⟩ <;> exact hpost

theorem attachments_run (d : Daemon) (ops : List AttachmentOp) :
    AttachmentsKept (Trace.run attachmentStep ⟨d, .empty⟩ ops) := by
  have hstep (x : AttachmentStore) (op : AttachmentOp) (hx : AttachmentsKept x) :
      AttachmentsKept (attachmentStep x op) := attachmentStep_kept hx op
  have hinit : AttachmentsKept ⟨d, .empty⟩ :=
    ⟨fun _ ha => (List.not_mem_nil ha).elim, fun _ _ _ _ => Nat.zero_le _⟩
  exact Trace.invariant_of_step hstep hinit ops

theorem attachKept_iff_of_kept (hkept : AttachmentsKept s) (input : AttachRuntimeInput) :
    AttachKept s input ↔ Answerable s input := by
  have hspec := attach_spec hkept input
  unfold AttachKept
  rcases hcall : attach input s with ⟨result, s'⟩
  cases result with
  | ok a =>
    have hok := wp_of_ok hspec hcall
    dsimp only
    rcases hok.outcome with ⟨hcurrent, hsame⟩ | ⟨hcurrent, hfits, hidle, htook⟩
    · have hlive : a.detachedAt = none := by
        have hselected := List.find?_some hcurrent
        simp only [Bool.and_eq_true] at hselected
        exact Option.isNone_iff_eq_none.mp hselected.2
      have hstored : s'.attachment a.attachmentId = some a := by
        unfold AttachmentStore.attachment
        rw [hsame]
        exact Table.find?_of_mem (List.mem_of_find?_eq_some hcurrent)
      constructor
      · intro hgranted _
        rw [hcurrent]
        exact ⟨hgranted.mode, hgranted.lease⟩
      · intro hanswerable
        have hasked := hanswerable hok.admitted
        rw [hcurrent] at hasked
        exact ⟨hstored, hlive, hasked.1, hasked.2⟩
    · constructor
      · intro hgranted _
        rw [hcurrent]
        exact fun hmode => ⟨fun hbusy => absurd hbusy (hidle hmode), fun _ _ => htook.lease ▸ hgranted.lease hmode⟩
      · intro hanswerable
        have hasked := hanswerable hok.admitted
        rw [hcurrent] at hasked
        exact ⟨htook.stored, htook.undetached, htook.mode, fun hmode =>
          htook.lease ▸ (hasked hmode).2 (hidle hmode) hfits⟩
  | error e =>
    have hfailed := wp_of_error hspec hcall
    constructor
    · rintro ⟨-, hbusy⟩ hadmitted
      have hcurrent := hfailed.vacant hadmitted
      rw [hcurrent]
      refine fun hmode => ⟨fun hheld => (hfailed.busy hadmitted hheld).mp (hbusy hadmitted hcurrent hheld),
        fun hidle hfits => ?_⟩
      exact ((hfailed.unfit hadmitted hmode).elim hidle fun hunfit => hunfit hfits).elim
    · intro hanswerable
      refine ⟨hfailed.unchanged, fun hadmitted hcurrent hheld => ?_⟩
      have hasked := hanswerable hadmitted
      rw [hcurrent] at hasked
      exact (hfailed.busy hadmitted hheld).mpr ((hasked hheld.1).1 hheld)

end Calls

/-- The undetached attachments stay within their bounds in every run, and an attach after any run
does what was asked exactly when it can be answered. -/
theorem attach_kept_iff (d : Daemon) (ops : List AttachmentOp) :
    Bounded (Trace.run attachmentStep ⟨d, .empty⟩ ops) ∧
      ∀ input, AttachKept (Trace.run attachmentStep ⟨d, .empty⟩ ops) input ↔
        Answerable (Trace.run attachmentStep ⟨d, .empty⟩ ops) input :=
  ⟨(attachments_run d ops).bounded, attachKept_iff_of_kept (attachments_run d ops)⟩

def bridgeRuntime : Runtime where
  runtimeId := "runtime-1"
  homeAuthorityId := "home"
  sessionId := "helm"
  generation := 1
  state := .running
  machineId := "ship"
  providerThreadId := none
  effectiveCwd := none
  effectiveHome := none
  createdAt := "1"
  updatedAt := "1"
  endedAt := none
  exitReason := none

def bridge : Daemon := { Daemon.initial (.initial .empty tally tally) with runtimes := Table.empty.put bridgeRuntime }

def lookout (mode : AttachmentMode) : AttachRuntimeInput where
  attachmentId := "attachment-1"
  runtimeId := "runtime-1"
  homeAuthorityId := "home"
  sessionId := "helm"
  generation := 1
  viewerId := "lookout"
  mode := mode

/-- The observer is handed its old attachment, and does not control. -/
theorem observer_keeps_observing :
    ¬ AttachKept (Trace.run attachmentStep ⟨bridge, .empty⟩ [.attach (lookout .observe)]) (lookout .controller) := by
  have hcall : (attach (lookout .controller)
      (Trace.run attachmentStep ⟨bridge, .empty⟩ [.attach (lookout .observe)])).1.toOption.map
        RuntimeAttachment.mode = some .observe := by decide +kernel
  unfold AttachKept
  rcases hresult : attach (lookout .controller)
      (Trace.run attachmentStep ⟨bridge, .empty⟩ [.attach (lookout .observe)]) with ⟨result, s'⟩
  rw [hresult] at hcall
  cases result with
  | error e => cases hcall
  | ok a =>
    intro hgranted
    have hmode := hgranted.mode
    rw [Except.toOption, Option.map_some, hmode] at hcall
    cases hcall

end Wardroom.Storage
