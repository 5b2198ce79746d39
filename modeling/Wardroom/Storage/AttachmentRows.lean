import Wardroom.Storage.AttachmentLeases

/-! # The rows of the viewers

A call on the attachments moves the clock and rewrites rows, but a row keeps its
name and its viewer, and none is taken away. What an attach returns is a row of
the viewer that asked.
-/

namespace Wardroom.Domain

/-- The row of the viewer in the generation. -/
def RuntimeAttachment.belongs (runtimeId : String) (generation : Nat) (viewerId : String)
    (a : RuntimeAttachment) : Bool :=
  a.of runtimeId generation && a.viewerId = viewerId

end Wardroom.Domain

namespace Wardroom.Storage
open Wardroom.Library Wardroom.Domain Prog

/-- Another version of the row. -/
structure SameRow (a a' : RuntimeAttachment) : Prop where
  attachmentId : a'.attachmentId = a.attachmentId
  runtimeId : a'.runtimeId = a.runtimeId
  generation : a'.generation = a.generation
  viewerId : a'.viewerId = a.viewerId

structure RowsStay (s s' : AttachmentStore) : Prop where
  runtimes : s'.daemon.runtimes = s.daemon.runtimes
  transactionDepth : s'.daemon.store.transactionDepth = s.daemon.store.transactionDepth
  importSession : s'.daemon.store.importSession = s.daemon.store.importSession
  rows : ∀ a ∈ s.attachments.rows, ∃ a' ∈ s'.attachments.rows, SameRow a a'

/-- A transaction can begin. -/
def AttachmentStore.Idle (s : AttachmentStore) : Prop :=
  s.daemon.store.transactionDepth = 0 ∧ s.daemon.store.importSession = none

section Rows

variable {a a' : RuntimeAttachment} {s s' : AttachmentStore} {input : AttachRuntimeInput}
  {runtimeId viewerId attachmentId : String} {generation : Nat}

theorem belongs_iff : RuntimeAttachment.belongs runtimeId generation viewerId a = true ↔
    a.of runtimeId generation = true ∧ a.viewerId = viewerId := by
  simp [RuntimeAttachment.belongs]

theorem SameRow.refl (a : RuntimeAttachment) : SameRow a a := ⟨rfl, rfl, rfl, rfl⟩

theorem SameRow.trans {a'' : RuntimeAttachment} (h : SameRow a a') (h' : SameRow a' a'') : SameRow a a'' :=
  ⟨h'.attachmentId.trans h.attachmentId, h'.runtimeId.trans h.runtimeId, h'.generation.trans h.generation,
    h'.viewerId.trans h.viewerId⟩

theorem SameRow.belongs (h : SameRow a a') :
    RuntimeAttachment.belongs runtimeId generation viewerId a' = RuntimeAttachment.belongs runtimeId generation viewerId a := by
  simp [RuntimeAttachment.belongs, RuntimeAttachment.of, h.runtimeId, h.generation, h.viewerId]

theorem Fades.sameRow (h : Fades a a') : SameRow a a' := ⟨h.attachmentId, h.runtimeId, h.generation, h.viewerId⟩

theorem Indexed.belonging {t : Table RuntimeAttachment.attachmentId} (h : Indexed t) (ha : a ∈ t.rows)
    (ha' : a' ∈ t.rows) (hof : a.belongs runtimeId generation viewerId = true)
    (hof' : a'.belongs runtimeId generation viewerId = true) : a = a' := by
  obtain ⟨hof, hviewer⟩ := belongs_iff.mp hof
  obtain ⟨hof', hviewer'⟩ := belongs_iff.mp hof'
  exact Table.eq_of_key ha ha' (h.viewer ha ha' hof hof' (hviewer.trans hviewer'.symm))

theorem rowsStay_of_same (hdaemon : s'.daemon = s.daemon) (hrows : s'.attachments = s.attachments) : RowsStay s s' := by
  refine ⟨by rw [hdaemon], by rw [hdaemon], by rw [hdaemon], fun a ha => ⟨a, ?_, .refl a⟩⟩
  rw [hrows]
  exact ha

theorem rowsStay_of_map {g : RuntimeAttachment → RuntimeAttachment} (hdaemon : s'.daemon = s.daemon)
    (hg : ∀ a, SameRow a (g a)) (hrows : s'.attachments.rows = s.attachments.rows.map g) : RowsStay s s' := by
  refine ⟨by rw [hdaemon], by rw [hdaemon], by rw [hdaemon], fun a ha => ⟨g a, ?_, hg a⟩⟩
  rw [hrows]
  exact List.mem_map_of_mem ha

instance : IsPreorder AttachmentStore RowsStay where
  refl _ := rowsStay_of_same rfl rfl
  trans s s' s'' h h' := by
    refine ⟨h'.runtimes.trans h.runtimes, h'.transactionDepth.trans h.transactionDepth,
      h'.importSession.trans h.importSession, fun a ha => ?_⟩
    obtain ⟨a', ha', hsame⟩ := h.rows a ha
    obtain ⟨a'', ha'', hsame'⟩ := h'.rows a' ha'
    exact ⟨a'', ha'', hsame.trans hsame'⟩

theorem RowsStay.idle (h : RowsStay s s') (hidle : s.Idle) : s'.Idle :=
  ⟨h.transactionDepth.trans hidle.1, h.importSession.trans hidle.2⟩

theorem RowsStay.belonging (h : RowsStay s s')
    (hrow : ∃ a ∈ s.attachments.rows, a.attachmentId = attachmentId ∧ a.belongs runtimeId generation viewerId = true) :
    ∃ a ∈ s'.attachments.rows, a.attachmentId = attachmentId ∧ a.belongs runtimeId generation viewerId = true := by
  obtain ⟨a, ha, hid, hof⟩ := hrow
  obtain ⟨a', ha', hsame⟩ := h.rows a ha
  exact ⟨a', ha', hsame.attachmentId.trans hid, hsame.belongs.trans hof⟩

theorem attachmentNow_stays : Leads RowsStay attachmentNow := fun _ => ⟨rfl, rfl, rfl, fun a ha => ⟨a, ha, .refl a⟩⟩

theorem modify_stays {f : AttachmentStore → AttachmentStore} (h : ∀ s, RowsStay s (f s)) :
    Leads RowsStay (modify f : AttachmentAction Unit) := h

theorem attachmentTransaction_stays {α : Type} {body : AttachmentAction α} (h : Leads RowsStay body) :
    Leads RowsStay (attachmentTransaction body) := by
  refine leads_of_wp fun s => ?_
  rw [wp_attachmentTransaction]
  refine ⟨fun _ => refl_of RowsStay s, fun _ => wp_mono (h.wp s) (fun _ _ hstay => hstay) fun _ s' hstay => ?_⟩
  exact ⟨hstay.runtimes, hstay.transactionDepth, hstay.importSession, fun a ha => ⟨a, ha, .refl a⟩⟩

theorem detachRow_stays (attachmentId : String) : Leads RowsStay (detachRow attachmentId) := by
  refine leads_bind attachmentNow_stays fun at' => leads_bind attachmentNow_stays fun seenAt => modify_stays fun s => ?_
  exact rowsStay_of_map (g := fun a => if (decide (a.attachmentId = attachmentId) && a.live) = true then
      RuntimeAttachment.detached at' seenAt a else a) rfl
    (fun a => (fades_ite (p := fun a => decide (a.attachmentId = attachmentId) && a.live)
      (detached_fades at' seenAt) a).sameRow) rfl

theorem makeRoom_stays (runtime : Runtime) (input : AttachRuntimeInput) : Leads RowsStay (makeRoom runtime input) := by
  refine leads_bind leads_read fun s => ?_
  cases input.mode with
  | observe => exact leads_ite (leads_fail _) (leads_pure _)
  | controller =>
    cases s.controllers input.runtimeId input.generation with
    | nil => exact leads_pure _
    | cons holder _ =>
      refine leads_ite (leads_bind attachmentNow_stays fun now => ?_) ?_
      · exact leads_ite (detachRow_stays _) (leads_pure _)
      · exact leads_ite (detachRow_stays _) (leads_pure _)

theorem reattach_stays (earlier : RuntimeAttachment) (input : AttachRuntimeInput) :
    Leads RowsStay (reattach earlier input) := by
  refine leads_of_wp fun s => ?_
  unfold reattach
  simp only [wp_bind, wp_attachmentNow, wp_read, wp_ite, wp_fail, wp_setAttachments, wp_readBack]
  have hlater : RowsStay s ((s.later 1).later 1) := ⟨rfl, rfl, rfl, fun a ha => ⟨a, ha, .refl a⟩⟩
  have hupdated : RowsStay s { (s.later 1).later 1 with
      attachments := s.attachments.update (fun a => a.attachmentId = earlier.attachmentId)
        (RuntimeAttachment.reattached input s.time (s.later 1).time) fun _ => rfl } := by
    refine trans_of RowsStay hlater ?_
    refine rowsStay_of_map (g := fun a => if decide (a.attachmentId = earlier.attachmentId) = true then
      RuntimeAttachment.reattached input s.time (s.later 1).time a else a) rfl (fun a => ?_) rfl
    split_ifs
    · exact ⟨rfl, rfl, rfl, rfl⟩
    · exact .refl a
  exact ⟨fun _ => hlater, fun _ => ⟨fun _ => hlater, fun _ => ⟨fun _ => hlater, fun _ =>
    ⟨fun _ => hupdated, fun _ => hupdated⟩⟩⟩⟩

theorem insertAttachment_stays (input : AttachRuntimeInput) : Leads RowsStay (insertAttachment input) := by
  refine leads_of_wp fun s => ?_
  have hlater : RowsStay s ((s.later 1).later 1) := ⟨rfl, rfl, rfl, fun a ha => ⟨a, ha, .refl a⟩⟩
  unfold insertAttachment
  simp only [wp_bind, wp_attachmentNow, wp_read, wp_ite, wp_fail]
  refine ⟨fun _ => hlater, fun _ => ⟨fun _ => hlater, fun _ => ?_⟩⟩
  cases hinsert : ((s.later 1).later 1).attachments.insert? (RuntimeAttachment.fresh input s.time (s.later 1).time) with
  | none => exact hlater
  | some t =>
    obtain ⟨-, hrows⟩ := Table.insert?_eq_some.mp hinsert
    have hinserted : RowsStay s { (s.later 1).later 1 with attachments := t } := by
      refine ⟨rfl, rfl, rfl, fun a ha => ⟨a, ?_, .refl a⟩⟩
      change a ∈ t.rows
      rw [hrows]
      exact List.mem_append_left _ ha
    dsimp only
    rw [wp_bind, wp_setAttachments, wp_readBack]
    exact ⟨fun _ => hinserted, fun _ => hinserted⟩

theorem attach_stays (input : AttachRuntimeInput) : Leads RowsStay (attach input) := by
  refine leads_bind (leads_ofExcept _) fun _ => leads_ite (leads_fail _) (attachmentTransaction_stays ?_)
  refine leads_bind leads_read fun s => leads_bind (leads_ofExcept _) fun runtime => ?_
  cases s.current input with
  | some current => exact leads_pure _
  | none =>
    refine leads_bind (makeRoom_stays runtime input) fun _ => ?_
    cases s.earlier input with
    | some earlier => exact reattach_stays earlier input
    | none => exact insertAttachment_stays input

theorem detach_stays (attachmentId : String) : Leads RowsStay (detach attachmentId) := by
  refine attachmentTransaction_stays (leads_bind leads_read fun s => ?_)
  cases s.attachment attachmentId with
  | none => exact leads_fail _
  | some attachment =>
    refine leads_ite (leads_bind (detachRow_stays attachmentId) fun _ => leads_bind leads_read fun s' => ?_)
      (leads_bind leads_read fun s' => ?_)
    · cases s'.attachment attachmentId with
      | none => exact leads_fail _
      | some attachment => exact leads_pure _
    · cases s'.attachment attachmentId with
      | none => exact leads_fail _
      | some attachment => exact leads_pure _

theorem earlier_belongs {e : RuntimeAttachment} (h : s.earlier input = some e) :
    e.belongs input.runtimeId input.generation input.viewerId = true := by
  obtain ⟨-, hselected⟩ := Table.mem_select.mp ((List.mem_insertionSort _).mp (List.mem_of_head? h))
  simp only [Bool.and_eq_true] at hselected
  exact Bool.and_eq_true_iff.mpr hselected.1

theorem current_belongs (h : s.current input = some a) :
    a.belongs input.runtimeId input.generation input.viewerId = true ∧ a.live = true := by
  have hselected := List.find?_some h
  simp only [Bool.and_eq_true] at hselected
  exact ⟨Bool.and_eq_true_iff.mpr hselected.1, hselected.2⟩

theorem attach_belongs (s : AttachmentStore) (input : AttachRuntimeInput) :
    wp (attach input) (fun a _ => a.belongs input.runtimeId input.generation input.viewerId = true)
      (fun _ _ => True) s := by
  unfold attach
  simp only [wp_bind, wp_ofExcept, wp_ite, wp_fail]
  refine ⟨fun _ _ => ⟨fun _ => trivial, fun _ => ?_⟩, fun _ _ => trivial⟩
  rw [wp_attachmentTransaction]
  refine ⟨fun _ => trivial, fun _ => ?_⟩
  simp only [wp_bind, wp_read, wp_ofExcept]
  refine ⟨fun runtime _ => ?_, fun _ _ => trivial⟩
  cases hcurrent : s.current input with
  | some a => exact (current_belongs hcurrent).1
  | none =>
    dsimp only
    rw [wp_bind]
    refine wp_of_cases (fun _ s₁ _ => ?_) fun _ _ _ => trivial
    cases hearlier : s.earlier input with
    | some e =>
      unfold reattach
      simp only [wp_bind, wp_attachmentNow, wp_read, wp_ite, wp_fail, wp_setAttachments, wp_readBack]
      have hrow := earlier_belongs hearlier
      exact ⟨fun _ => trivial, fun _ => ⟨fun _ => trivial, fun _ => ⟨fun _ => trivial, fun _ =>
        ⟨fun _ => trivial, fun _ => hrow⟩⟩⟩⟩
    | none =>
      unfold insertAttachment
      simp only [wp_bind, wp_attachmentNow, wp_read, wp_ite, wp_fail]
      refine ⟨fun _ => trivial, fun _ => ⟨fun _ => trivial, fun _ => ?_⟩⟩
      cases ((s₁.later 1).later 1).attachments.insert? (RuntimeAttachment.fresh input s₁.time (s₁.later 1).time) with
      | none => trivial
      | some t =>
        dsimp only
        rw [wp_bind, wp_setAttachments, wp_readBack]
        exact ⟨fun _ => trivial, fun _ => belongs_iff.mpr ⟨of_iff.mpr ⟨rfl, rfl⟩, rfl⟩⟩

/-- The attachment that a viewer gets is stored, its own, and not detached. -/
structure Obtained (s s' : AttachmentStore) (input : AttachRuntimeInput) (a : RuntimeAttachment) : Prop where
  kept : AttachmentsKept s'
  stays : RowsStay s s'
  idle : s.Idle
  mem : a ∈ s'.attachments.rows
  belongs : a.belongs input.runtimeId input.generation input.viewerId = true
  live : a.live = true
  mode : a ∈ s.attachments.rows ∨ a.mode = input.mode

theorem attach_obtained (hkept : AttachmentsKept s) (input : AttachRuntimeInput) :
    wp (attach input) (fun a s' => Obtained s s' input a)
      (fun _ s' => AttachmentsKept s' ∧ RowsStay s s' ∧ s'.attachments = s.attachments) s := by
  have hall := wp_and (attach_spec hkept input) (wp_and (attach_belongs s input) ((attach_stays input).wp s))
  refine wp_mono hall (fun a s' hok => ?_) fun e s' hfailed => ?_
  · obtain ⟨hattached, hbelongs, hstays⟩ := hok
    rcases hattached.outcome with ⟨hcurrent, hsame⟩ | ⟨-, -, -, htook⟩
    · have hmem := List.mem_of_find?_eq_some hcurrent
      exact ⟨hattached.kept, hstays, hattached.admitted.idle, hsame ▸ hmem, hbelongs, (current_belongs hcurrent).2,
        .inl hmem⟩
    · exact ⟨hattached.kept, hstays, hattached.admitted.idle, (Table.find?_some htook.stored).1, hbelongs,
        Option.isNone_iff_eq_none.mpr htook.undetached, .inr htook.mode⟩
  · obtain ⟨hfailed, -, hstays⟩ := hfailed
    exact ⟨hkept.same hfailed.later hfailed.unchanged, hstays, hfailed.unchanged⟩

/-- The row is detached, and nothing else comes to life. -/
structure Dead (s s' : AttachmentStore) (attachmentId : String) (a : RuntimeAttachment) : Prop where
  stored : s'.attachment attachmentId = some a
  named : a.attachmentId = attachmentId
  dead : ∀ b ∈ s'.attachments.rows, b.attachmentId = attachmentId → b.live = false
  live : ∀ b ∈ s'.attachments.rows, b.live = true → b ∈ s.attachments.rows

theorem detachRow_dead (hrow : a ∈ s.attachments.rows) (hlive : a.live = true) :
    wp (detachRow a.attachmentId) (fun _ s' => ∃ a', Dead s s' a.attachmentId a') (fun _ _ => False) s := by
  unfold detachRow
  simp only [wp_bind, wp_attachmentNow, wp_modify]
  refine ⟨RuntimeAttachment.detached s.time (s.later 1).time a, ?_, rfl, fun b hb hid => ?_, fun b hb hb' => ?_⟩
  · refine (Table.find?_rewrite (t := s.attachments) (p := fun a' => a'.attachmentId = a.attachmentId && a'.live)
      (f := RuntimeAttachment.detached s.time (s.later 1).time) rfl (fun _ => rfl) a.attachmentId).trans ?_
    rw [Table.find?_of_mem hrow, Option.map_some, if_pos (by simp [hlive])]
  · obtain ⟨b₀, -, rfl⟩ := List.mem_map.mp hb
    split_ifs at hid ⊢ with hselected
    · rfl
    · simpa [hid] using hselected
  · obtain ⟨b₀, hb₀, rfl⟩ := List.mem_map.mp hb
    split_ifs at hb' ⊢
    · cases hb'
    · exact hb₀

theorem detach_dead (hidle : s.Idle) (hrow : a ∈ s.attachments.rows) :
    wp (detach a.attachmentId) (fun a' s' => Dead s s' a.attachmentId a') (fun _ _ => False) s := by
  have hfound : s.attachment a.attachmentId = some a := Table.find?_of_mem hrow
  unfold detach
  rw [wp_attachmentTransaction]
  refine ⟨fun hopen => ?_, fun _ => ?_⟩
  · rw [hidle.1, hidle.2] at hopen
    simp at hopen
  · rw [wp_bind, wp_read, hfound]
    dsimp only
    cases hlive : a.live with
    | false =>
      simp only [Bool.false_eq_true, if_false, wp_bind, wp_pure, wp_read, hfound]
      refine ⟨hfound, rfl, fun b hb hid => ?_, fun b hb _ => hb⟩
      rw [Table.eq_of_key hb hrow hid]
      exact hlive
    | true =>
      rw [if_pos rfl]
      refine wp_seq (wp_mono (detachRow_dead hrow hlive) (fun _ _ hdead => hdead) fun _ _ hbad => hbad.elim)
        fun _ s' hdead => ?_
      obtain ⟨a', hdead⟩ := hdead
      rw [wp_bind, wp_read, hdead.stored]
      exact hdead

/-- The attachment that is named is detached. -/
structure GivenUp (s s' : AttachmentStore) (attachmentId : String) (a : RuntimeAttachment) : Prop where
  kept : AttachmentsKept s'
  stays : RowsStay s s'
  dead : Dead s s' attachmentId a

theorem detach_givenUp (hkept : AttachmentsKept s) (hidle : s.Idle) (hrow : a ∈ s.attachments.rows) :
    wp (detach a.attachmentId) (fun a' s' => GivenUp s s' a.attachmentId a') (fun _ _ => False) s := by
  have hall := wp_and (detach_dead hidle hrow)
    (wp_and (detach_kept hkept a.attachmentId) ((detach_stays a.attachmentId).wp s))
  exact wp_mono hall (fun a' s' hok => ⟨hok.2.1, hok.2.2, hok.1⟩) fun e s' hbad => hbad.1.elim

end Rows
end Wardroom.Storage
