import Wardroom.Storage.Growth
import Wardroom.Conversations.Deduplication

/-! # The same call again

A call that was committed under a deduplication key is made once more after any
other operations. Its recipient, its parent and its key are found as before; its
thread may have been resolved.
-/

namespace Wardroom.Conversations
open Wardroom.Library Wardroom.Domain Wardroom.Storage Prog

/-- The call returns the original and does nothing to the database. -/
def Retried (w : World) (input : CanonicalMessageCommitInput) (original : CommitReceipt) : Prop :=
  ∃ r w', commitMessage input w = (.ok r, w') ∧ r.event = original.event ∧
    r.receipt.cursor = original.receipt.cursor ∧ r.wasDeduplicated = true ∧ w'.db = w.db

/-- The root of the thread that the call replies in. -/
def replyThread (db : Database) (input : CanonicalMessageCommitInput) : Option String :=
  match resolveReplyMetadata db input.channelId input.replyToEventId input.correlation with
  | .ok reply => reply.threadRootEventId
  | .error _ => none

def threadResolved (db : Database) (root : String) : Bool := (db.threadRow root).any fun t => t.state = .resolved

/-- The key of a call, whatever it is. -/
def suppliedKey (input : CanonicalMessageCommitInput) : Option Json :=
  input.correlation.bind fun c => c.member "deduplicationKey"

section Later

variable {db db' : Database} {input : CanonicalMessageCommitInput}

theorem sent_of_grown (h : Grown db db') : ∃ extra, db'.changes.sent = db.changes.sent ++ extra := by
  obtain ⟨rows, hrows⟩ := h.rows
  refine ⟨sentOf rows, ?_⟩
  rw [Journal.sent, ← hrows, List.filterMap_append]
  rfl

theorem messageRow_of_grown (h : Grown db db') {id : String} {r : Change × Json} (hr : db.messageRow id = some r) :
    db'.messageRow id = some r := by
  obtain ⟨extra, hsent⟩ := sent_of_grown h
  unfold Database.messageRow at hr ⊢
  rw [hsent, List.find?_append, hr, Option.some_or]

theorem deduplicationRow_of_grown (h : Grown db db') {key : Json} {r : Change × Json}
    (hr : db.deduplicationRow key = some r) : db'.deduplicationRow key = some r := by
  obtain ⟨extra, hsent⟩ := sent_of_grown h
  unfold Database.deduplicationRow at hr ⊢
  rw [hsent, List.find?_append, hr, Option.some_or]

theorem recipientKnown_of_grown (h : Grown db db') {target : Option MessageTarget}
    (hknown : recipientKnown db target = true) : recipientKnown db' target = true := by
  have hkept {id : String} (hid : (db.currentSession id).isSome = true) : (db'.currentSession id).isSome = true := by
    obtain ⟨s, hs⟩ := Option.isSome_iff_exists.mp hid
    obtain ⟨hmem, hkey⟩ := Table.find?_some hs
    have hhas := h.sessions id ((Table.has_iff _ _).mpr (List.mem_map.mpr ⟨s, hmem, hkey⟩))
    obtain ⟨s', hmem', hkey'⟩ := List.mem_map.mp ((Table.has_iff _ _).mp hhas)
    exact hkey' ▸ Option.isSome_iff_exists.mpr ⟨s', Table.find?_of_mem hmem'⟩
  cases target with
  | none => rfl
  | some t =>
    unfold recipientKnown at hknown ⊢
    rw [Option.all_some] at hknown ⊢
    split_ifs at hknown ⊢ with hdirect
    · cases hid : t.sessionId.or t.sessionID with
      | none =>
        rw [hid] at hknown
        cases hknown
      | some id =>
        rw [hid, Option.any_some, decide_eq_true_eq] at hknown
        rw [Option.any_some, decide_eq_true_eq]
        exact ⟨hknown.1, hkept hknown.2⟩
    · rfl

theorem resolve_of_grown (h : Grown db db') {channelId : Option String} {replyToEventId correlation : Option Json}
    {reply : ReplyMetadata} (hreply : resolveReplyMetadata db channelId replyToEventId correlation = .ok reply) :
    resolveReplyMetadata db' channelId replyToEventId correlation =
      match reply.threadRootEventId.filter (threadResolved db') with
      | some root =>
        .error (.rooms "threadResolved" ("thread " ++ root ++ " is resolved; reopen it before replying"))
      | none => .ok reply := by
  cases resolved_of_ok hreply with
  | root hnone =>
    rw [resolveReplyMetadata, hnone]
    rfl
  | reply id root row parent hrequested hparent hchannel hroot _ =>
    rw [resolveReplyMetadata, hrequested]
    simp only [bind, Except.bind, messageRow_of_grown h hparent, hchannel, ne_eq, not_true_eq_false, if_false, hroot,
      Option.filter_some]
    by_cases hresolved : threadResolved db' root = true
    · rw [if_pos hresolved]
      exact if_pos hresolved
    · rw [if_neg hresolved]
      exact if_neg hresolved

theorem unchanged_of_deduplicated {r : CommitReceipt} (h : Committed input db r db') (hdup : r.wasDeduplicated = true) :
    db' = db := by
  cases h with
  | duplicate => rfl
  | fresh => cases hdup

end Later

section Retry

variable {w w₁ : World} {input : CanonicalMessageCommitInput} {original : CommitReceipt} {key : Json}

theorem idle_of_committed (hrest : w.transactionDepth = 0) (h : commitMessage input w = (.ok original, w₁)) :
    w.importSession = none := by
  by_contra himport
  have hrefused : commitMessage input w = (.error (.sqlite "cannot start a transaction within a transaction"), w) := by
    unfold commitMessage write
    rw [if_neg (by omega), if_pos (Option.isSome_iff_ne_none.mpr himport)]
  cases hrefused.symm.trans h

/-- What a call that returned found, and where a key that is bound is found afterwards. -/
structure Kept (w w₁ : World) (input : CanonicalMessageCommitInput) (key : Json) (original : CommitReceipt) : Prop where
  known : recipientKnown w.db input.target = true
  resolved : ∃ reply, resolveReplyMetadata w.db input.channelId input.replyToEventId input.correlation = .ok reply
  carried : bindable key = true →
    ∃ row, w₁.db.deduplicationRow key = some (row, original.event) ∧ row.cursor = original.receipt.cursor
  grown : Grown w.db w₁.db

theorem sqlEquals_self (hbind : bindable key = true) : sqlEquals key key = true := by
  cases key with
  | str s => exact decide_eq_true rfl
  | num t => exact decide_eq_true rfl
  | _ => cases hbind

theorem deduplicationRow_stored {db : Database} {reply : ReplyMetadata} {id occurredAt : String}
    (hreply : resolveReplyMetadata db input.channelId input.replyToEventId input.correlation = .ok reply)
    (hkey : activeKey input.correlation = some key) (hbind : bindable key = true)
    (hnone : db.deduplicationRow key = none) (row : Change)
    (hrow : row.payload = .messageSent (messageEvent input reply id occurredAt)) {db' : Database}
    (hdb' : db'.changes.rows = db.changes.rows ++ [row]) :
    db'.deduplicationRow key = some (row, messageEvent input reply id occurredAt) := by
  have hsent : db'.changes.sent = db.changes.sent ++ [(row, messageEvent input reply id occurredAt)] := by
    rw [Journal.sent, hdb', List.filterMap_append, Journal.sent]
    simp [Change.sent?, hrow]
  have hcarries : (deduplicationKey (messageEvent input reply id occurredAt)) = some key := by
    have hcarrier := congrArg Carrier.key (ofEvent_messageEvent id occurredAt hreply)
    have hinput := (Option.filter_eq_some_iff.mp hkey).1
    exact hcarrier.trans hinput
  unfold Database.deduplicationRow at hnone ⊢
  rw [hsent, List.find?_append, hnone, Option.none_or, List.find?_cons_of_pos]
  rw [hcarries, Option.any_some]
  exact sqlEquals_self hbind

theorem kept_of_committed (hrest : w.transactionDepth = 0) (hkey : activeKey input.correlation = some key)
    (h : commitMessage input w = (.ok original, w₁)) : Kept w w₁ input key original := by
  have hwp : wp (commitMessage input) (fun r w' => Kept w w' input key r) (fun _ _ => True) w := by
    unfold commitMessage
    rw [wp_write_outermost _ hrest (idle_of_committed hrest h)]
    simp only [wp_bind, wp_database, wp_throwIf, wp_ofExcept]
    refine ⟨fun _ => trivial, fun hknown => ⟨fun reply hreply => ⟨fun prior hprior => ?_,
      fun _ _ => trivial⟩, fun _ _ => trivial⟩⟩
    have hknown : recipientKnown w.db input.target = true := (Bool.not_eq_false _).mp hknown
    have hprior : priorMessage w.db (some key) = .ok prior := by
      rw [← hkey, ← activeKey_resolved hreply]
      exact hprior
    have hfound (hbind : bindable key = true) : w.db.deduplicationRow key = prior :=
      Except.ok.inj ((priorMessage_of_bindable w.db hbind).symm.trans hprior)
    rcases prior with _ | ⟨row, event⟩
    · simp only [wp_bind, wp_randomUUID, wp_now, wp_appendChange]
      refine ⟨fun _ => ?_, fun _ => trivial⟩
      split
      · exact ⟨hknown, ⟨reply, hreply⟩, fun hbind =>
          ⟨_, deduplicationRow_stored hreply hkey hbind (hfound hbind) _ rfl rfl, rfl⟩, Grown.record (.refl _) _ _ _ _⟩
      · trivial
    · exact ⟨hknown, ⟨reply, hreply⟩, fun hbind => ⟨row, hfound hbind, rfl⟩, .refl _⟩
  have hkept := wp_of_ok hwp h
  exact hkept

end Retry

/-- A channel with one message. -/
def haven : World :=
  Trace.run storeStep (.initial .empty tally tally) [
    .insertSession { id := "alice", role := some .operator },
    .insertChannel "harbour" (some "alice"),
    .insertMembership "harbour" "alice" (some .operator),
    .commitMessage ⟨some "harbour", "alice", "ahoy", none, none, none, none, none⟩]

/-- The answer to it. -/
def echo : CanonicalMessageCommitInput where
  channelId := some "harbour"
  senderSessionId := "alice"
  body := "ahoy yourself"
  target := none
  replyToEventId := some (.str "event_")
  correlation := some (.obj [("deduplicationKey", .str "echo-1")])
  deliveryStatuses := none
  attachmentReferences := none

end Wardroom.Conversations
