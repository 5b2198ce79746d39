import Wardroom.Domain.Cursors
import Wardroom.Storage.ControlPages

/-! # What the readers of controls return

A control always names its channel, in every state a store can reach; for a
member the page of a channel is the same whoever else is asked for, and the
same as the scan of the channel alone.
-/

namespace Wardroom.Feeds
open Wardroom.Library Wardroom.Domain Wardroom.Storage Prog

def unplacedControls (db : Database) : List Change :=
  db.changes.rows.filter fun c => controlPayload c.payload && c.channelId = none

theorem unplacedControls_record {db : Database} {channelId : Option String} {payload : Payload}
    (h : controlPayload payload = false ∨ channelId ≠ none) (at' : String) (ordinal : Option Int) :
    unplacedControls (db.record channelId payload at' ordinal) = unplacedControls db := by
  have hdrop : (controlPayload payload && decide (channelId = none)) = false := by
    rcases h with h | h
    · rw [h, Bool.false_and]
    · rw [decide_eq_false h, Bool.and_false]
  rw [unplacedControls, Database.record_changes, Journal.rows_append, List.filter_append,
    List.filter_cons_of_neg (by simpa using hdrop), List.filter_nil, List.append_nil, unplacedControls]

theorem apart_unplacedControls : Apart unplacedControls where
  tables _ _ _ _ _ _ := rfl
  rows _ hpayload _ _ _ _ := unplacedControls_record (.inl hpayload) _ _

theorem commitControl_unplaced (input : ControlInput) : Leaves unplacedControls (commitControl input) := by
  refine leaves_write (leaves_bind leaves_database fun db => ?_)
  cases db.controlRow input.channelId input.senderSessionId input.requestId with
  | some prior => exact leaves_pure _
  | none =>
    refine leaves_bind leaves_randomUUID fun _ => leaves_bind leaves_now fun _ => leaves_bind ?_ fun _ => leaves_pure _
    refine leaves_bind leaves_now fun _ => leaves_bind leaves_database fun _ => leaves_bind (leaves_references _) fun _ =>
      leaves_bind (leaves_modifyDatabase fun db => ?_) fun _ => leaves_bind leaves_database fun _ =>
        leaves_bind (leaves_notify _) fun _ => leaves_pure _
    exact unplacedControls_record (.inr (Option.some_ne_none _)) _ _

/-- No control is outside all channels, in a store at rest and in the one a rollback restores. -/
def ControlsPlaced (w : World) : Prop :=
  w.transactionDepth = 0 ∧ Durable (fun db => unplacedControls db = []) w

theorem storeStep_placed (w : World) (op : StoreOp) (h : ControlsPlaced w) : ControlsPlaced (storeStep w op) := by
  obtain ⟨hrest, hI⟩ := h
  refine ⟨(storeStep_transition hrest op).transactionDepth.trans hrest, ?_⟩
  have hleft (hleaves : unplacedControls (storeStep w op).db = unplacedControls w.db) :
      Durable (fun db => unplacedControls db = []) (storeStep w op) := by
    refine (storeStep_transition hrest op).reached.durable (fun db' hdb heffect => ?_) (fun _ _ hdb => hdb) hI
    rw [heffect.2, hleaves, hdb]
  cases hop : touches op with
  | false => exact apart_unplacedControls.storeStep hrest hop hI
  | true =>
    cases op with
    | grantFederatedChannelAdmission channelId peer actor =>
      exact hleft (grantFederatedChannelAdmission_leaves channelId peer actor (fun _ _ => rfl) w)
    | revokeFederatedChannelAdmission channelId peer actor =>
      exact hleft (revokeFederatedChannelAdmission_leaves channelId peer actor (fun _ _ => rfl) w)
    | commitControl input => exact hleft (commitControl_unplaced input w)
    | _ => cases hop

theorem run_placed (clock uuids : Nat → String) (ops : List StoreOp) :
    unplacedControls (Trace.run storeStep (.initial .empty clock uuids) ops).db = [] := by
  have hstart : ControlsPlaced (.initial .empty clock uuids) :=
    ⟨rfl, rfl, fun session hs => by cases hs⟩
  exact (Trace.invariant_of_step (storeStep_placed) hstart ops).2.1

section Page

variable {db : Database} {sessionId channelId : String}

theorem ordered_controls (db : Database) (channelId : String) : Paging.Ordered Change.cursor
    (db.changes.rows.filter fun c => controlPayload c.payload && c.channelId = some channelId) :=
  Paging.ordered_filter db.changes.ordered _

/-- The page of a channel: the oldest of its controls after the cursor. -/
def pageOf (db : Database) (channelId : String) (limit n : Nat) : ControlPage :=
  let controls := (db.controlsAfter channelId n).take limit
  ⟨controls.map Change.payload, Paging.reached Change.cursor controls n, limit < (db.controlsAfter channelId n).length⟩

theorem fold_other {limit : Nat} {rows : List ControlRow} (h : ∀ row ∈ rows, row.channelId ≠ channelId)
    (pages : ControlPages) : (rows.foldl (foldControlRow limit) pages).controls channelId = pages.controls channelId := by
  induction rows generalizing pages with
  | nil => rfl
  | cons row rows ih =>
    have hne := h row List.mem_cons_self
    rw [List.foldl_cons, ih fun r hr => h r (List.mem_cons_of_mem _ hr)]
    unfold foldControlRow
    split_ifs
    · exact Function.update_of_ne hne.symm _ _
    · cases row.member with
      | none => exact Function.update_of_ne hne.symm _ _
      | some _ =>
        cases row.control with
        | none => rfl
        | some _ => exact Function.update_of_ne hne.symm _ _

theorem fold_member {limit count : Nat} (m : Membership) (controls : List Change) {pages : ControlPages}
    {page : ControlPage} (hpage : pages.controls channelId = some page) :
    ((controls.map fun control => (⟨channelId, true, some m, some control, count⟩ : ControlRow)).foldl
      (foldControlRow limit) pages).controls channelId =
      some ⟨page.events ++ controls.map Change.payload, Paging.reached Change.cursor controls page.cursor,
        if controls = [] then page.hasMore else limit < count⟩ := by
  induction controls generalizing pages page with
  | nil => simpa [Paging.reached] using hpage
  | cons control controls ih =>
    have hnext : (foldControlRow limit pages ⟨channelId, true, some m, some control, count⟩).controls channelId =
        some ⟨page.events ++ [control.payload], control.cursor, limit < count⟩ := by
      rw [foldControlRow, if_neg Bool.noConfusion]
      simp only [hpage, Function.update_self, Option.map_some, Option.getD_some]
    rw [List.map_cons, List.foldl_cons, ih hnext, Paging.reached_cons, if_neg (List.cons_ne_nil _ _), ite_self,
      List.map_cons, List.append_assoc, List.singleton_append]

theorem fold_block {limit n : Nat} (hlimit : 0 < limit) (hchannel : db.channels.has channelId = true)
    {m : Membership} (hmember : db.activeRows channelId sessionId = [m]) {pages : ControlPages}
    (hblank : pages.controls channelId = some ⟨[], n, false⟩) :
    ((db.controlRows sessionId limit (channelId, n)).foldl (foldControlRow limit) pages).controls channelId =
      some (pageOf db channelId limit n) := by
  have hrows : db.controlRows sessionId limit (channelId, n) =
      (outer ((db.controlsAfter channelId n).take limit)).map fun control =>
        ⟨channelId, true, some m, control, (db.controlsAfter channelId n).length⟩ := by
    rw [Database.controlRows]
    simp only [hmember, hchannel, outer, List.isEmpty_cons, Bool.false_eq_true, if_false, List.map_cons, List.map_nil]
    exact (List.map_eq_flatMap ..).symm
  cases hfound : (db.controlsAfter channelId n).take limit with
  | nil =>
    have hnil : db.controlsAfter channelId n = [] := by
      rcases List.take_eq_nil_iff.mp hfound with h | h
      · omega
      · exact h
    rw [hrows, hfound]
    simp [outer, foldControlRow, hblank, pageOf, hnil, Paging.reached]
  | cons control controls =>
    have hblock := @fold_member channelId limit (db.controlsAfter channelId n).length m
      (control :: controls) _ _ hblank
    rw [hrows, hfound, outer, if_neg (by simp), List.map_map]
    rw [if_neg (List.cons_ne_nil _ _), List.nil_append, ← hfound] at hblock
    rw [← hfound]
    exact hblock

theorem channelId_of_row {limit : Nat} {request : String × Nat} {row : ControlRow}
    (h : row ∈ db.controlRows sessionId limit request) : row.channelId = request.1 := by
  obtain ⟨control, -, hrow⟩ := List.mem_flatMap.mp h
  obtain ⟨member, -, rfl⟩ := List.mem_map.mp hrow
  rfl

end Page

section Call

/-- The first request that names a channel, under its id without the blanks around it. -/
def firstRequest (requests : List ControlRequest) (channelId : String) : Option ControlRequest :=
  requests.find? fun r => Text.trim r.channelId = channelId

theorem uniqueRequests_from (requests : List ControlRequest) {unique : List (String × String)}
    (hunique : (unique.map Prod.fst).Nodup) :
    let found := requests.foldl (fun unique request =>
      let channelId := Text.trim request.channelId
      if channelId ≠ "" ∧ ∀ u ∈ unique, u.1 ≠ channelId then
        unique ++ [(channelId, request.afterCursor.getD "0")]
      else unique) unique
    (found.map Prod.fst).Nodup ∧ ∀ channelId, channelId ≠ "" →
      found.find? (fun u => u.1 = channelId) = (unique.find? fun u => u.1 = channelId).or
        ((firstRequest requests channelId).map fun r => (channelId, r.afterCursor.getD "0")) := by
  induction requests generalizing unique with
  | nil => exact ⟨hunique, fun channelId _ => by simp [firstRequest]⟩
  | cons request requests ih =>
    rw [List.foldl_cons]
    dsimp only
    split_ifs with hnew
    · obtain ⟨hnamed, hfresh⟩ := hnew
      have hmore : ((unique ++ [(Text.trim request.channelId, request.afterCursor.getD "0")]).map Prod.fst).Nodup := by
        rw [List.map_append, List.nodup_append]
        refine ⟨hunique, List.nodup_singleton _, ?_⟩
        rintro a ha b hb rfl
        obtain ⟨u, hu, rfl⟩ := List.mem_map.mp ha
        exact hfresh u hu (List.mem_singleton.mp hb)
      obtain ⟨hnodup, hfind⟩ := ih hmore
      refine ⟨hnodup, fun channelId hchannel => ?_⟩
      rw [hfind channelId hchannel, List.find?_append, firstRequest, firstRequest, List.find?_cons]
      by_cases hsame : Text.trim request.channelId = channelId
      · simp [hsame]
      · simp [hsame]
    · obtain ⟨hnodup, hfind⟩ := ih hunique
      refine ⟨hnodup, fun channelId hchannel => ?_⟩
      rw [hfind channelId hchannel, firstRequest, firstRequest, List.find?_cons]
      by_cases hsame : Text.trim request.channelId = channelId
      · -- the channel was named before, so its first request is among those kept
        obtain ⟨u, hu, hname⟩ : ∃ u ∈ unique, u.1 = channelId := by
          by_contra hnone
          exact hnew ⟨hsame ▸ hchannel, fun u hu he => hnone ⟨u, hu, he.trans hsame⟩⟩
        obtain ⟨v, hv⟩ : ∃ v, unique.find? (fun u => u.1 = channelId) = some v :=
          Option.isSome_iff_exists.mp (List.find?_isSome.mpr ⟨u, hu, by simpa using hname⟩)
        rw [hv, Option.some_or, Option.some_or]
      · simp [hsame]

theorem uniqueRequests_nodup (requests : List ControlRequest) : ((uniqueRequests requests).map Prod.fst).Nodup :=
  (@uniqueRequests_from requests [] List.nodup_nil).1

theorem uniqueRequests_find (requests : List ControlRequest) {channelId : String} (h : channelId ≠ "") :
    (uniqueRequests requests).find? (fun u => u.1 = channelId) =
      (firstRequest requests channelId).map fun r => (channelId, r.afterCursor.getD "0") :=
  (@uniqueRequests_from requests [] List.nodup_nil).2 channelId h

/-- The call asks for a channel from a cursor, for no more than a hundred channels, and from no
cursor that is too large to bind. -/
structure Asks (requests : List ControlRequest) (channelId : String) (n : Nat) : Prop where
  named : channelId ≠ ""
  first : ∃ request, firstRequest requests channelId = some request ∧
    CursorCodec.decode (request.afterCursor.getD "0") = some n
  few : (uniqueRequests requests).length ≤ 100
  bound : ∀ q ∈ validRequests (uniqueRequests requests), q.2 < 2 ^ 63

variable {db : Database} {sessionId channelId : String} {requests : List ControlRequest} {n : Nat}

theorem mem_unique (h : Asks requests channelId n) :
    ∃ cursor, (channelId, cursor) ∈ uniqueRequests requests ∧ CursorCodec.decode cursor = some n := by
  obtain ⟨request, hfirst, hcursor⟩ := h.first
  have hfind := uniqueRequests_find requests h.named
  rw [hfirst, Option.map_some] at hfind
  exact ⟨_, List.mem_of_find?_eq_some hfind, hcursor⟩

theorem split_valid (h : Asks requests channelId n) : ∃ before later,
    validRequests (uniqueRequests requests) = before ++ (channelId, n) :: later ∧
      (∀ q ∈ before, q.1 ≠ channelId) ∧ ∀ q ∈ later, q.1 ≠ channelId := by
  obtain ⟨cursor, hmem, hcursor⟩ := mem_unique h
  have hvalid : (channelId, n) ∈ validRequests (uniqueRequests requests) :=
    List.mem_filterMap.mpr ⟨_, hmem, by rw [hcursor]; rfl⟩
  have hnodup : (validRequests (uniqueRequests requests)).Pairwise fun p q => p.1 ≠ q.1 := by
    refine List.Pairwise.filterMap _ (fun u v hne p hp q hq => ?_) (List.pairwise_map.mp (uniqueRequests_nodup requests))
    obtain ⟨_, _, rfl⟩ := Option.map_eq_some_iff.mp hp
    obtain ⟨_, _, rfl⟩ := Option.map_eq_some_iff.mp hq
    exact hne
  obtain ⟨before, later, hsplit⟩ := List.append_of_mem hvalid
  rw [hsplit, List.pairwise_append, List.pairwise_cons] at hnodup
  obtain ⟨-, ⟨hlater, -⟩, hbefore⟩ := hnodup
  exact ⟨before, later, hsplit, fun q hq => hbefore q hq _ List.mem_cons_self, fun q hq => (hlater q hq).symm⟩

theorem channelControlPages_page (h : Asks requests channelId n) (hsession : Text.blank sessionId = false)
    (hchannel : db.channels.has channelId = true) {m : Membership} (hmember : db.activeRows channelId sessionId = [m])
    {limit : Nat} (hlow : 1 ≤ limit) (hhigh : limit ≤ 500) :
    ∃ pages, db.channelControlPages requests sessionId limit = .ok pages ∧
      pages.controls channelId = some (pageOf db channelId limit n) := by
  obtain ⟨cursor, hmem, -⟩ := mem_unique h
  obtain ⟨before, later, hsplit, hbefore, hlater⟩ := split_valid h
  have hasked : ¬(uniqueRequests requests).isEmpty = true := by
    rw [List.isEmpty_iff]
    exact List.ne_nil_of_mem hmem
  have hlimit : ¬((limit : Int) < 1 ∨ 500 < (limit : Int)) := by omega
  have hblank : (blankPages (uniqueRequests requests)).controls channelId = some ⟨[], n, false⟩ := by
    have hfind : before.find? (fun q => q.1 = channelId) = none :=
      List.find?_eq_none.mpr fun q hq => by simpa using hbefore q hq
    change Option.map _ ((validRequests (uniqueRequests requests)).find? fun q => q.1 = channelId) = _
    rw [hsplit, List.find?_append, hfind, Option.none_or, List.find?_cons]
    simp
  have houter {requests' : List (String × Nat)} (hother : ∀ q ∈ requests', q.1 ≠ channelId) :
      ∀ row ∈ requests'.flatMap (db.controlRows sessionId limit), row.channelId ≠ channelId := by
    intro row hrow
    obtain ⟨q, hq, hmem⟩ := List.mem_flatMap.mp hrow
    exact channelId_of_row hmem ▸ hother q hq
  have hanswer : db.channelControlPages requests sessionId limit =
      .ok (((validRequests (uniqueRequests requests)).flatMap (db.controlRows sessionId limit)).foldl
        (foldControlRow limit) (blankPages (uniqueRequests requests))) := by
    rw [Database.channelControlPages]
    dsimp only
    rw [if_neg hasked, if_neg (Nat.not_lt.mpr h.few), if_neg (Bool.eq_false_iff.mp hsession), if_neg hlimit,
      bindCursor_all h.bound]
    rfl
  refine ⟨_, hanswer, ?_⟩
  rw [hsplit, List.flatMap_append, List.flatMap_cons, List.foldl_append, List.foldl_append,
    fold_other (houter hlater)]
  exact fold_block hlow hchannel hmember ((fold_other (houter hbefore) _).trans hblank)

theorem getControls_page (hplaced : unplacedControls db = []) (hmember : db.isActiveMember channelId sessionId = true)
    (hnamed : channelId ≠ "") {limit : Nat} (hlow : 1 ≤ limit) (hhigh : limit ≤ 500) {n : Nat} (hbound : n < 2 ^ 63) :
    db.getControls sessionId channelId (some (toString n)) (some limit) = .ok (pageOf db channelId limit n) := by
  have hgiven : Text.given (some channelId) = true := decide_eq_true hnamed
  have hscan : ((db.changesAfter n (some channelId)).filter fun c => controlPayload c.payload) =
      db.controlsAfter channelId n := by
    rw [Database.changesAfter, Database.controlsAfter, Paging.after, List.filter_filter, List.filter_filter]
    refine List.filter_congr fun c hc => ?_
    have hnone : (controlPayload c.payload && decide (c.channelId = none)) = false := by
      have hout := List.filter_eq_nil_iff.mp hplaced c hc
      simpa using hout
    rw [Database.inScope, hgiven, Bool.not_true, Bool.false_or]
    cases hcontrol : controlPayload c.payload with
    | false => rw [Bool.false_and, Bool.false_and, Bool.and_false]
    | true =>
      rw [hcontrol, Bool.true_and] at hnone
      rw [hnone, Bool.or_false, Bool.true_and, Bool.true_and]
  have hlimit : (max 1 (min ((some (limit : Int)).getD 100) 500)).toNat = limit := by
    rw [Option.getD_some]
    omega
  have hmore : (decide (((db.controlsAfter channelId n).take limit).length < (db.controlsAfter channelId n).length)) =
      decide (limit < (db.controlsAfter channelId n).length) := by
    rw [decide_eq_decide, List.length_take]
    omega
  rw [Database.getControls, if_neg (by rw [hmember]; decide)]
  simp only [Option.getD_some, Database.replay_of_lt db _ (CursorCodec.decode_toString n) hbound,
    CursorCodec.decode_toString, bind, Except.bind, hscan]
  rw [Option.getD_some] at hlimit
  rw [hlimit, hmore]
  rfl

end Call

def Reached (db : Database) : Prop :=
  ∃ clock uuids ops, (Trace.run storeStep (.initial .empty clock uuids) ops).db = db

def asPage (page : ControlPage) : Paging.Page Payload := ⟨page.events, page.cursor, page.hasMore⟩

def askPages (db : Database) (sessionId channelId : String) (limit : Nat) (requests : List ControlRequest) :
    Except Failure (Paging.Page Payload) :=
  match db.channelControlPages requests sessionId limit with
  | .error e => .error e
  | .ok pages =>
    match pages.controls channelId with
    | some page => .ok (asPage page)
    | none => .error (.coded ((pages.errors channelId).getD "channelNotFound"))

def askScan (db : Database) (sessionId channelId : String) (limit n : Nat) : Except Failure (Paging.Page Payload) :=
  (db.getControls sessionId channelId (some (toString n)) (some limit)).map asPage

/-- Pages that are asked for until none is left, of a channel among any others, hold each control
past the cursor once and in order, and are those of the scan of the channel alone. -/
theorem control_pages_complete (db : Database) (hdb : Reached db) (hstored : db.changes.latestCursor < 2 ^ 63)
    (sessionId channelId : String) (limit n : Nat) (hbound : n < 2 ^ 63)
    (hsession : Text.blank sessionId = false) (hchannel : db.channels.has channelId = true)
    (hmember : (db.activeRows channelId sessionId).length = 1) (hlow : 1 ≤ limit) (hhigh : limit ≤ 500)
    (calls : Nat → List ControlRequest) (hcalls : ∀ n < 2 ^ 63, Asks (calls n) channelId n) :
    (∀ n < 2 ^ 63, askPages db sessionId channelId limit (calls n) = askScan db sessionId channelId limit n) ∧
      ∀ fuel, (db.controlsAfter channelId n).length < fuel →
        Paging.walk (fun n => askPages db sessionId channelId limit (calls n)) fuel n =
            some (.ok ((db.controlsAfter channelId n).map Change.payload)) ∧
          Paging.walk (askScan db sessionId channelId limit) fuel n =
            some (.ok ((db.controlsAfter channelId n).map Change.payload)) := by
  obtain ⟨clock, uuids, ops, rfl⟩ := hdb
  have hplaced := run_placed clock uuids ops
  generalize (Trace.run storeStep (.initial .empty clock uuids) ops).db = db at *
  obtain ⟨m, hrow⟩ := List.length_eq_one_iff.mp hmember
  have hactive : db.isActiveMember channelId sessionId = true := by
    rw [Database.isActiveMember, hrow]
    rfl
  have hpages (n : Nat) (hn : n < 2 ^ 63) :
      askPages db sessionId channelId limit (calls n) = .ok (asPage (pageOf db channelId limit n)) := by
    obtain ⟨pages, hanswer, hpage⟩ := channelControlPages_page (hcalls n hn) hsession hchannel hrow hlow hhigh
    rw [askPages, hanswer]
    dsimp only
    rw [hpage]
  have hscan (n : Nat) (hn : n < 2 ^ 63) :
      askScan db sessionId channelId limit n = .ok (asPage (pageOf db channelId limit n)) := by
    rw [askScan, getControls_page hplaced hactive (hcalls n hn).named hlow hhigh hn]
    rfl
  have hwalk (ask : Nat → Except Failure (Paging.Page Payload))
      (hask : ∀ n < 2 ^ 63, ask n = .ok (asPage (pageOf db channelId limit n))) (fuel : Nat)
      (hfuel : (db.controlsAfter channelId n).length < fuel) :
      Paging.walk ask fuel n = some (.ok ((db.controlsAfter channelId n).map Change.payload)) := by
    let rows := db.changes.rows.filter fun c => controlPayload c.payload && c.channelId = some channelId
    have hrows : ∀ c ∈ rows, c.cursor < 2 ^ 63 := fun c hc =>
      (Journal.cursor_le_latest (List.mem_filter.mp hc).1).trans_lt hstored
    have hforward : Paging.walk ask fuel n = Paging.walk (fun n =>
        ((Except.ok (Paging.forward Change.cursor rows limit n) : Except Failure _)).map
          (Paging.Page.map Change.payload)) fuel n := by
      refine Paging.walk_congr hask (fun n hn page hpage => ?_) fuel hbound
      cases hpage
      exact Paging.reached_lt hn fun c hc => hrows c (List.mem_filter.mp (List.mem_of_mem_take hc)).1
    rw [hforward, Paging.walk_map, Paging.walk_of_serves (ordered_controls db channelId) hrows
      (Paging.serves_forward rows hlow fun _ _ => rfl) fuel hbound hfuel]
    rfl
  exact ⟨fun n hn => (hpages n hn).trans (hscan n hn).symm, fun fuel hfuel => ⟨hwalk _ hpages fuel hfuel, hwalk _ hscan fuel hfuel⟩⟩

/-- A store with a channel whose id has blanks around it beside one whose id has none. -/
def decks : Database :=
  (Trace.run storeStep (.initial .empty tally tally) [
    .insertSession { id := "helm", role := some .operator },
    .insertChannel "deck" none,
    .insertChannel " deck " none,
    .insertMembership "deck" "helm" none,
    .insertMembership " deck " "helm" none,
    .commitControl ⟨"deck", "helm", "steer", .null, "request-1"⟩,
    .commitControl ⟨" deck ", "helm", "steer", .null, "request-2"⟩]).db

def askDeck (n : Nat) : List ControlRequest := [⟨" deck", some (toString n)⟩, ⟨"galley", none⟩]

theorem askDeck_asks (n : Nat) (hn : n < 2 ^ 63) : Asks (askDeck n) "deck" n := by
  have hdeck : Text.trim " deck" = "deck" := by decide +kernel
  have hgalley : Text.trim "galley" = "galley" := by decide +kernel
  have hunique : uniqueRequests (askDeck n) = [("deck", toString n), ("galley", "0")] := by
    simp [uniqueRequests, askDeck, hdeck, hgalley]
  refine ⟨by decide, ⟨⟨" deck", some (toString n)⟩, ?_, CursorCodec.decode_toString n⟩, ?_, ?_⟩
  · rw [firstRequest, askDeck, List.find?_cons]
    simp only [hdeck, decide_true]
  · simp [hunique]
  · have hzero : CursorCodec.decode "0" = some 0 := by decide
    intro q hq
    rw [hunique, validRequests, List.filterMap_cons, List.filterMap_cons, CursorCodec.decode_toString, hzero] at hq
    rcases List.mem_cons.mp hq with rfl | hq
    · exact hn
    · rw [List.mem_singleton.mp hq]
      decide

theorem control_pages_complete_deck :
    (∀ n < 2 ^ 63, askPages decks "helm" "deck" 1 (askDeck n) = askScan decks "helm" "deck" 1 n) ∧
      ∀ fuel, (decks.controlsAfter "deck" 0).length < fuel →
        Paging.walk (fun n => askPages decks "helm" "deck" 1 (askDeck n)) fuel 0 =
            some (.ok ((decks.controlsAfter "deck" 0).map Change.payload)) ∧
          Paging.walk (askScan decks "helm" "deck" 1) fuel 0 =
            some (.ok ((decks.controlsAfter "deck" 0).map Change.payload)) :=
  control_pages_complete decks ⟨tally, tally, _, rfl⟩ (by decide +kernel) "helm" "deck" 1 0 (by decide) (by decide)
    (by decide +kernel) (by decide +kernel) (by decide) (by decide) askDeck askDeck_asks

/-- A rope of a hundred and one channels, of which the first is the deck. -/
def rope (i : Nat) : String := String.ofList (['d', 'e', 'c', 'k'] ++ List.replicate i 'x')

def crowd (n : Nat) : List ControlRequest := (List.range 101).map fun i => ⟨rope i, some (toString n)⟩

theorem toList_rope (i : Nat) : (rope i).toList = ['d', 'e', 'c', 'k'] ++ List.replicate i 'x' :=
  String.toList_ofList

theorem length_rope (i : Nat) : (rope i).toList.length = 4 + i := by
  rw [toList_rope, List.length_append, List.length_replicate]
  rfl

theorem trim_rope (i : Nat) : Text.trim (rope i) = rope i := by
  have hplain (cs : List Char) (h : ∀ c ∈ cs, Text.isSpace c = false) : cs.dropWhile Text.isSpace = cs := by
    cases cs with
    | nil => rfl
    | cons c cs => exact List.dropWhile_cons_of_neg (by simp [h c List.mem_cons_self])
  have hdeck : ∀ c ∈ ['d', 'e', 'c', 'k'], Text.isSpace c = false := by
    intro c hc
    simp only [List.mem_cons, List.not_mem_nil, or_false] at hc
    rcases hc with rfl | rfl | rfl | rfl <;> decide
  have hrope : ∀ c ∈ (rope i).toList, Text.isSpace c = false := by
    intro c hc
    rw [toList_rope] at hc
    rcases List.mem_append.mp hc with hc | hc
    · exact hdeck c hc
    · rw [List.eq_of_mem_replicate hc]
      decide
  rw [Text.trim, hplain _ hrope, hplain _ fun c hc => hrope c (List.mem_reverse.mp hc), List.reverse_reverse,
    String.ofList_toList]

theorem rope_injective : Function.Injective rope := by
  intro i j h
  have hlength := congrArg (fun s => s.toList.length) h
  simp only [length_rope] at hlength
  omega

theorem crowd_refused (db : Database) (sessionId : String) (limit : Int) (n : Nat) :
    db.channelControlPages (crowd n) sessionId limit =
      .error (.rooms "controlBatchTooLarge" "channel control batches are limited to 100 channels") := by
  have hsub : (crowd n).map ControlRequest.channelId ⊆ (uniqueRequests (crowd n)).map Prod.fst := by
    intro channelId hmem
    obtain ⟨request, hrequest, rfl⟩ := List.mem_map.mp hmem
    obtain ⟨i, -, rfl⟩ := List.mem_map.mp hrequest
    have hnamed : rope i ≠ "" := by
      intro h
      have hlength := length_rope i
      rw [h] at hlength
      cases hlength.trans (Nat.add_comm 4 i)
    have hfind := uniqueRequests_find (crowd n) hnamed
    obtain ⟨r, hr⟩ : ∃ r, firstRequest (crowd n) (rope i) = some r :=
      Option.isSome_iff_exists.mp (List.find?_isSome.mpr ⟨_, hrequest, decide_eq_true (trim_rope i)⟩)
    rw [hr, Option.map_some] at hfind
    exact List.mem_map.mpr ⟨_, List.mem_of_find?_eq_some hfind, rfl⟩
  have hnodup : ((crowd n).map ControlRequest.channelId).Nodup := by
    rw [crowd, List.map_map]
    exact List.Nodup.map rope_injective List.nodup_range
  have hmany : 100 < (uniqueRequests (crowd n)).length := by
    have hle := (List.subperm_of_subset hnodup hsub).length_le
    rw [List.length_map, List.length_map, crowd, List.length_map, List.length_range] at hle
    exact hle
  have hasked : ¬(uniqueRequests (crowd n)).isEmpty = true := by
    rw [List.isEmpty_iff]
    rintro h
    rw [h] at hmany
    exact absurd hmany (by decide)
  rw [Database.channelControlPages]
  dsimp only
  rw [if_neg hasked, if_pos hmany]

/-- A channel is not found under its own id when blanks are around it, and none of a hundred and one. -/
theorem control_pages_missing :
    (∀ fuel, Paging.walk (fun n => askPages decks "helm" " deck " 100 [⟨" deck ", some (toString n)⟩]) fuel 0 ≠
        some (.ok ((decks.controlsAfter " deck " 0).map Change.payload))) ∧
      ∀ fuel, Paging.walk (fun n => askPages decks "helm" "deck" 100 (crowd n)) fuel 0 ≠
        some (.ok ((decks.controlsAfter "deck" 0).map Change.payload)) := by
  refine ⟨fun fuel => Paging.walk_of_error ?_ fuel _, fun fuel => Paging.walk_of_error ?_ fuel _⟩
  · have hblank : (askPages decks "helm" " deck " 100 [⟨" deck ", some (toString 0)⟩]).toOption.isNone = true := by
      decide +kernel
    exact Option.isNone_iff_eq_none.mp hblank
  · rw [askPages, crowd_refused]
    rfl

end Wardroom.Feeds
