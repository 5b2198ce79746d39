import Wardroom.Federation.MachineInventory

/-! # Following the pages of an inventory

The initiator asks from position 0 and goes on from each `nextCursor` until there is
none. The machine's inventory may be another one at every request.
-/

namespace Wardroom.Federation
open Wardroom.Library Wardroom.Library.JsonText

variable {ν : Type} (p : Platform ν)

/-- What every request of the walk has in common. -/
structure InventoryWalk where
  authorityId : JsString
  resource : InventoryResource
  limit : Nat
  includeEnded : Bool

/-- One request: the fields of its reply that the handler does not choose, and the inventory that it finds. -/
structure InventoryVisit where
  header : RelayHeader
  requestId : JsString
  now : Int
  database : Inventory

inductive WalkPhase where
  | asking (cursor : Nat)
  | finished
  | failed
  | disconnected
  deriving DecidableEq

structure WalkState where
  phase : WalkPhase := .asking 0
  collected : List InventoryItem := []
  /-- What stood before the next cursor when the last page was cut. -/
  passed : List InventoryItem := []

namespace InventoryWalk
variable (walk : InventoryWalk)

def frame (requestId : JsString) (cursor : Nat) : InventoryRequest :=
  ⟨requestId, walk.resource, cursor, walk.limit, walk.includeEnded⟩

/-- The filtered list; a registry that cannot be read lists nothing. -/
def items (database : Inventory) : List InventoryItem :=
  (resourceItems walk.resource walk.includeEnded database).toOption.getD []

def cut (visit : InventoryVisit) (cursor : Nat) : InventoryPage :=
  (walk.frame visit.requestId cursor).page (walk.items visit.database)

def step (state : WalkState) (visit : InventoryVisit) : WalkState :=
  match state.phase with
  | .asking cursor =>
    match answerOf p visit.now
        (handleInventory p walk.authorityId visit.header (walk.frame visit.requestId cursor) visit.database) with
    | .page =>
      let page := walk.cut visit cursor
      ⟨page.nextCursor.elim .finished .asking, state.collected ++ page.items,
        (walk.items visit.database).take (cursor + page.items.length)⟩
    | .failure => { state with phase := .failed }
    | .disconnected => { state with phase := .disconnected }
  | _ => state

def run (state : WalkState) (visits : List InventoryVisit) : WalkState := visits.foldl (walk.step p) state

end InventoryWalk

def idsOf (stays : JsString → Bool) (items : List InventoryItem) : List JsString :=
  (items.map InventoryItem.id).filter stays

theorem idsOf_append (stays : JsString → Bool) (items others : List InventoryItem) :
    idsOf stays (items ++ others) = idsOf stays items ++ idsOf stays others := by
  rw [idsOf, List.map_append, List.filter_append]
  rfl

/-- A request that finds those that stay, in their order, in a list that can be read. -/
structure InventoryVisit.Finds (visit : InventoryVisit) (walk : InventoryWalk) (stays : JsString → Bool)
    (kept : List JsString) : Prop where
  fields : ReplyFields visit.header visit.requestId
  readable : resourceItems walk.resource walk.includeEnded visit.database = .ok (walk.items visit.database)
  keeps : idsOf stays (walk.items visit.database) = kept

namespace InventoryWalk
variable {p} {walk : InventoryWalk}

/-- Under the bound of the peer's parser, and with the same of those that stay before the cursor as when the last
page was cut. -/
structure MeetsAt (walk : InventoryWalk) (stays : JsString → Bool) (state : WalkState) (visit : InventoryVisit)
    (cursor : Nat) : Prop where
  fits : (payloadOf (pageTree walk.authorityId (walk.frame visit.requestId cursor) (walk.cut visit cursor))).length ≤
    RELAY_MAX_TERMINAL_BYTES
  unmoved : idsOf stays ((walk.items visit.database).take cursor) = idsOf stays state.passed

def Meets (p : Platform ν) (walk : InventoryWalk) (stays : JsString → Bool) : WalkState → List InventoryVisit → Prop
  | _, [] => True
  | state, visit :: visits =>
    (∀ cursor, state.phase = .asking cursor → walk.MeetsAt stays state visit cursor) ∧
      Meets p walk stays (walk.step p state visit) visits

variable {visit : InventoryVisit}

theorem step_page (hp : p.Decimal) (hfields : ReplyFields visit.header visit.requestId)
    (hreadable : resourceItems walk.resource walk.includeEnded visit.database = .ok (walk.items visit.database))
    {state : WalkState} {cursor : Nat} (hphase : state.phase = .asking cursor)
    (hfits : (payloadOf (pageTree walk.authorityId (walk.frame visit.requestId cursor) (walk.cut visit cursor))).length ≤
      RELAY_MAX_TERMINAL_BYTES) :
    walk.step p state visit = ⟨(walk.cut visit cursor).nextCursor.elim .finished .asking,
      state.collected ++ (walk.cut visit cursor).items,
      (walk.items visit.database).take (cursor + (walk.cut visit cursor).items.length)⟩ := by
  have hanswer : answerOf p visit.now (handleInventory p walk.authorityId visit.header (walk.frame visit.requestId cursor)
      visit.database) = .page := (answer_page_iff hp hfields hreadable visit.now).mpr hfits
  rw [step, hphase]
  dsimp only
  rw [hanswer]

/-- A page goes on from its cursor: what stood before the next one is what stood before this one, and the page. -/
theorem take_cut (visit : InventoryVisit) (cursor : Nat) :
    (walk.items visit.database).take (cursor + (walk.cut visit cursor).items.length) =
      (walk.items visit.database).take cursor ++ (walk.cut visit cursor).items := by
  rw [List.take_add]
  congr 1
  simp only [cut, InventoryRequest.page, frame, List.length_take]
  apply List.take_eq_take_iff.mpr
  omega

theorem cut_next {cursor next : Nat} (hlimit : 1 ≤ walk.limit)
    (h : (walk.cut visit cursor).nextCursor = some next) :
    next = cursor + (walk.cut visit cursor).items.length ∧ cursor < next ∧
      next ≤ (walk.items visit.database).length := by
  simp only [cut, InventoryRequest.page, frame, List.length_take, List.length_drop, Option.ite_none_right_eq_some,
    Option.some.injEq] at h ⊢
  omega

theorem cut_last {cursor : Nat} (h : (walk.cut visit cursor).nextCursor = none) :
    (walk.items visit.database).take (cursor + (walk.cut visit cursor).items.length) = walk.items visit.database := by
  apply List.take_of_length_le
  by_contra hmore
  have hnext : (walk.cut visit cursor).nextCursor = some (cursor + (walk.cut visit cursor).items.length) :=
    if_pos (Nat.not_le.mp hmore)
  rw [h] at hnext
  cases hnext

/-- After `count` pages of lists of at most `bound` items: those passed by have been collected, and at the end those
that stay. -/
structure Delivers (stays : JsString → Bool) (kept : List JsString) (bound count : Nat) (state : WalkState) : Prop where
  collected : idsOf stays state.collected = idsOf stays state.passed
  passed : idsOf stays state.passed <+: kept
  phase : state.phase = .finished ∧ idsOf stays state.passed = kept ∨
    ∃ cursor, state.phase = .asking cursor ∧ count ≤ cursor ∧ cursor ≤ bound

theorem step_delivers (hp : p.Decimal) (hlimit : 1 ≤ walk.limit) {stays : JsString → Bool} {kept : List JsString}
    {bound count : Nat} {state : WalkState} (hfinds : visit.Finds walk stays kept)
    (hbound : (walk.items visit.database).length ≤ bound)
    (hmeets : ∀ cursor, state.phase = .asking cursor → walk.MeetsAt stays state visit cursor)
    (h : Delivers stays kept bound count state) : Delivers stays kept bound (count + 1) (walk.step p state visit) := by
  rcases h.phase with ⟨hfinished, hpassed⟩ | ⟨cursor, hasking, hcount, -⟩
  · have hsame : walk.step p state visit = state := by rw [step, hfinished]
    rw [hsame]
    exact ⟨h.collected, h.passed, .inl ⟨hfinished, hpassed⟩⟩
  · have hmeet := hmeets cursor hasking
    rw [step_page hp hfinds.fields hfinds.readable hasking hmeet.fits]
    refine ⟨?_, ?_, ?_⟩
    · rw [take_cut, idsOf_append, idsOf_append, h.collected, hmeet.unmoved]
    · rw [← hfinds.keeps]
      exact ((List.take_prefix _ _).map _).filter _
    · cases hnext : (walk.cut visit cursor).nextCursor with
      | none =>
        left
        rw [cut_last hnext]
        exact ⟨rfl, hfinds.keeps⟩
      | some next =>
        right
        obtain ⟨-, hlater, hinside⟩ := cut_next hlimit hnext
        exact ⟨next, rfl, by omega, by omega⟩

theorem run_delivers (hp : p.Decimal) (hlimit : 1 ≤ walk.limit) {stays : JsString → Bool} {kept : List JsString}
    {bound : Nat} {visits : List InventoryVisit} (hfinds : ∀ visit ∈ visits, visit.Finds walk stays kept)
    (hbound : ∀ visit ∈ visits, (walk.items visit.database).length ≤ bound) {count : Nat} {state : WalkState}
    (hmeets : Meets p walk stays state visits) (h : Delivers stays kept bound count state) :
    Delivers stays kept bound (count + visits.length) (walk.run p state visits) := by
  induction visits generalizing state count with
  | nil => exact h
  | cons visit visits ih =>
    rw [List.forall_mem_cons] at hfinds hbound
    have hstep := step_delivers hp hlimit hfinds.1 hbound.1 hmeets.1 h
    have hrun := ih hfinds.2 hbound.2 hmeets.2 hstep
    rw [List.length_cons, Nat.add_comm visits.length, ← Nat.add_assoc]
    exact hrun

end InventoryWalk

/-- Where every page fits, and nothing moves across the cursor, those that stay arrive once each and in order, no
request fails or closes the connection, and the walk is at its end after as many requests as the lists are long and
one more. -/
theorem walk_delivers (hp : p.Decimal) (walk : InventoryWalk) (hlimit : 1 ≤ walk.limit ∧ walk.limit ≤ 20)
    (stays : JsString → Bool) (kept : List JsString) (hkept : kept.Nodup) (visits : List InventoryVisit)
    (hfinds : ∀ visit ∈ visits, visit.Finds walk stays kept) (hmeets : walk.Meets p stays {} visits) :
    ((walk.run p {} visits).phase = .finished ∨ ∃ cursor, (walk.run p {} visits).phase = .asking cursor) ∧
      idsOf stays (walk.run p {} visits).collected <+: kept ∧
      ((walk.run p {} visits).phase = .finished →
        idsOf stays (walk.run p {} visits).collected = kept ∧
          ∀ id ∈ kept, ((walk.run p {} visits).collected.map InventoryItem.id).count id = 1) ∧
      ∀ bound, (∀ visit ∈ visits, (walk.items visit.database).length ≤ bound) → bound < visits.length →
        (walk.run p {} visits).phase = .finished := by
  have hstart (bound : Nat) : InventoryWalk.Delivers stays kept bound 0 {} :=
    ⟨rfl, List.nil_prefix, .inr ⟨0, rfl, Nat.le_refl 0, Nat.zero_le bound⟩⟩
  have hrun (bound : Nat) (hbound : ∀ visit ∈ visits, (walk.items visit.database).length ≤ bound) :=
    InventoryWalk.run_delivers hp hlimit.1 hfinds hbound hmeets (hstart bound)
  have hlongest : ∃ bound, ∀ visit ∈ visits, (walk.items visit.database).length ≤ bound :=
    ⟨(visits.map fun visit => (walk.items visit.database).length).sum,
      fun visit hvisit => List.le_sum_of_mem (List.mem_map_of_mem hvisit)⟩
  obtain ⟨longest, hlong⟩ := hlongest
  have hall := hrun longest hlong
  refine ⟨?_, ?_, fun hfinished => ?_, fun bound hbound hmany => ?_⟩
  · rcases hall.phase with ⟨hfinished, -⟩ | ⟨cursor, hasking, -⟩
    · exact .inl hfinished
    · exact .inr ⟨cursor, hasking⟩
  · rw [hall.collected]
    exact hall.passed
  · rcases hall.phase with ⟨-, hpassed⟩ | ⟨cursor, hasking, -⟩
    · have hcollected := hall.collected.trans hpassed
      refine ⟨hcollected, fun id hid => ?_⟩
      have hstays : stays id = true := by
        rw [← hcollected, idsOf, List.mem_filter] at hid
        exact hid.2
      rw [← List.count_filter hstays]
      change (idsOf stays _).count id = 1
      rw [hcollected]
      exact List.count_eq_one_of_mem hkept hid
    · rw [hfinished] at hasking
      cases hasking
  · rcases (hrun bound hbound).phase with ⟨hfinished, -⟩ | ⟨cursor, -, hcount, hshort⟩
    · exact hfinished
    · omega

/-- Whole numbers as JavaScript writes them. -/
def wholePlatform : Platform Int :=
  { digitPlatform with
    number := fun s => digitsValue s
    numberText := fun n => if 0 ≤ n ∧ n ≤ MAX_SAFE_INTEGER then decimalText n.toNat else text "NaN"
    numberText_length := by
      intro n
      split_ifs with h
      · have hshort : n.toNat < 10 ^ 25 := by
          rw [MAX_SAFE_INTEGER] at h
          omega
        rw [length_decimalText, Nat.toString_eq_repr]
        exact (Nat.length_repr_le_iff (by decide)).mpr hshort
      · decide +kernel
    numberText_plain := by
      intro n
      split_ifs with h
      · exact plain_decimalText _
      · decide +kernel }

theorem wholePlatform_decimal : wholePlatform.Decimal where
  isFinite _ _ := rfl
  integer _ _ := rfl
  number n _ := congrArg Int.ofNat (digitsValue_decimalText n)
  numberText n hn := if_pos ⟨Int.natCast_nonneg n, hn⟩

/-- Sessions one by one, those that have ended left out. -/
def listedWalk : InventoryWalk := ⟨text "m", .sessions, 1, false⟩

def listedSession (id : String) (endedAt : Option String) : InventorySession :=
  ⟨text id, endedAt.map text, .object [(text "id", .string (text id))]⟩

def listedVisit (requestId : String) (ended : Option String) : InventoryVisit :=
  ⟨⟨text "00000000-0000-0000-0000-000000000000", .responderToInitiator, 1⟩, text requestId, 0,
    ⟨[], [listedSession "a" ended, listedSession "b" none, listedSession "c" none], .ok []⟩⟩

theorem listedVisit_fields (requestId : String) (h : requestId ∈ ["1", "2", "3"]) (ended : Option String) :
    ReplyFields (listedVisit requestId ended).header (listedVisit requestId ended).requestId where
  connectionId := by
    change CONNECTION_ID_PATTERN (text "00000000-0000-0000-0000-000000000000") = true
    decide +kernel
  seq := by
    change 1 ≤ 1 ∧ (1 : Int) ≤ MAX_SAFE_INTEGER
    decide
  requestId := by
    change text requestId ≠ [] ∧ (text requestId).byteLength ≤ 128
    simp only [List.mem_cons, List.not_mem_nil, or_false] at h
    rcases h with rfl | rfl | rfl <;> decide +kernel

def listedItem (id : String) : InventoryItem := ⟨text id, .object [(text "id", .string (text id))]⟩

theorem listedPages_fit : ∀ ended ∈ [none, some "t"], ∀ cursor ∈ [0, 1, 2],
    (payloadOf (pageTree (text "m") (listedWalk.frame (text "1") cursor) (listedWalk.cut (listedVisit "1" ended) cursor))).length
      ≤ RELAY_MAX_TERMINAL_BYTES := by
  decide +kernel

theorem listedVisit_step (requestId : String) (h : requestId ∈ ["1", "2", "3"]) (ended : Option String)
    (hended : ended ∈ [none, some "t"]) (cursor : Nat) (hcursor : cursor ∈ [0, 1, 2]) {state : WalkState}
    (hphase : state.phase = .asking cursor) :
    listedWalk.step wholePlatform state (listedVisit requestId ended) =
      ⟨(listedWalk.cut (listedVisit requestId ended) cursor).nextCursor.elim .finished .asking,
        state.collected ++ (listedWalk.cut (listedVisit requestId ended) cursor).items,
        (listedWalk.items (listedVisit requestId ended).database).take
          (cursor + (listedWalk.cut (listedVisit requestId ended) cursor).items.length)⟩ :=
  InventoryWalk.step_page wholePlatform_decimal (listedVisit_fields requestId h ended) rfl hphase
    (listedPages_fit ended hended cursor hcursor)

/-- A session with a name of 2100 letters, of three bytes each. -/
def longNamed : InventorySession := ⟨text "a", none, .object [(text "displayName", .string (List.replicate 2100 0x4E00))]⟩

theorem longNamed_long :
    RELAY_MAX_TERMINAL_BYTES < (payloadOf (pageTree (text "m") (listedWalk.frame (text "1") 0)
      ((listedWalk.frame (text "1") 0).page [⟨longNamed.id, longNamed.row⟩]))).length ∧
    (payloadOf (pageTree (text "m") (listedWalk.frame (text "1") 0)
      ((listedWalk.frame (text "1") 0).page [⟨longNamed.id, longNamed.row⟩]))).length + 4096 ≤ RELAY_MAX_FRAME_BYTES := by
  decide +kernel

/-- The first of three sessions ends after its page: the third one stands at the next cursor, and the second is passed
over. And one session with a long name closes the connection. -/
theorem second_session_skipped :
    ((∀ visit ∈ [listedVisit "1" none, listedVisit "2" (some "t")],
        visit.Finds listedWalk (fun id => id ≠ text "a") [text "b", text "c"]) ∧
      (listedWalk.run wholePlatform {} [listedVisit "1" none, listedVisit "2" (some "t")]).phase = .finished ∧
      ((listedWalk.run wholePlatform {} [listedVisit "1" none, listedVisit "2" (some "t")]).collected.map
        InventoryItem.id) = [text "a", text "c"]) ∧
    answerOf wholePlatform 0 (handleInventory wholePlatform (text "m") (listedVisit "1" none).header
      (listedWalk.frame (text "1") 0)
      ⟨[], [longNamed], .ok []⟩) = .disconnected := by
  have hrun : listedWalk.run wholePlatform {} [listedVisit "1" none, listedVisit "2" (some "t")] =
      ⟨.finished, [listedItem "a", listedItem "c"], [listedItem "b", listedItem "c"]⟩ := by
    have hfirst := listedVisit_step "1" (by decide) none (by decide) 0 (by decide) (show ({} : WalkState).phase = _ from rfl)
    rw [InventoryWalk.run, List.foldl_cons, hfirst, List.foldl_cons,
      listedVisit_step "2" (by decide) (some "t") (by decide) 1 (by decide) rfl]
    rfl
  refine ⟨⟨?_, ?_, ?_⟩, ?_⟩
  · simp only [List.forall_mem_cons, List.not_mem_nil, false_implies, implies_true, and_true]
    exact ⟨⟨listedVisit_fields "1" (by decide) none, rfl, by decide +kernel⟩,
      ⟨listedVisit_fields "2" (by decide) (some "t"), rfl, by decide +kernel⟩⟩
  · rw [hrun]
  · rw [hrun]
    rfl
  · have hfields : ReplyFields (listedVisit "1" none).header (listedWalk.frame (text "1") 0).requestId :=
      listedVisit_fields "1" (by decide) none
    have hall : resourceItems (listedWalk.frame (text "1") 0).resource (listedWalk.frame (text "1") 0).includeEnded
        ⟨[], [longNamed], .ok []⟩ = .ok [⟨longNamed.id, longNamed.row⟩] := rfl
    exact answer_disconnected wholePlatform_decimal hfields hall longNamed_long.1 longNamed_long.2 0

theorem walk_delivers_three :
    (listedWalk.run wholePlatform {} [listedVisit "1" none, listedVisit "2" none, listedVisit "3" none,
      listedVisit "1" none]).phase = .finished := by
  have hfinds : ∀ visit ∈ [listedVisit "1" none, listedVisit "2" none, listedVisit "3" none, listedVisit "1" none],
      visit.Finds listedWalk (fun _ => true) [text "a", text "b", text "c"] := by
    simp only [List.forall_mem_cons, List.not_mem_nil, false_implies, implies_true, and_true]
    exact ⟨⟨listedVisit_fields "1" (by decide) none, rfl, by decide +kernel⟩,
      ⟨listedVisit_fields "2" (by decide) none, rfl, by decide +kernel⟩,
      ⟨listedVisit_fields "3" (by decide) none, rfl, by decide +kernel⟩,
      ⟨listedVisit_fields "1" (by decide) none, rfl, by decide +kernel⟩⟩
  have hmeets : listedWalk.Meets wholePlatform (fun _ => true) {} [listedVisit "1" none, listedVisit "2" none,
      listedVisit "3" none, listedVisit "1" none] := by
    have hfirst := listedVisit_step "1" (by decide) none (by decide) 0 (by decide) (show ({} : WalkState).phase = _ from rfl)
    refine ⟨?_, ?_⟩
    · rintro cursor ⟨⟩
      exact ⟨listedPages_fit none (by decide) 0 (by decide), rfl⟩
    rw [hfirst]
    refine ⟨?_, ?_⟩
    · rintro cursor ⟨⟩
      exact ⟨listedPages_fit none (by decide) 1 (by decide), rfl⟩
    rw [listedVisit_step "2" (by decide) none (by decide) 1 (by decide) rfl]
    refine ⟨?_, ?_⟩
    · rintro cursor ⟨⟩
      exact ⟨listedPages_fit none (by decide) 2 (by decide), rfl⟩
    rw [listedVisit_step "3" (by decide) none (by decide) 2 (by decide) rfl]
    refine ⟨?_, trivial⟩
    rintro cursor ⟨⟩
  have hdelivers := walk_delivers wholePlatform wholePlatform_decimal listedWalk (by decide) (fun _ => true)
    [text "a", text "b", text "c"] (by decide +kernel) _ hfinds hmeets
  exact hdelivers.2.2.2 3 (by decide +kernel) (by decide)

end Wardroom.Federation
