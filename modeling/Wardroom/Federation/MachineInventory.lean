import Wardroom.Federation.RelayProtocol
import Wardroom.Library.Base64
import Wardroom.Library.JsonNumber
import Wardroom.Library.JsonSize
import Wardroom.Library.Utf16

/-! # Pages of a machine's inventory

A page is cut from a list that is read and filtered anew for each request, by
position and by a count of items. It travels as the base64 of its JSON in one
frame, and the receiving side bounds that field by itself.
-/

namespace Wardroom.Federation
open Wardroom.Library Wardroom.Library.JsonText

variable {ν : Type} (p : Platform ν)

structure InventoryChannel where
  id : JsString
  lifecycleState : JsString
  row : Tree

structure InventorySession where
  id : JsString
  endedAt : Option JsString
  row : Tree

/-- What the handler reads when a request comes: the tables in the order of registration, and the registry of
providers, which may be unreadable. -/
structure Inventory where
  channels : List InventoryChannel
  sessions : List InventorySession
  providers : Except JsString (List (JsString × Tree))

structure InventoryItem where
  id : JsString
  value : Tree

inductive InventoryResource where
  | channels
  | sessions
  | providers
  deriving DecidableEq

def InventoryResource.name : InventoryResource → String
  | .channels => "channels"
  | .sessions => "sessions"
  | .providers => "providers"

structure InventoryRequest where
  requestId : JsString
  resource : InventoryResource
  cursor : Nat
  limit : Nat
  includeEnded : Bool

def resourceItems (resource : InventoryResource) (includeEnded : Bool) (database : Inventory) :
    Except JsString (List InventoryItem) :=
  match resource with
  | .channels =>
    .ok ((database.channels.filter fun item => includeEnded || item.lifecycleState = text "active").map fun item =>
      ⟨item.id, item.row⟩)
  | .sessions =>
    .ok ((database.sessions.filter fun item => includeEnded || item.endedAt = none).map fun item => ⟨item.id, item.row⟩)
  | .providers => database.providers.map fun items => items.map fun item => ⟨item.1, item.2⟩

structure InventoryPage where
  items : List InventoryItem
  nextCursor : Option Nat

def InventoryRequest.page (frame : InventoryRequest) (all : List InventoryItem) : InventoryPage :=
  let items := (all.drop frame.cursor).take frame.limit
  ⟨items, if frame.cursor + items.length < all.length then some (frame.cursor + items.length) else none⟩

def pageTree (authorityId : JsString) (frame : InventoryRequest) (page : InventoryPage) : Tree :=
  .object [(text "authorityId", .string authorityId), (text "resource", .string (text frame.resource.name)),
    (text "items", .array (page.items.map InventoryItem.value)),
    (text "nextCursor", page.nextCursor.elim .null fun cursor => .number (decimalText cursor))]

def failureTree (message : JsString) : Tree :=
  .object [(text "code", .string (text "inventoryFailed")), (text "message", .string message)]

def payloadOf (value : Tree) : JsString := Base64.encode (JsString.toUtf8 value.write)

/-- The frame of a reply; the connection spreads its own fields behind those of the handler. -/
def replyFrame (header : RelayHeader) (requestId : JsString) (ok : Bool) (payload : JsString) : JsValue ν :=
  .object (create (text "seq") (integer p header.seq) (create (text "direction") (constant header.direction.name)
    (create (text "connectionId") (.string header.connectionId)
      [(text "kind", constant "inventoryResult"), (text "requestId", .string requestId), (text "ok", .bool ok),
        (text "payload", .string payload)]))) .objectPrototype

def inventoryReply (header : RelayHeader) (requestId : JsString) (ok : Bool) (value : Tree) : Except JsString JsString :=
  encodeObject p (replyFrame p header requestId ok (payloadOf value))

/-- The line that answers a request of an authenticated peer to this authority; an exception of the second reply
closes the connection. -/
def handleInventory (authorityId : JsString) (header : RelayHeader) (frame : InventoryRequest) (database : Inventory) :
    Except JsString JsString :=
  let answer := do
    let all ← resourceItems frame.resource frame.includeEnded database
    inventoryReply p header frame.requestId true (pageTree authorityId frame (frame.page all))
  match answer with
  | .ok line => .ok line
  | .error message => inventoryReply p header frame.requestId false (failureTree message)

def isTrue : Option (JsValue ν) → Bool
  | some (.bool b) => b
  | _ => false

/-- The page has arrived, a failure has been reported, or the connection is torn down. -/
inductive InventoryAnswer where
  | page
  | failure
  | disconnected
  deriving DecidableEq

/-- The line reaches the parser of the peer without its line feed. -/
def answerOf (now : Int) (line : Except JsString JsString) : InventoryAnswer :=
  match line with
  | .error _ => .disconnected
  | .ok line =>
    match parseRelayFrame p now line.dropLast with
    | .ok (.application _ (.inventoryResult frame)) => if isTrue (frame.get (text "ok")) then .page else .failure
    | _ => .disconnected

/-- How JavaScript writes and reads whole numbers. -/
structure Platform.Decimal : Prop where
  isFinite : ∀ n : Nat, (n : Int) ≤ MAX_SAFE_INTEGER → p.isFinite (p.ofInteger n) = true
  numberText : ∀ n : Nat, (n : Int) ≤ MAX_SAFE_INTEGER → p.numberText (p.ofInteger n) = decimalText n
  number : ∀ n : Nat, (n : Int) ≤ MAX_SAFE_INTEGER → p.number (decimalText n) = p.ofInteger n
  integer : ∀ n : Nat, (n : Int) ≤ MAX_SAFE_INTEGER → p.integer (p.ofInteger n) = some (n : Int)

/-- The fields of a reply that are none of its handler's making: the connection's, and the id of a request that the
parser has let through. -/
structure ReplyFields (header : RelayHeader) (requestId : JsString) : Prop where
  connectionId : CONNECTION_ID_PATTERN header.connectionId = true
  seq : 1 ≤ header.seq ∧ (header.seq : Int) ≤ MAX_SAFE_INTEGER
  requestId : requestId ≠ [] ∧ requestId.byteLength ≤ 128

section Text
variable {p} {header : RelayHeader} {requestId payload : JsString} {ok : Bool}

def replyTree (header : RelayHeader) (requestId : JsString) (ok : Bool) (payload : JsString) : Tree :=
  .object [(text "kind", .string (text "inventoryResult")), (text "requestId", .string requestId), (text "ok", .bool ok),
    (text "payload", .string payload), (text "connectionId", .string header.connectionId),
    (text "direction", .string (text header.direction.name)), (text "seq", .number (decimalText header.seq))]

theorem replyFrame_eq : replyFrame p header requestId ok payload =
    object [("kind", constant "inventoryResult"), ("requestId", .string requestId), ("ok", .bool ok),
      ("payload", .string payload), ("connectionId", .string header.connectionId),
      ("direction", constant header.direction.name), ("seq", integer p header.seq)] := by
  rfl

theorem inKeyOrder_names {α : Type} {members : List (JsString × α)} (h : ∀ m ∈ members, arrayIndex m.1 = none) :
    inKeyOrder members = members := by
  have hindices : (members.filter fun m => (arrayIndex m.1).isSome) = [] :=
    List.filter_eq_nil_iff.mpr fun m hm => by simp [h m hm]
  have hnames : (members.filter fun m => (arrayIndex m.1).isNone) = members :=
    List.filter_eq_self.mpr fun m hm => by simp [h m hm]
  rw [inKeyOrder, hindices, hnames, List.mergeSort_nil, List.nil_append]

theorem replyKeys_names : ∀ key ∈ ["kind", "requestId", "ok", "payload", "connectionId", "direction", "seq"],
    arrayIndex (text key) = none := by decide +kernel

theorem joinWith_comma (parts : List JsString) : joinWith (text ",") parts = commaSeparated parts := by
  induction parts with
  | nil => rfl
  | cons part parts ih =>
    cases parts with
    | nil => rfl
    | cons next parts =>
      have hcomma : text "," = [comma] := by decide
      rw [joinWith.eq_3 _ part (next :: parts) (by simp), ih, commaSeparated.eq_3 part (next :: parts) (by simp), hcomma,
        List.append_assoc]
      rfl

theorem stringify_reply (hp : p.Decimal) (hseq : (header.seq : Int) ≤ MAX_SAFE_INTEGER) :
    (replyFrame p header requestId ok payload).stringify p = (replyTree header requestId ok payload).write := by
  have hnumber : (integer p header.seq).stringify p = decimalText header.seq := by
    rw [integer, JsValue.stringify, if_pos (hp.isFinite _ hseq), hp.numberText _ hseq]
  have hmembers : ∀ m ∈ JsValue.stringifyMembers p [(text "kind", constant "inventoryResult"),
      (text "requestId", .string requestId), (text "ok", .bool ok), (text "payload", .string payload),
      (text "connectionId", .string header.connectionId), (text "direction", constant header.direction.name),
      (text "seq", integer p header.seq)], arrayIndex m.1 = none := by
    simp only [JsValue.stringifyMembers, List.forall_mem_cons, List.not_mem_nil, false_implies, implies_true, and_true]
    have hnames := replyKeys_names
    simp only [List.forall_mem_cons, List.not_mem_nil, false_implies, implies_true, and_true] at hnames
    exact hnames
  rw [replyFrame_eq, object, JsValue.stringify]
  simp only [List.map_cons, List.map_nil]
  rw [inKeyOrder_names hmembers, joinWith_comma]
  cases ok <;>
  simp only [JsValue.stringifyMembers, List.map_cons, List.map_nil, hnumber, constant, JsValue.stringify, replyTree,
    Tree.write, writeMembers] <;>
  rfl

open JsString (byteLength quoted)

theorem isPlain_of_range {c : CodeUnit} (h : 0x2D ≤ c.toNat ∧ c.toNat < 0x5B ∨ 0x61 ≤ c.toNat ∧ c.toNat < 0x7B) :
    JsString.isPlain c = true := by
  have hne : ∀ d : CodeUnit, d.toNat = 0x22 ∨ d.toNat = 0x5C → c ≠ d := by
    rintro d hd rfl
    omega
  simp only [JsString.isPlain, Bool.and_eq_true, decide_eq_true_eq, UInt16.le_iff_toNat_le, UInt16.lt_iff_toNat_lt,
    UInt16.reduceToNat]
  exact ⟨⟨⟨by omega, by omega⟩, hne quote (.inl (by decide))⟩, hne backslash (.inr (by decide))⟩

theorem isPlain_hex {c : CodeUnit} (h : isLowerHex c = true) : JsString.isPlain c = true := by
  apply isPlain_of_range
  simp only [isLowerHex, isDigit, Bool.or_eq_true, Bool.and_eq_true, decide_eq_true_eq, UInt16.le_iff_toNat_le,
    UInt16.reduceToNat] at h
  have hzero : UInt16.toNat zero = 0x30 := by decide
  omega

theorem hexGroups_plain : ∀ {ns : List Nat} {s : JsString}, hexGroups ns s = true →
    s.all JsString.isPlain = true ∧ s.length ≤ ns.sum + ns.length
  | [], s, h => by
    simp only [hexGroups, decide_eq_true_eq] at h
    simp [h]
  | [n], s, h => by
    simp only [hexGroups, Bool.and_eq_true, decide_eq_true_eq, List.all_eq_true] at h
    refine ⟨List.all_eq_true.mpr fun c hc => isPlain_hex (h.2 c hc), ?_⟩
    simp only [List.sum_cons, List.sum_nil, List.length_cons, List.length_nil]
    omega
  | n :: m :: ns, s, h => by
    simp only [hexGroups, Bool.and_eq_true, decide_eq_true_eq, List.all_eq_true] at h
    obtain ⟨⟨⟨hlength, hhex⟩, hhyphen⟩, hrest⟩ := h
    obtain ⟨hplain, hshort⟩ := @hexGroups_plain (m :: ns) _ hrest
    rw [List.all_eq_true] at hplain
    have hparts : s = s.take n ++ 0x2D :: s.drop (n + 1) := by
      have hdrop : s.drop n = 0x2D :: s.drop (n + 1) := by
        rw [List.head?_drop] at hhyphen
        exact List.drop_eq_getElem?_toList_append.trans (by rw [hhyphen]; rfl)
      rw [← hdrop, List.take_append_drop]
    constructor
    · rw [hparts, List.all_append, List.all_cons, Bool.and_eq_true, Bool.and_eq_true, List.all_eq_true, List.all_eq_true]
      exact ⟨fun c hc => isPlain_hex (hhex c hc), by decide, hplain⟩
    · have hcount := congrArg List.length hparts
      rw [List.length_append, List.length_cons, hlength] at hcount
      simp only [List.sum_cons, List.length_cons] at hshort ⊢
      omega

theorem payload_plain (value : Tree) : (payloadOf value).all JsString.isPlain = true := by
  refine List.all_eq_true.mpr fun c hc => ?_
  obtain ⟨-, -, hquote, hbackslash, hlow, hhigh⟩ := Base64.plain_encode _ hc
  simp [JsString.isPlain, hquote, hbackslash, hlow, hhigh]

theorem writable_reply : (replyTree header requestId ok payload).Writable := by
  simp [replyTree, Tree.Writable, MembersWritable, number_decimalText]

theorem byteLength_reply (ok : Bool) (hp : p.Decimal) (hfields : ReplyFields header requestId)
    (hpayload : payload.all JsString.isPlain = true) :
    byteLength (replyTree header requestId ok payload).write ≤ payload.length + 4096 ∧
      payload.length ≤ byteLength (replyTree header requestId ok payload).write := by
  have hkeys : byteLength (quoted (text "kind")) = 6 ∧ byteLength (quoted (text "requestId")) = 11 ∧
      byteLength (quoted (text "ok")) = 4 ∧ byteLength (quoted (text "payload")) = 9 ∧
      byteLength (quoted (text "connectionId")) = 14 ∧ byteLength (quoted (text "direction")) = 11 ∧
      byteLength (quoted (text "seq")) = 5 ∧ byteLength (quoted (text "inventoryResult")) = 17 := by decide +kernel
  obtain ⟨hkind, hrequest, hok, hpay, hconnection, hdirection, hseq, hresult⟩ := hkeys
  have hid := byteLength_quoted_le requestId
  have hshort := (JsString.length_le_byteLength requestId).trans hfields.requestId.2
  obtain ⟨hplain, hlength⟩ := hexGroups_plain hfields.connectionId
  have hconnectionId := JsString.byteLength_quoted_of_plain hplain
  have hsum : [8, 4, 4, 4, 12].sum + [8, 4, 4, 4, 12].length = 37 := by decide
  have hbool : byteLength (JsString.ofString "true") = 4 ∧ byteLength (JsString.ofString "false") = 5 := by decide
  have hname : byteLength (quoted (text header.direction.name)) ≤ 22 := by cases header.direction <;> decide +kernel
  have hdigits : byteLength (decimalText header.seq) ≤ 25 := by
    have htext := p.numberText_length (p.ofInteger header.seq)
    have hall := p.numberText_plain (p.ofInteger header.seq)
    rw [hp.numberText _ hfields.seq.2] at htext hall
    rw [JsString.byteLength_of_plain hall]
    exact htext
  have hwritten := JsString.byteLength_quoted_of_plain hpayload
  unfold replyTree
  rw [byteLength_object writable_reply (List.cons_ne_nil _ _)]
  cases ok <;>
  · simp only [List.map_cons, List.map_nil, List.sum_cons, List.sum_nil, Tree.write, hkind, hrequest, hok, hpay,
      hconnection, hdirection, hseq, hresult, hwritten, hconnectionId, hbool]
    constructor <;> omega

theorem inventoryReply_eq (ok : Bool) (hp : p.Decimal) (hfields : ReplyFields header requestId) (value : Tree) :
    inventoryReply p header requestId ok value =
      if RELAY_MAX_FRAME_BYTES < byteLength (replyTree header requestId ok (payloadOf value)).write then
        relayProtocolError (text "outgoing frame exceeds the maximum size of " ++
          decimal RELAY_MAX_FRAME_BYTES ++ text " bytes")
      else .ok ((replyTree header requestId ok (payloadOf value)).write ++ [0x0A]) := by
  rw [inventoryReply, encodeObject, stringify_reply hp hfields.seq.2]

theorem fold_reply (hp : p.Decimal) (hseq : (header.seq : Int) ≤ MAX_SAFE_INTEGER) :
    (replyTree header requestId ok payload).fold (assigned p.number) =
      some (replyFrame p header requestId ok payload) := by
  rw [replyFrame_eq, integer, ← hp.number _ hseq]
  rfl

theorem isBase64_letter : ∀ v < 64, isBase64 (Base64.letter v) = true := by decide

theorem encode_parts (bytes : List UInt8) : ∃ letters pads, Base64.encode bytes = letters ++ pads ∧
    (∀ c ∈ letters, isBase64 c = true) ∧ (pads = [] ∨ pads = text "=" ∨ pads = text "==") ∧
    (bytes ≠ [] → letters ≠ []) := by
  induction bytes using Base64.encode.induct with
  | case1 => exact ⟨[], [], rfl, fun c hc => absurd hc List.not_mem_nil, .inl rfl, fun h => absurd rfl h⟩
  | case2 a =>
    have ha := a.toNat_lt
    refine ⟨[_, _], text "==", rfl, fun c hc => ?_, .inr (.inr rfl), fun _ => List.cons_ne_nil _ _⟩
    simp only [List.mem_cons, List.not_mem_nil, or_false] at hc
    rcases hc with rfl | rfl <;> exact isBase64_letter _ (by omega)
  | case3 a b =>
    have ha := a.toNat_lt
    have hb := b.toNat_lt
    refine ⟨[_, _, _], text "=", rfl, fun c hc => ?_, .inr (.inl rfl), fun _ => List.cons_ne_nil _ _⟩
    simp only [List.mem_cons, List.not_mem_nil, or_false] at hc
    rcases hc with rfl | rfl | rfl <;> exact isBase64_letter _ (by omega)
  | case4 a b c bytes ih =>
    have ha := a.toNat_lt
    have hb := b.toNat_lt
    have hc := c.toNat_lt
    obtain ⟨letters, pads, hencode, hletters, hpads, -⟩ := ih
    refine ⟨_ :: _ :: _ :: _ :: letters, pads, by rw [Base64.encode, hencode]; rfl, ?_, hpads,
      fun _ => List.cons_ne_nil _ _⟩
    simp only [List.forall_mem_cons]
    exact ⟨isBase64_letter _ (by omega), isBase64_letter _ (by omega), isBase64_letter _ (by omega),
      isBase64_letter _ (by omega), hletters⟩

theorem isPaddedBase64_payload (value : Tree) (hsome : value.write ≠ []) :
    isPaddedBase64 (payloadOf value) = true ∧ payloadOf value ≠ [] := by
  have hbytes : JsString.toUtf8 value.write ≠ [] := by
    intro hnone
    have hlength := JsString.length_toUtf8 value.write
    rw [hnone] at hlength
    have hpos := JsString.length_le_byteLength value.write
    exact hsome (List.eq_nil_of_length_eq_zero (by simpa [← hlength] using hpos))
  obtain ⟨letters, pads, hencode, hletters, hpads, hne⟩ := encode_parts (JsString.toUtf8 value.write)
  have hstop : ∀ c ∈ pads.head?, isBase64 c = false := by
    rcases hpads with rfl | rfl | rfl
    · simp
    · rintro c ⟨⟩
      decide
    · rintro c ⟨⟩
      decide
  have htake : (letters ++ pads).takeWhile isBase64 = letters := by
    rw [List.takeWhile_append_of_pos hletters]
    cases pads with
    | nil => simp
    | cons c pads => rw [List.takeWhile_cons_of_neg (by simp [hstop c rfl]), List.append_nil]
  have hdrop : (letters ++ pads).dropWhile isBase64 = pads := by
    rw [List.dropWhile_append_of_pos hletters]
    cases pads with
    | nil => rfl
    | cons c pads => rw [List.dropWhile_cons_of_neg (by simp [hstop c rfl])]
  have hfour : (payloadOf value).length % 4 = 0 := by
    rw [payloadOf, Base64.length_encode, Nat.mul_mod_left]
  rw [payloadOf] at hfour ⊢
  rw [isPaddedBase64, BASE64_PATTERN, hencode, htake, hdrop]
  rw [hencode] at hfour
  refine ⟨?_, List.append_ne_nil_of_left_ne_nil (hne hbytes) _⟩
  simp only [Bool.and_eq_true, Bool.or_eq_true, decide_eq_true_eq]
  exact ⟨⟨hne hbytes, by tauto⟩, hfour⟩

theorem field_reply : ∀ name ∈ ["kind", "requestId", "ok", "payload", "connectionId", "direction", "seq"],
    (field (replyFrame p header requestId ok payload) name).isSome = true := by
  intro name hname
  simp only [List.mem_cons, List.not_mem_nil, or_false] at hname
  rcases hname with rfl | rfl | rfl | rfl | rfl | rfl | rfl <;> rfl

theorem ownKeys_reply : (replyFrame p header requestId ok payload).ownKeys =
    ["kind", "requestId", "ok", "payload", "connectionId", "direction", "seq"].map text := by
  rw [replyFrame_eq, object, JsValue.ownKeys]
  simp only [List.map_cons, List.map_nil]
  rw [inKeyOrder_names]
  · rfl
  · have hnames := replyKeys_names
    simp only [List.forall_mem_cons, List.not_mem_nil, false_implies, implies_true, and_true] at hnames ⊢
    exact hnames

theorem exactKeys_reply (label : JsString) : assertExactKeys (replyFrame p header requestId ok payload)
    ["kind", "connectionId", "direction", "seq", "requestId", "ok", "payload"] label = .ok () := by
  have hknown : (["kind", "requestId", "ok", "payload", "connectionId", "direction", "seq"].map text).find?
      (fun key => key ∉ ["kind", "connectionId", "direction", "seq", "requestId", "ok", "payload"].map text) = none := by
    decide +kernel
  have hpresent : ["kind", "connectionId", "direction", "seq", "requestId", "ok", "payload"].find?
      (fun key => ((replyFrame p header requestId ok payload).get (text key)).isNone) = none := by
    refine List.find?_eq_none.mpr fun name hname => ?_
    have hsome : (field (replyFrame p header requestId ok payload) name).isSome = true :=
      field_reply name (by simp only [List.mem_cons] at hname ⊢; tauto)
    rw [Bool.not_eq_true, Option.isNone_eq_false_iff]
    exact hsome
  rw [assertExactKeys, exactKeys, ownKeys_reply, hknown]
  dsimp only
  rw [hpresent]

theorem str_string {s : JsString} (h : s ≠ []) (name : String) : str (some (JsValue.string s : JsValue ν)) name = .ok s := by
  cases s with
  | nil => exact absurd rfl h
  | cons c rest => rfl

theorem ok_bind {α β : Type} (a : α) (f : α → Except JsString β) : (Except.ok a >>= f) = f a := rfl

theorem headerFields_reply (hp : p.Decimal) (hfields : ReplyFields header requestId) :
    headerFields p (replyFrame p header requestId ok payload) = .ok header := by
  have hconnection : field (replyFrame p header requestId ok payload) "connectionId" =
      some (.string header.connectionId) := rfl
  have hdirection : field (replyFrame p header requestId ok payload) "direction" =
      some (constant header.direction.name) := rfl
  have hseq : field (replyFrame p header requestId ok payload) "seq" = some (.number (p.ofInteger header.seq)) := rfl
  have hsome : header.connectionId ≠ [] := by
    intro hnone
    have hpattern := hfields.connectionId
    rw [hnone] at hpattern
    exact absurd hpattern (by decide)
  have hid : connectionIdField (some (JsValue.string header.connectionId : JsValue ν)) = .ok header.connectionId := by
    rw [connectionIdField, patternField, str_string hsome, ok_bind, require, if_pos hfields.connectionId]
    rfl
  have hnamed : directionField (some (constant header.direction.name : JsValue ν)) = .ok header.direction := by
    cases header.direction
    · rfl
    · rw [directionField, if_neg (by simp only [isText, constant, RelayDirection.name]; decide +kernel),
        if_pos (by simp only [isText, constant, RelayDirection.name]; decide)]
  have hcounted : seqField p (some (.number (p.ofInteger header.seq))) = .ok header.seq := by
    have hwhole : wholeNumber p (some (.number (p.ofInteger header.seq))) = some (header.seq : Int) :=
      hp.integer _ hfields.seq.2
    rw [seqField, integerField, hwhole]
    have hone : (1 : Int) ≤ header.seq ∧ ∀ bound ∈ (none : Option Int), (header.seq : Int) ≤ bound :=
      ⟨by exact_mod_cast hfields.seq.1, by simp⟩
    simp only [if_pos hone]
    rfl
  rw [headerFields, hconnection, hdirection, hseq, hid, hnamed, hcounted]
  rfl

theorem parse_reply (hp : p.Decimal) (hfields : ReplyFields header requestId) (value : Tree) (hsome : value.write ≠ [])
    (hshort : byteLength (replyTree header requestId ok (payloadOf value)).write ≤ RELAY_MAX_FRAME_BYTES) (now : Int) :
    parseRelayFrame p now (replyTree header requestId ok (payloadOf value)).write =
      if (payloadOf value).length ≤ RELAY_MAX_TERMINAL_BYTES then
        .ok (.application header (.inventoryResult (object [("kind", constant "inventoryResult"),
          ("connectionId", .string header.connectionId), ("direction", constant header.direction.name),
          ("seq", integer p header.seq), ("requestId", .string requestId), ("ok", .bool ok),
          ("payload", .string (payloadOf value))])))
      else relayProtocolError (text "payload" ++ text " exceeds " ++ decimal RELAY_MAX_TERMINAL_BYTES ++ text " bytes") := by
  obtain ⟨hpadded, hpayload⟩ := isPaddedBase64_payload value hsome
  have hwritable : (replyTree header requestId ok (payloadOf value)).Writable := writable_reply
  have hread := ok_of_fold p.number (jsonText_write hwritable) (fold_reply hp hfields.seq.2)
  have hkind : field (replyFrame p header requestId ok (payloadOf value)) "kind" = some (constant "inventoryResult") := rfl
  have hok : field (replyFrame p header requestId ok (payloadOf value)) "ok" = some (.bool ok) := rfl
  have hrequest : field (replyFrame p header requestId ok (payloadOf value)) "requestId" = some (.string requestId) := rfl
  have hpay : field (replyFrame p header requestId ok (payloadOf value)) "payload" = some (.string (payloadOf value)) := rfl
  have hbytes : byteLength (payloadOf value) = (payloadOf value).length := JsString.byteLength_of_plain (payload_plain value)
  have hrequestId : boundedStr (some (JsValue.string requestId : JsValue ν)) "requestId" 128 = .ok requestId := by
    rw [boundedStr, str_string hfields.requestId.1, ok_bind, require, if_pos hfields.requestId.2]
    rfl
  have hbound : boundedBase64 (some (JsValue.string (payloadOf value) : JsValue ν)) "payload" RELAY_MAX_TERMINAL_BYTES =
      if (payloadOf value).length ≤ RELAY_MAX_TERMINAL_BYTES then .ok (payloadOf value)
      else relayProtocolError (text "payload" ++ text " exceeds " ++ decimal RELAY_MAX_TERMINAL_BYTES ++ text " bytes") := by
    rw [boundedBase64, boundedStr, str_string hpayload, ok_bind, require, hbytes]
    split_ifs
    · rw [ok_bind]
      change (require (isPaddedBase64 (payloadOf value) = true) _ >>= fun _ => _) = _
      rw [require, if_pos hpadded]
      rfl
    · rfl
  have hvalidate : validateInventoryFrame p (replyFrame p header requestId ok (payloadOf value)) (text "inventoryResult") =
      if (payloadOf value).length ≤ RELAY_MAX_TERMINAL_BYTES then
        .ok (.application header (.inventoryResult (object [("kind", constant "inventoryResult"),
          ("connectionId", .string header.connectionId), ("direction", constant header.direction.name),
          ("seq", integer p header.seq), ("requestId", .string requestId), ("ok", .bool ok),
          ("payload", .string (payloadOf value))])))
      else relayProtocolError (text "payload" ++ text " exceeds " ++ decimal RELAY_MAX_TERMINAL_BYTES ++ text " bytes") := by
    rw [validateInventoryFrame, if_neg (by decide +kernel), exactKeys_reply, hok, headerFields_reply hp hfields, hrequest,
      hpay, hrequestId, hbound]
    split_ifs <;> rfl
  rw [parseRelayFrame, if_neg (Nat.not_lt.mpr hshort), hread, ← hvalidate]
  rw [field] at hkind
  unfold replyFrame at hkind ⊢
  dsimp only
  rw [hkind]
  unfold validateFrame
  dsimp only
  simp only [constant]
  rw [if_neg (by decide +kernel), if_neg (by decide +kernel), if_neg (by decide +kernel), if_neg (by decide +kernel),
    if_neg (by decide +kernel), if_neg (by decide +kernel), if_neg (by decide +kernel), if_neg (by decide +kernel),
    if_neg (by decide +kernel), if_neg (by decide +kernel), if_neg (by decide +kernel), if_pos (by decide +kernel)]

end Text

section Answer
variable {p} {authorityId : JsString} {header : RelayHeader} {frame : InventoryRequest} {database : Inventory}
  {all : List InventoryItem}

theorem answerOf_reply (hp : p.Decimal) (hfields : ReplyFields header frame.requestId) (ok : Bool) (value : Tree)
    (hsome : value.write ≠ []) (now : Int) (line : JsString)
    (h : inventoryReply p header frame.requestId ok value = .ok line) :
    answerOf p now (.ok line) =
      if (payloadOf value).length ≤ RELAY_MAX_TERMINAL_BYTES then if ok then .page else .failure else .disconnected := by
  rw [inventoryReply_eq ok hp hfields] at h
  split_ifs at h with hlong
  · cases h
  obtain rfl := Except.ok.inj h
  rw [answerOf]
  simp only [List.dropLast_concat, parse_reply hp hfields value hsome (Nat.not_lt.mp hlong) now]
  by_cases hshort : (payloadOf value).length ≤ RELAY_MAX_TERMINAL_BYTES
  · have hok : (object [("kind", constant "inventoryResult"), ("connectionId", .string header.connectionId),
        ("direction", constant header.direction.name), ("seq", integer p header.seq),
        ("requestId", .string frame.requestId), ("ok", .bool ok),
        ("payload", (.string (payloadOf value) : JsValue ν))]).get (text "ok") = some (.bool ok) := by
      simp only [object, List.map_cons, List.map_nil, JsValue.get, JsValue.findOwn]
      rfl
    rw [if_pos hshort, if_pos hshort]
    dsimp only
    rw [hok, isTrue]
  · rw [if_neg hshort, if_neg hshort]
    rfl

theorem inventoryReply_fits (hp : p.Decimal) (hfields : ReplyFields header frame.requestId) (ok : Bool) (value : Tree)
    (hfits : (payloadOf value).length ≤ RELAY_MAX_TERMINAL_BYTES) :
    ∃ line, inventoryReply p header frame.requestId ok value = .ok line := by
  have hbytes := (byteLength_reply ok hp hfields (payload_plain value)).1
  have hlimits : RELAY_MAX_TERMINAL_BYTES = 8192 ∧ RELAY_MAX_FRAME_BYTES = 16384 := ⟨rfl, rfl⟩
  rw [inventoryReply_eq ok hp hfields, if_neg (by omega)]
  exact ⟨_, rfl⟩

theorem write_object_ne {members : List (JsString × Tree)} : (Tree.object members).write ≠ [] := List.cons_ne_nil _ _

/-- A page arrives just when its payload is within the bound of the peer's parser. -/
theorem answer_page_iff (hp : p.Decimal) (hfields : ReplyFields header frame.requestId)
    (hall : resourceItems frame.resource frame.includeEnded database = .ok all) (now : Int) :
    answerOf p now (handleInventory p authorityId header frame database) = .page ↔
      (payloadOf (pageTree authorityId frame (frame.page all))).length ≤ RELAY_MAX_TERMINAL_BYTES := by
  have hpage := answerOf_reply hp hfields true (pageTree authorityId frame (frame.page all))
    write_object_ne now
  rw [handleInventory, hall]
  simp only [ok_bind]
  cases hreply : inventoryReply p header frame.requestId true (pageTree authorityId frame (frame.page all)) with
  | ok line =>
    dsimp only
    rw [hpage line hreply, if_pos rfl]
    split_ifs with hfits
    · exact iff_of_true rfl hfits
    · exact iff_of_false (by simp) hfits
  | error message =>
    dsimp only
    refine iff_of_false (fun hanswer => ?_) fun hfits => ?_
    · cases hsecond : inventoryReply p header frame.requestId false (failureTree message) with
      | error _ =>
        rw [hsecond] at hanswer
        cases hanswer
      | ok line =>
        rw [hsecond, answerOf_reply hp hfields false _ write_object_ne now line hsecond] at hanswer
        simp only [Bool.false_eq_true, if_false] at hanswer
        split_ifs at hanswer
    · obtain ⟨line, hline⟩ := inventoryReply_fits hp hfields true _ hfits
      rw [hline] at hreply
      cases hreply

theorem answer_disconnected (hp : p.Decimal) (hfields : ReplyFields header frame.requestId)
    (hall : resourceItems frame.resource frame.includeEnded database = .ok all)
    (hlong : RELAY_MAX_TERMINAL_BYTES < (payloadOf (pageTree authorityId frame (frame.page all))).length)
    (hframe : (payloadOf (pageTree authorityId frame (frame.page all))).length + 4096 ≤ RELAY_MAX_FRAME_BYTES)
    (now : Int) : answerOf p now (handleInventory p authorityId header frame database) = .disconnected := by
  have hbytes := (byteLength_reply true hp hfields (payload_plain (pageTree authorityId frame (frame.page all)))).1
  have hreply := inventoryReply_eq true hp hfields (pageTree authorityId frame (frame.page all))
  rw [if_neg (by omega)] at hreply
  have hanswer := answerOf_reply hp hfields true (pageTree authorityId frame (frame.page all)) write_object_ne now _ hreply
  rw [handleInventory, hall]
  simp only [ok_bind, hreply]
  rw [hanswer, if_neg (Nat.not_le.mpr hlong)]

end Answer

end Wardroom.Federation
