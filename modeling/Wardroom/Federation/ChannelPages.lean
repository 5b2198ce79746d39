import Wardroom.Federation.ChannelResult
import Wardroom.Domain.Cursors
import Wardroom.Storage.Database

/-! # The pages of a channel's home

The home answers with a page that is bounded by a number of messages and by the
bytes of its JSON, and the other side reads the page off its frames.
-/

namespace Wardroom.Federation
open Wardroom.Library Wardroom.Library.JsonText Wardroom.Domain Wardroom.Storage

def MESSAGE_PAGE_LIMIT : Nat := 20
def MESSAGE_PAGE_BYTES : Nat := 65536
def MAX_BODY_BYTES : Nat := 65536

mutual

def treeOf : Json → Tree
  | .null => .null
  | .bool b => .bool b
  | .num t => .number (text t)
  | .str s => .string (text s)
  | .arr items => .array (treesOf items)
  | .obj ms => .object (membersOf ms)

def treesOf : List Json → List Tree
  | [] => []
  | item :: items => treeOf item :: treesOf items

def membersOf : List (String × Json) → List (JsString × Tree)
  | [] => []
  | (key, value) :: ms => (text key, treeOf value) :: membersOf ms

end

/-- A message with the row it is stored in. -/
abbrev Message := Change × Json

/-- The store of the home of some channels; the numbers in its messages have the text of numbers. -/
structure ChannelHome where
  db : Database
  numeric : ∀ message ∈ db.changes.sent, (treeOf message.2).Writable

/-- A text parameter of a query reaches SQLite as UTF-8. -/
def sqlText (s : JsString) : String := String.ofList (JsString.chars s)

def isFederatedPeerAdmitted (db : Database) (channelId peerAuthorityId : String) : Bool :=
  db.federationChannelAdmissions.rows.any fun a =>
    a.channelId = channelId && a.peerAuthorityId = peerAuthorityId && a.revokedAt.isNone

/-- The code and the message of an exception. -/
structure CommandFailure where
  code : JsString
  message : JsString

/-- `new Error(message)`. -/
def commandError {α : Type} (message : JsString) : Except CommandFailure α :=
  .error ⟨text "channelCommandFailed", message⟩

def storeError {α : Type} (code : JsString) : Except CommandFailure α := .error ⟨code, code⟩

def messagesAfter (db : Database) (channelId : String) (cursor : Nat) : List Message :=
  db.changes.sent.filter fun message => cursor < message.1.cursor && message.1.channelId = some channelId

def replayChannelMessages (db : Database) (afterCursor channelId : JsString) (limit : Nat) :
    Except CommandFailure (List Message) :=
  match CursorCodec.decode (sqlText afterCursor) with
  | none => storeError (text "invalidCursor")
  | some n =>
    if nonBlank channelId = false then storeError (text "invalidChannel")
    else .ok ((messagesAfter db (sqlText channelId) n).take limit)

def cursorText (n : Nat) : JsString := text (toString n)

structure MessagePage where
  cursor : JsString
  messages : List Tree
  hasMore : Bool

def MessagePage.tree (page : MessagePage) : Tree :=
  .object [(text "cursor", .string page.cursor), (text "messages", .array page.messages),
    (text "hasMore", .bool page.hasMore)]

def pageUpTo (page : List Message) (last : Message) (hasMore : Bool) : MessagePage :=
  ⟨cursorText last.1.cursor, page.map fun message => treeOf message.2, hasMore⟩

/-- The bytes of the JSON text of a page. -/
def MessagePage.bytes (page : MessagePage) : Nat := JsString.byteLength page.tree.write

/-- Messages are added up to the first that makes the page too long; the first message always goes in. -/
def fillPage : List Message → List Message → List Message
  | page, [] => page
  | page, change :: changes =>
    if page ≠ [] ∧ MESSAGE_PAGE_BYTES < (pageUpTo (page ++ [change]) change true).bytes then page
    else fillPage (page ++ [change]) changes

def channelMessagePage (changes : List Message) (afterCursor : JsString) : MessagePage :=
  let page := fillPage [] (changes.take MESSAGE_PAGE_LIMIT)
  match page.getLast? with
  | some last => pageUpTo page last (page.length < changes.length)
  | none => ⟨afterCursor, [], page.length < changes.length⟩

def requiredString (value : Option Tree) (field : String) (max : Nat) : Except CommandFailure JsString :=
  match value with
  | some (.string s) =>
    if nonBlank s ∧ s.byteLength ≤ max then .ok s else commandError (text "invalid " ++ text field)
  | _ => commandError (text "invalid " ++ text field)

def requireCommand (c : Prop) [Decidable c] (message : JsString) : Except CommandFailure Unit :=
  if c then .ok () else commandError message

def canonicalRemoteSession (peerAuthorityId localSessionId : JsString) : JsString :=
  text "federation:" ++ peerAuthorityId ++ text ":" ++ localSessionId

/-- The session exists, is not ended and has a role. -/
def remoteSessionActive (db : Database) (sessionId : String) : Bool :=
  (db.currentSession sessionId).any fun session => session.endedAt.isNone && session.role.isSome

/-- The `messages` operation. -/
def channelMessages (db : Database) (peer actorSessionId : JsString) (payload : Tree) :
    Except CommandFailure MessagePage := do
  requireCommand (remoteSessionActive db (sqlText actorSessionId) = true) (text "remote session is not active")
  let channelId ← requiredString (payload.get (text "channelId")) "channelId" 256
  requireCommand (db.isActiveMember (sqlText channelId) (sqlText actorSessionId) = true)
    (text "remote session is not an active channel member")
  requireCommand (isFederatedPeerAdmitted db (sqlText channelId) (sqlText peer) = true)
    (text "federation peer admission is not active")
  let afterCursor := match payload.get (text "afterCursor") with
    | some (.string s) => s
    | _ => text "0"
  let changes ← replayChannelMessages db afterCursor channelId (MESSAGE_PAGE_LIMIT + 1)
  return channelMessagePage changes afterCursor

/-- `prefix` is the visible name of the sender. -/
def stampRoomsProvenance (sender body : JsString) : JsString :=
  if body = sender ∨ (sender ++ text " ").isPrefixOf body = true then body else sender ++ text " " ++ body

/-- The body of a `send` operation, as it is stored. -/
def storedBody (sender : JsString) (payload : Tree) : Except CommandFailure JsString := do
  let body ← requiredString (payload.get (text "body")) "body" MAX_BODY_BYTES
  let stamped := stampRoomsProvenance sender body
  requireCommand (stamped.byteLength ≤ MAX_BODY_BYTES) (text "invalid body")
  return stamped

def CommandFailure.tree (failure : CommandFailure) : Tree :=
  .object [(text "code", .string failure.code), (text "message", .string failure.message)]

/-- The frames of a reply: that of a page which is too long is caught like any other exception. -/
def reply (requestId : JsString) (outcome : Except CommandFailure MessagePage) :
    Except JsString (List ChannelResult) :=
  match outcome.bind fun page =>
      match sendChannelResult requestId true page.tree with
      | .ok frames => .ok frames
      | .error message => commandError message with
  | .ok frames => .ok frames
  | .error failure => sendChannelResult requestId false failure.tree

def decodePayload (raw : List UInt8) : Except JsString Tree :=
  match parseText treeBuilder (JsString.ofUtf8 raw) with
  | .ok (.object members) => .ok (.object members)
  | .ok _ => .error (text "channel payload must be an object")
  | .error _ => .error (text "Unexpected token in JSON")

/-- A `messages` command of a peer, from its payload to the frames of the answer. -/
def handleMessages (db : Database) (peer requestId localSessionId : JsString) (raw : List UInt8) :
    Except JsString (List ChannelResult) := do
  let payload ← decodePayload raw
  reply requestId (channelMessages db peer (canonicalRemoteSession peer localSessionId) payload)

def messagesRequest (channelId afterCursor : JsString) : Tree :=
  .object [(text "channelId", .string channelId), (text "afterCursor", .string afterCursor)]

/-- What is read of an answer; the cursor stays where there is none. -/
def readPage (afterCursor : JsString) (value : Tree) : MessagePage where
  cursor := match value.get (text "cursor") with
    | some (.string s) => s
    | _ => afterCursor
  messages := match value.get (text "messages") with
    | some (.array elements) => elements
    | _ => []
  hasMore := match value.get (text "hasMore") with
    | some (.bool b) => b
    | _ => false

/-- What the other side makes of the frames of an answer. -/
def readReply (afterCursor : JsString) (frames : List ChannelResult) : Except JsString MessagePage :=
  match (ChannelResultAssembler.acceptAll (fun _ => none) frames).1 with
  | .error message => .error message
  | .ok none => .error (text "channel result is incomplete")
  | .ok (some result) =>
    if result.ok then .ok (readPage afterCursor result.value)
    else .error (match result.value.get (text "message") with
      | some (.string s) => s
      | _ => text "channel subscription failed")

/-- One request and its answer, from either side. -/
def askPage (home : ChannelHome) (peer requestId localSessionId channelId afterCursor : JsString) :
    Except JsString MessagePage := do
  let frames ← handleMessages home.db peer requestId localSessionId
    (JsString.toUtf8 (messagesRequest channelId afterCursor).write)
  readReply afterCursor frames

inductive PullEnd where
  | caughtUp
  | failed (message : JsString)
  | unfinished

/-- Ask for pages until one says that there is no more, at most so many times. -/
def pull (ask : JsString → Except JsString MessagePage) : Nat → JsString → List (JsString × MessagePage) × PullEnd
  | 0, _ => ([], .unfinished)
  | n + 1, afterCursor =>
    match ask afterCursor with
    | .error message => ([], .failed message)
    | .ok page =>
      if page.hasMore then
        let rest := pull ask n page.cursor
        ((afterCursor, page) :: rest.1, rest.2)
      else ([(afterCursor, page)], .caughtUp)

theorem sqlText_text (s : String) : sqlText (text s) = s := by
  rw [sqlText, text, JsString.chars_ofString, String.ofList_toList]

theorem decode_cursorText (n : Nat) : CursorCodec.decode (sqlText (cursorText n)) = some n := by
  rw [cursorText, sqlText_text]
  exact CursorCodec.decode_toString n

def Bounded (page : List Message) : Prop :=
  ∀ last ∈ page.getLast?, (pageUpTo page last true).bytes ≤ MESSAGE_PAGE_BYTES

theorem fillPage_spec : ∀ (changes page : List Message), ∃ k ≤ changes.length,
    fillPage page changes = page ++ changes.take k ∧ (page = [] → changes ≠ [] → 0 < k) ∧
      (0 < k → page ≠ [] ∨ 2 ≤ k → Bounded (page ++ changes.take k))
  | [], page => ⟨0, Nat.le_refl _, (List.append_nil page).symm, fun _ hne => absurd rfl hne,
      fun hpos => absurd hpos (Nat.lt_irrefl 0)⟩
  | change :: changes, page => by
    by_cases hstop : page ≠ [] ∧ MESSAGE_PAGE_BYTES < (pageUpTo (page ++ [change]) change true).bytes
    · refine ⟨0, Nat.zero_le _, ?_, fun hnil => absurd hnil hstop.1, fun hpos => absurd hpos (Nat.lt_irrefl 0)⟩
      rw [fillPage, if_pos hstop, List.take_zero, List.append_nil]
    · obtain ⟨k, hk, hfill, -, hbounded⟩ := fillPage_spec changes (page ++ [change])
      have htake : page ++ (change :: changes).take (k + 1) = page ++ [change] ++ changes.take k := by simp
      refine ⟨k + 1, Nat.succ_le_succ hk, ?_, fun _ _ => Nat.succ_pos k, fun _ hmore => ?_⟩
      · rw [fillPage, if_neg hstop, hfill, htake]
      · rw [htake]
        rcases Nat.eq_zero_or_pos k with rfl | hpos
        · have hpage : page ≠ [] := hmore.resolve_right (by omega)
          rw [List.take_zero, List.append_nil]
          intro last hlast
          rw [List.getLast?_concat] at hlast
          obtain rfl := Option.some.inj hlast
          exact Nat.not_lt.mp fun hlong => hstop ⟨hpage, hlong⟩
        · exact hbounded hpos (.inl (by simp))

section Bytes
open JsString (byteLength isPaired isPaired_cons isPaired_append isPaired_quoted byteLength_append_of_paired)

/-- The bytes of the messages of a page, with the commas between them. -/
def listBytes (messages : List Tree) : Nat := byteLength (commaSeparated (writeElements messages))

def beforeCursor : JsString := text "\x7b\"cursor\":"
def beforeMessages : JsString := text ",\"messages\":["
def beforeHasMore : JsString := text "],\"hasMore\":"

theorem write_page (page : MessagePage) :
    page.tree.write = beforeCursor ++ (JsString.quoted page.cursor ++ (beforeMessages ++
      (commaSeparated (writeElements page.messages) ++ (beforeHasMore ++
        ((Tree.bool page.hasMore).write ++ [closeBrace]))))) := by
  have hcursor : beforeCursor = openBrace :: (JsString.quoted (text "cursor") ++ [colon]) := by decide
  have hmessages : beforeMessages = comma :: (JsString.quoted (text "messages") ++ [colon, openBracket]) := by decide
  have hmore : beforeHasMore = closeBracket :: comma :: (JsString.quoted (text "hasMore") ++ [colon]) := by decide
  rw [hcursor, hmessages, hmore]
  obtain ⟨cursor, messages, more⟩ := page
  cases more <;> simp [MessagePage.tree, Tree.write, writeMembers, commaSeparated]

theorem bytes_eq (page : MessagePage) (h : ElementsWritable page.messages) :
    page.bytes = byteLength (JsString.quoted page.cursor) + listBytes page.messages +
      (if page.hasMore then 40 else 41) := by
  have hlast (b : Bool) : byteLength ((Tree.bool b).write ++ [closeBrace]) = if b then 5 else 6 := by
    cases b <;> decide
  rw [MessagePage.bytes, write_page, byteLength_append_of_paired (by decide),
    byteLength_append_of_paired (isPaired_quoted _), byteLength_append_of_paired (by decide),
    byteLength_append_of_paired (isPaired_elements _ h), byteLength_append_of_paired (by decide), hlast,
    listBytes]
  have hfixed : byteLength beforeCursor = 10 ∧ byteLength beforeMessages = 13 ∧ byteLength beforeHasMore = 12 := by
    decide
  obtain ⟨hcursor, hmessages, hmore⟩ := hfixed
  rw [hcursor, hmessages, hmore]
  cases page.hasMore <;> simp <;> omega

theorem write_le_listBytes {tree : Tree} : ∀ {messages : List Tree}, ElementsWritable messages → tree ∈ messages →
    byteLength tree.write ≤ listBytes messages
  | [], _, hmem => absurd hmem List.not_mem_nil
  | [only], _, hmem => by
    obtain rfl := List.mem_singleton.mp hmem
    exact Nat.le_refl _
  | first :: next :: rest, h, hmem => by
    have hsplit : listBytes (first :: next :: rest) =
        byteLength first.write + byteLength (comma :: commaSeparated (writeElements (next :: rest))) :=
      byteLength_append_of_paired (isPaired_write first h.1) _
    have hcomma : byteLength (comma :: commaSeparated (writeElements (next :: rest))) =
        1 + listBytes (next :: rest) := byteLength_append_of_paired (a := [comma]) (by decide) _
    rcases List.mem_cons.mp hmem with rfl | hrest
    · omega
    · have hle := write_le_listBytes h.2 hrest
      omega

theorem listBytes_singleton (tree : Tree) : listBytes [tree] = byteLength tree.write := rfl

theorem toNat_of_mem_cursorText {n : Nat} {c : CodeUnit} (h : c ∈ cursorText n) :
    0x30 ≤ c.toNat ∧ c.toNat ≤ 0x39 := by
  rw [cursorText, text, JsString.ofString, Nat.toString_eq_ofList_toDigits, String.toList_ofList,
    List.mem_flatMap] at h
  obtain ⟨d, hd, hc⟩ := h
  have hdigit : d.isDigit = true := Nat.isDigit_of_mem_toDigits (by decide) (by decide) hd
  have hrange : 0x30 ≤ d.toNat ∧ d.toNat ≤ 0x39 := by
    simp only [Char.isDigit, Bool.and_eq_true, decide_eq_true_eq, ge_iff_le, UInt32.le_iff_toNat_le] at hdigit
    exact hdigit
  rw [JsString.ofChar, if_pos (by omega), List.mem_singleton] at hc
  rw [hc, Nat.toUInt16, UInt16.toNat_ofNat']
  omega

theorem isPlain_cursorText (n : Nat) : (cursorText n).all JsString.isPlain = true := by
  rw [List.all_eq_true]
  intro c hc
  obtain ⟨hlow, hhigh⟩ := toNat_of_mem_cursorText hc
  have hne (d : CodeUnit) (hd : d.toNat < 0x30 ∨ 0x39 < d.toNat) : c ≠ d := by
    rintro rfl
    omega
  simp only [JsString.isPlain, Bool.and_eq_true, decide_eq_true_eq, UInt16.le_iff_toNat_le,
    UInt16.lt_iff_toNat_lt, UInt16.reduceToNat]
  exact ⟨⟨⟨by omega, by omega⟩, hne _ (by decide)⟩, hne _ (by decide)⟩

theorem length_cursorText (n : Nat) : (cursorText n).length = n.repr.length := by
  have hall : ∀ c ∈ Nat.toDigits 10 n, (JsString.ofChar c).length = 1 := by
    intro c hc
    have hdigit : c.isDigit = true := Nat.isDigit_of_mem_toDigits (by decide) (by decide) hc
    have hrange : c.toNat ≤ 0x39 := by
      simp only [Char.isDigit, Bool.and_eq_true, decide_eq_true_eq, ge_iff_le, UInt32.le_iff_toNat_le] at hdigit
      exact hdigit.2
    rw [JsString.ofChar, if_pos (by omega), List.length_singleton]
  rw [cursorText, text, JsString.ofString, Nat.repr_eq_ofList_toDigits, Nat.toString_eq_ofList_toDigits,
    String.toList_ofList, String.length_ofList, List.length_flatMap, List.map_congr_left hall, List.map_const',
    List.sum_replicate_nat, Nat.mul_one]

theorem cursor_bytes_le {a b : Nat} (h : a ≤ b) :
    byteLength (JsString.quoted (cursorText a)) ≤ byteLength (JsString.quoted (cursorText b)) := by
  rw [JsString.byteLength_quoted_of_plain (isPlain_cursorText a),
    JsString.byteLength_quoted_of_plain (isPlain_cursorText b), length_cursorText, length_cursorText]
  refine Nat.add_le_add_right ?_ 2
  rw [Nat.length_repr_le_iff Nat.length_repr_pos]
  exact Nat.lt_of_le_of_lt h ((Nat.length_repr_le_iff Nat.length_repr_pos).mp (Nat.le_refl _))

theorem bytes_single_le {page : List Message} {message last : Message} (more : Bool)
    (hwritable : ElementsWritable (page.map fun m => treeOf m.2)) (hmem : message ∈ page)
    (hcursor : message.1.cursor ≤ last.1.cursor) :
    (pageUpTo [message] message more).bytes ≤ (pageUpTo page last true).bytes + 1 := by
  have hmember : treeOf message.2 ∈ page.map fun m => treeOf m.2 :=
    List.mem_map_of_mem (f := fun m : Message => treeOf m.2) hmem
  have hlist := write_le_listBytes hwritable hmember
  have hcursors := cursor_bytes_le hcursor
  have hsingle : ElementsWritable [treeOf message.2] := ⟨elementsWritable_iff.mp hwritable _ hmember, trivial⟩
  have hone := bytes_eq (pageUpTo [message] message more) hsingle
  have hall := bytes_eq (pageUpTo page last true) hwritable
  change _ = _ + listBytes [treeOf message.2] + (if more then 40 else 41) at hone
  change _ = byteLength (JsString.quoted (cursorText last.1.cursor)) +
    listBytes (page.map fun m => treeOf m.2) + 40 at hall
  rw [listBytes_singleton] at hone
  change _ = byteLength (JsString.quoted (cursorText message.1.cursor)) + _ + _ at hone
  have hflag : (if more = true then 40 else 41) ≤ 41 := by cases more <;> decide
  omega

end Bytes

structure Admitted (db : Database) (peer localSessionId channelId : JsString) : Prop where
  active : remoteSessionActive db (sqlText (canonicalRemoteSession peer localSessionId)) = true
  named : nonBlank channelId = true ∧ channelId.byteLength ≤ 256
  member : db.isActiveMember (sqlText channelId) (sqlText (canonicalRemoteSession peer localSessionId)) = true
  admitted : isFederatedPeerAdmitted db (sqlText channelId) (sqlText peer) = true

section Pages
variable {home : ChannelHome} {peer requestId localSessionId channelId : JsString}

theorem channelMessages_admitted (h : Admitted home.db peer localSessionId channelId) (cursor : Nat) :
    channelMessages home.db peer (canonicalRemoteSession peer localSessionId)
        (messagesRequest channelId (cursorText cursor)) =
      .ok (channelMessagePage ((messagesAfter home.db (sqlText channelId) cursor).take (MESSAGE_PAGE_LIMIT + 1))
        (cursorText cursor)) := by
  have hchannel : (messagesRequest channelId (cursorText cursor)).get (text "channelId") =
      some (.string channelId) := rfl
  have hcursor : (messagesRequest channelId (cursorText cursor)).get (text "afterCursor") =
      some (.string (cursorText cursor)) := rfl
  have hreplay : replayChannelMessages home.db (cursorText cursor) channelId (MESSAGE_PAGE_LIMIT + 1) =
      .ok ((messagesAfter home.db (sqlText channelId) cursor).take (MESSAGE_PAGE_LIMIT + 1)) := by
    rw [replayChannelMessages, decode_cursorText]
    exact if_neg (by simp [h.named.1])
  have hactive : ∀ message, requireCommand (remoteSessionActive home.db
      (sqlText (canonicalRemoteSession peer localSessionId)) = true) message = .ok () := fun _ => if_pos h.active
  have hnamed : requiredString (some (.string channelId)) "channelId" 256 = .ok channelId := if_pos h.named
  have hmember : ∀ message, requireCommand (home.db.isActiveMember (sqlText channelId)
      (sqlText (canonicalRemoteSession peer localSessionId)) = true) message = .ok () := fun _ => if_pos h.member
  have hadmitted : ∀ message, requireCommand (isFederatedPeerAdmitted home.db (sqlText channelId)
      (sqlText peer) = true) message = .ok () := fun _ => if_pos h.admitted
  unfold channelMessages
  rw [hactive, hchannel, hnamed, hcursor]
  simp only [bind, Except.bind, hmember, hadmitted, hreplay]
  rfl

theorem read_page (afterCursor : JsString) (page : MessagePage) : readPage afterCursor page.tree = page := by
  rfl

theorem sendChannelResult_eq {ok : Bool} {value : Tree} (h : JsString.byteLength value.write ≤ MAX_RESULT_BYTES) :
    ∃ frames, sendChannelResult requestId ok value = .ok frames := by
  refine ⟨_, if_neg ?_⟩
  rw [JsString.length_toUtf8]
  exact Nat.not_lt.mpr h

def tooLong : JsString := text "channel result exceeds " ++ decimal MAX_RESULT_BYTES ++ text " bytes"

theorem sendChannelResult_tooLong {ok : Bool} {value : Tree}
    (h : ¬JsString.byteLength value.write ≤ MAX_RESULT_BYTES) :
    sendChannelResult requestId ok value = .error tooLong := by
  refine if_pos ?_
  rw [JsString.length_toUtf8]
  exact Nat.not_le.mp h

theorem handleMessages_request (db : Database) (channelId afterCursor : JsString) :
    handleMessages db peer requestId localSessionId (JsString.toUtf8 (messagesRequest channelId afterCursor).write) =
      reply requestId (channelMessages db peer (canonicalRemoteSession peer localSessionId)
        (messagesRequest channelId afterCursor)) := by
  have hrequest : (messagesRequest channelId afterCursor).Writable := ⟨trivial, trivial, trivial⟩
  have hdecode : decodePayload (JsString.toUtf8 (messagesRequest channelId afterCursor).write) =
      .ok (messagesRequest channelId afterCursor) := by
    rw [decodePayload, ChannelResultAssembler.parseText_sent hrequest]
    rfl
  rw [handleMessages, hdecode]
  rfl

theorem readReply_page {page : MessagePage} (hwritable : page.tree.Writable) (hfits : page.bytes ≤ MAX_RESULT_BYTES)
    (afterCursor : JsString) :
    (do readReply afterCursor (← reply requestId (.ok page))) = .ok page := by
  obtain ⟨frames, hframes⟩ : ∃ frames, sendChannelResult requestId true page.tree = .ok frames :=
    sendChannelResult_eq hfits
  have hreply : reply requestId (.ok page) = .ok frames := by
    simp only [reply, Except.bind, hframes]
  have haccept := ChannelResultAssembler.acceptAll_sent (a := fun _ => none) rfl hwritable hframes
  rw [hreply]
  simp only [bind, Except.bind, readReply, haccept, read_page, if_true]

theorem readReply_failure {failure : CommandFailure} {frames : List ChannelResult}
    (h : sendChannelResult requestId false failure.tree = .ok frames) (afterCursor : JsString) :
    readReply afterCursor frames = .error failure.message := by
  have hobject : failure.tree.Writable := ⟨trivial, trivial, trivial⟩
  have haccept := ChannelResultAssembler.acceptAll_sent (a := fun _ => none) rfl hobject h
  simp only [readReply, haccept]
  rfl

theorem readReply_tooLong {page : MessagePage} (hlong : ¬page.bytes ≤ MAX_RESULT_BYTES) (afterCursor : JsString) :
    (do readReply afterCursor (← reply requestId (.ok page))) = .error tooLong := by
  have hfailure : JsString.byteLength
      (CommandFailure.tree ⟨text "channelCommandFailed", tooLong⟩).write ≤ MAX_RESULT_BYTES := by decide
  obtain ⟨frames, hframes⟩ : ∃ frames,
      sendChannelResult requestId false (CommandFailure.tree ⟨text "channelCommandFailed", tooLong⟩) = .ok frames :=
    sendChannelResult_eq hfailure
  have hreply : reply requestId (.ok page) = .ok frames := by
    simp only [reply, Except.bind, sendChannelResult_tooLong hlong, commandError]
    exact hframes
  rw [hreply]
  exact readReply_failure hframes afterCursor

theorem askPage_admitted (h : Admitted home.db peer localSessionId channelId) (cursor : Nat)
    {page : MessagePage} (hpage : page = channelMessagePage
      ((messagesAfter home.db (sqlText channelId) cursor).take (MESSAGE_PAGE_LIMIT + 1)) (cursorText cursor))
    (hwritable : page.tree.Writable) :
    askPage home peer requestId localSessionId channelId (cursorText cursor) =
      if page.bytes ≤ MAX_RESULT_BYTES then .ok page else .error tooLong := by
  rw [askPage, handleMessages_request, channelMessages_admitted h, ← hpage]
  by_cases hfits : page.bytes ≤ MAX_RESULT_BYTES
  · rw [if_pos hfits]
    exact readReply_page hwritable hfits _
  · rw [if_neg hfits]
    exact readReply_tooLong hfits _

end Pages

end Wardroom.Federation
