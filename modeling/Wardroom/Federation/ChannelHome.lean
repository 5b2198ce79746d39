import Wardroom.Federation.ChannelPages

/-! # Pulling the messages of a channel from its home

The other side asks again after the cursor of the page it was given.
-/

namespace Wardroom.Federation
open Wardroom.Library Wardroom.Library.JsonText Wardroom.Domain Wardroom.Storage

variable {messages : List Message}

theorem page_front (hne : messages ≠ []) (afterCursor : JsString) :
    ∃ k last, 0 < k ∧ k ≤ messages.length ∧ (messages.take k).getLast? = some last ∧
      channelMessagePage (messages.take (MESSAGE_PAGE_LIMIT + 1)) afterCursor =
        pageUpTo (messages.take k) last (k < messages.length) ∧
      (2 ≤ k → Bounded (messages.take k)) := by
  have htake : (messages.take (MESSAGE_PAGE_LIMIT + 1)).take MESSAGE_PAGE_LIMIT =
      messages.take MESSAGE_PAGE_LIMIT := by rw [List.take_take, Nat.min_eq_left (Nat.le_succ _)]
  obtain ⟨k, hk, hfill, hpos, hbounded⟩ := fillPage_spec (messages.take MESSAGE_PAGE_LIMIT) []
  rw [List.length_take] at hk
  rw [List.nil_append, List.take_take, Nat.min_eq_left (by omega)] at hfill hbounded
  have hpos := hpos rfl (by simpa [MESSAGE_PAGE_LIMIT] using hne)
  have hfront : messages.take k ≠ [] := by
    rw [← List.length_pos_iff_ne_nil, List.length_take]
    omega
  obtain ⟨last, hlast⟩ : ∃ last, (messages.take k).getLast? = some last :=
    ⟨_, List.getLast?_eq_some_getLast hfront⟩
  refine ⟨k, last, hpos, by omega, hlast, ?_, fun htwo => hbounded hpos (.inr htwo)⟩
  have hmore : ((messages.take k).length < (messages.take (MESSAGE_PAGE_LIMIT + 1)).length) ↔ k < messages.length := by
    rw [List.length_take, List.length_take]
    omega
  unfold channelMessagePage
  rw [htake, hfill]
  simp only [hlast, hmore]

theorem ordered_sent (db : Database) : db.changes.sent.Pairwise fun a b => a.1.cursor < b.1.cursor := by
  refine List.Pairwise.filterMap _ ?_ db.changes.ordered
  intro a b hab x hx y hy
  obtain ⟨_, _, rfl⟩ := Option.map_eq_some_iff.mp hx
  obtain ⟨_, _, rfl⟩ := Option.map_eq_some_iff.mp hy
  exact hab

theorem ordered_messagesAfter (db : Database) (channelId : String) (cursor : Nat) :
    (messagesAfter db channelId cursor).Pairwise fun a b => a.1.cursor < b.1.cursor :=
  (ordered_sent db).filter _

variable {db : Database}

theorem cursor_lt_of_mem {channelId : String} {cursor : Nat} {message : Message}
    (h : message ∈ messagesAfter db channelId cursor) : cursor < message.1.cursor := by
  have hkept := (List.mem_filter.mp h).2
  rw [Bool.and_eq_true, decide_eq_true_eq] at hkept
  exact hkept.1

variable {last : Message}

theorem messagesAfter_of_split {channelId : String} {cursor : Nat} {front rest : List Message}
    (h : messagesAfter db channelId cursor = front ++ last :: rest) :
    messagesAfter db channelId last.1.cursor = rest := by
  have hordered := ordered_messagesAfter db channelId cursor
  have hlater := cursor_lt_of_mem (h ▸ List.mem_append_right front List.mem_cons_self : last ∈ messagesAfter _ _ cursor)
  have hagain : messagesAfter db channelId last.1.cursor =
      (messagesAfter db channelId cursor).filter fun message => last.1.cursor < message.1.cursor := by
    rw [messagesAfter, messagesAfter, List.filter_filter]
    refine List.filter_congr fun message _ => ?_
    by_cases hlt : last.1.cursor < message.1.cursor
    · have hcursor : cursor < message.1.cursor := by omega
      simp [hlt, hcursor]
    · simp [hlt]
  rw [h, List.pairwise_append, List.pairwise_cons] at hordered
  obtain ⟨-, ⟨hrest, -⟩, hfront⟩ := hordered
  rw [hagain, h, List.filter_append, List.filter_cons_of_neg (by simp)]
  have hnone : (front.filter fun message => last.1.cursor < message.1.cursor) = [] := by
    rw [List.filter_eq_nil_iff]
    intro message hmem
    have := hfront message hmem last List.mem_cons_self
    simp only [decide_eq_true_eq]
    omega
  have hall : (rest.filter fun message => last.1.cursor < message.1.cursor) = rest := by
    rw [List.filter_eq_self]
    intro message hmem
    exact decide_eq_true (hrest message hmem)
  rw [hnone, hall, List.nil_append]

theorem messagesAfter_last {channelId : String} {cursor k : Nat}
    (hlast : ((messagesAfter db channelId cursor).take k).getLast? = some last) :
    messagesAfter db channelId last.1.cursor = (messagesAfter db channelId cursor).drop k := by
  obtain ⟨front, hfront⟩ := List.getLast?_eq_some_iff.mp hlast
  have hsplit : messagesAfter db channelId cursor =
      front ++ last :: (messagesAfter db channelId cursor).drop k := by
    rw [← List.singleton_append, ← List.append_assoc, ← hfront, List.take_append_drop]
  exact messagesAfter_of_split hsplit

theorem cursor_le_last (hordered : messages.Pairwise fun a b => a.1.cursor < b.1.cursor)
    {message last : Message} (hlast : messages.getLast? = some last) (hmem : message ∈ messages) :
    message.1.cursor ≤ last.1.cursor := by
  obtain ⟨front, rfl⟩ := List.getLast?_eq_some_iff.mp hlast
  rw [List.pairwise_append] at hordered
  rcases List.mem_append.mp hmem with hfront | hone
  · exact Nat.le_of_lt (hordered.2.2 message hfront last List.mem_cons_self)
  · rw [List.mem_singleton.mp hone]

/-- A pull has told of every message after its cursor once and in order, and every page but the last
has moved the cursor on. -/
structure Lossless (db : Database) (channelId : String) (cursor : Nat)
    (pulled : List (JsString × MessagePage) × PullEnd) : Prop where
  caughtUp : pulled.2 = .caughtUp
  messages : (pulled.1.flatMap fun asked => asked.2.messages) =
    (messagesAfter db channelId cursor).map fun message => treeOf message.2
  advances : ∀ asked ∈ pulled.1, asked.2.hasMore = true →
    ∃ before after, CursorCodec.decode (sqlText asked.1) = some before ∧
      CursorCodec.decode (sqlText asked.2.cursor) = some after ∧ before < after

/-- The message can be sent on a page of its own. -/
def Fits (db : Database) (channelId : String) (message : Message) : Prop :=
  (pageUpTo [message] message (messagesAfter db channelId message.1.cursor ≠ [])).bytes ≤ MAX_RESULT_BYTES

theorem writable_messages (home : ChannelHome)
    (h : ∀ message ∈ messages, message ∈ home.db.changes.sent) :
    ElementsWritable (messages.map fun message => treeOf message.2) := by
  rw [elementsWritable_iff]
  intro tree htree
  obtain ⟨message, hmem, rfl⟩ := List.mem_map.mp htree
  exact home.numeric message (h message hmem)

section Pulls
variable {home : ChannelHome} {peer requestId localSessionId channelId : JsString} {cursor : Nat}

theorem mem_sent_of_messagesAfter {channelId : String} {message : Message}
    (h : message ∈ messagesAfter db channelId cursor) : message ∈ db.changes.sent := (List.mem_filter.mp h).1

theorem askPage_nil (h : Admitted home.db peer localSessionId channelId) (hcursor : cursor < 2 ^ 63)
    (hnil : messagesAfter home.db (sqlText channelId) cursor = []) :
    askPage home peer requestId localSessionId channelId (cursorText cursor) =
      .ok ⟨cursorText cursor, [], false⟩ := by
  have hpage : (⟨cursorText cursor, [], false⟩ : MessagePage) = channelMessagePage
      ((messagesAfter home.db (sqlText channelId) cursor).take (MESSAGE_PAGE_LIMIT + 1)) (cursorText cursor) := by
    rw [hnil]
    rfl
  have hlength : (cursorText cursor).length ≤ 19 := by
    rw [length_cursorText, Nat.length_repr_le_iff (by decide)]
    omega
  have hbytes : (⟨cursorText cursor, [], false⟩ : MessagePage).bytes ≤ MAX_RESULT_BYTES := by
    have hempty : ElementsWritable (MessagePage.mk (cursorText cursor) [] false).messages := trivial
    have hcount := bytes_eq _ hempty
    rw [JsString.byteLength_quoted_of_plain (isPlain_cursorText cursor)] at hcount
    change _ = (cursorText cursor).length + 2 + 0 + 41 at hcount
    unfold MAX_RESULT_BYTES
    omega
  rw [askPage_admitted h cursor hpage ⟨trivial, trivial, trivial, trivial⟩, if_pos hbytes]

theorem askPage_front (h : Admitted home.db peer localSessionId channelId)
    (hne : messagesAfter home.db (sqlText channelId) cursor ≠ []) :
    ∃ k last, 0 < k ∧ k ≤ (messagesAfter home.db (sqlText channelId) cursor).length ∧
      ((messagesAfter home.db (sqlText channelId) cursor).take k).getLast? = some last ∧
      (2 ≤ k → Bounded ((messagesAfter home.db (sqlText channelId) cursor).take k)) ∧
      askPage home peer requestId localSessionId channelId (cursorText cursor) =
        if (pageUpTo ((messagesAfter home.db (sqlText channelId) cursor).take k) last
            (k < (messagesAfter home.db (sqlText channelId) cursor).length)).bytes ≤ MAX_RESULT_BYTES
        then .ok (pageUpTo ((messagesAfter home.db (sqlText channelId) cursor).take k) last
          (k < (messagesAfter home.db (sqlText channelId) cursor).length))
        else .error tooLong := by
  obtain ⟨k, last, hpos, hk, hlast, hpage, hbounded⟩ := page_front hne (cursorText cursor)
  have hmessages : ElementsWritable
      (((messagesAfter home.db (sqlText channelId) cursor).take k).map fun message => treeOf message.2) :=
    writable_messages home fun message hmem => mem_sent_of_messagesAfter (List.mem_of_mem_take hmem)
  exact ⟨k, last, hpos, hk, hlast, hbounded,
    askPage_admitted h cursor hpage.symm ⟨trivial, hmessages, trivial, trivial⟩⟩

theorem bytes_flag_le {page : List Message} (more : Bool)
    (hwritable : ElementsWritable (page.map fun message => treeOf message.2)) :
    (pageUpTo page last more).bytes ≤ (pageUpTo page last true).bytes + 1 := by
  have hany := bytes_eq (pageUpTo page last more) hwritable
  have htrue := bytes_eq (pageUpTo page last true) hwritable
  cases more with
  | true => exact Nat.le_succ _
  | false =>
    change _ = JsString.byteLength (JsString.quoted (cursorText last.1.cursor)) +
      listBytes (page.map fun message => treeOf message.2) + 41 at hany
    change _ = JsString.byteLength (JsString.quoted (cursorText last.1.cursor)) +
      listBytes (page.map fun message => treeOf message.2) + 40 at htrue
    omega

theorem front_fits_iff {k : Nat} (hpos : 0 < k)
    (hlast : ((messagesAfter home.db (sqlText channelId) cursor).take k).getLast? = some last)
    (hbounded : 2 ≤ k → Bounded ((messagesAfter home.db (sqlText channelId) cursor).take k)) :
    (pageUpTo ((messagesAfter home.db (sqlText channelId) cursor).take k) last
        (k < (messagesAfter home.db (sqlText channelId) cursor).length)).bytes ≤ MAX_RESULT_BYTES ↔
      ∀ message ∈ (messagesAfter home.db (sqlText channelId) cursor).take k,
        Fits home.db (sqlText channelId) message := by
  have hrest := messagesAfter_last hlast
  have hordered := (ordered_messagesAfter home.db (sqlText channelId) cursor).sublist (List.take_sublist k _)
  have hwritable : ElementsWritable
      (((messagesAfter home.db (sqlText channelId) cursor).take k).map fun message => treeOf message.2) :=
    writable_messages home fun message hmem => mem_sent_of_messagesAfter (List.mem_of_mem_take hmem)
  by_cases hone : k = 1
  · subst hone
    have hfront : (messagesAfter home.db (sqlText channelId) cursor).take 1 = [last] := by
      obtain ⟨front, hfront⟩ := List.getLast?_eq_some_iff.mp hlast
      have hlength := congrArg List.length hfront
      rw [List.length_take, List.length_append, List.length_singleton] at hlength
      rw [hfront, List.length_eq_zero_iff.mp (by omega : front.length = 0), List.nil_append]
    have hmore : (messagesAfter home.db (sqlText channelId) last.1.cursor ≠ []) ↔
        1 < (messagesAfter home.db (sqlText channelId) cursor).length := by
      rw [hrest, ← List.length_pos_iff_ne_nil, List.length_drop]
      omega
    rw [hfront, List.forall_mem_singleton, Fits]
    simp only [hmore]
  · have hbound := hbounded (by omega) last hlast
    unfold MESSAGE_PAGE_BYTES at hbound
    unfold Fits MAX_RESULT_BYTES
    constructor
    · intro _ message hmem
      have hsingle := bytes_single_le (messagesAfter home.db (sqlText channelId) message.1.cursor ≠ [])
        hwritable hmem (cursor_le_last hordered hlast hmem)
      omega
    · intro _
      have hflag : (pageUpTo ((messagesAfter home.db (sqlText channelId) cursor).take k) last
          (k < (messagesAfter home.db (sqlText channelId) cursor).length)).bytes ≤
          (pageUpTo ((messagesAfter home.db (sqlText channelId) cursor).take k) last true).bytes + 1 :=
        bytes_flag_le _ hwritable
      omega

theorem fits_of_caughtUp (h : Admitted home.db peer localSessionId channelId) (n : Nat) :
    ∀ cursor, (pull (askPage home peer requestId localSessionId channelId) n (cursorText cursor)).2 = .caughtUp →
      ∀ message ∈ messagesAfter home.db (sqlText channelId) cursor, Fits home.db (sqlText channelId) message := by
  induction n with
  | zero =>
    intro cursor hend
    cases hend
  | succ n ih =>
    intro cursor hend
    by_cases hne : messagesAfter home.db (sqlText channelId) cursor = []
    · rw [hne]
      intro message hmem
      cases hmem
    obtain ⟨k, last, hpos, hk, hlast, hbounded, hask⟩ := @askPage_front _ _ requestId _ _ _ h hne
    have hiff := front_fits_iff hpos hlast hbounded
    by_cases hfits : (pageUpTo ((messagesAfter home.db (sqlText channelId) cursor).take k) last
        (k < (messagesAfter home.db (sqlText channelId) cursor).length)).bytes ≤ MAX_RESULT_BYTES
    · rw [if_pos hfits] at hask
      have hfront := hiff.mp hfits
      rw [← List.take_append_drop k (messagesAfter home.db (sqlText channelId) cursor)]
      intro message hmem
      rcases List.mem_append.mp hmem with hmem | hmem
      · exact hfront message hmem
      · have hmore : k < (messagesAfter home.db (sqlText channelId) cursor).length := by
          have hlength := List.length_pos_of_mem hmem
          rw [List.length_drop] at hlength
          omega
        rw [pull, hask] at hend
        simp only [pageUpTo, decide_eq_true hmore, if_true] at hend
        exact ih last.1.cursor hend message (by rw [messagesAfter_last hlast]; exact hmem)
    · rw [if_neg hfits] at hask
      rw [pull, hask] at hend
      cases hend

theorem lossless_nil {channelId : String} (hnil : messagesAfter db channelId cursor = []) :
    Lossless db channelId cursor
      ([(cursorText cursor, ⟨cursorText cursor, [], false⟩)], .caughtUp) where
  caughtUp := rfl
  messages := by
    rw [hnil]
    rfl
  advances := by
    intro asked hmem hmore
    rw [List.mem_singleton.mp hmem] at hmore
    cases hmore

theorem lossless_last {channelId : String} :
    Lossless db channelId cursor
      ([(cursorText cursor, pageUpTo (messagesAfter db channelId cursor) last false)], .caughtUp) where
  caughtUp := rfl
  messages := List.append_nil _
  advances := by
    intro asked hmem hmore
    rw [List.mem_singleton.mp hmem] at hmore
    cases hmore

theorem lossless_cons {channelId : String} {k : Nat}
    {rest : List (JsString × MessagePage) × PullEnd}
    (hlast : ((messagesAfter db channelId cursor).take k).getLast? = some last)
    (h : Lossless db channelId last.1.cursor rest) :
    Lossless db channelId cursor
      ((cursorText cursor, pageUpTo ((messagesAfter db channelId cursor).take k) last true) :: rest.1, rest.2) where
  caughtUp := h.caughtUp
  messages := by
    rw [List.flatMap_cons, h.messages, messagesAfter_last hlast]
    conv_rhs => rw [← List.take_append_drop k (messagesAfter db channelId cursor), List.map_append]
    rfl
  advances := by
    intro asked hmem hmore
    rcases List.mem_cons.mp hmem with rfl | hrest
    · exact ⟨cursor, last.1.cursor, decode_cursorText _, decode_cursorText _,
        cursor_lt_of_mem (List.mem_of_mem_take (List.mem_of_getLast? hlast))⟩
    · exact h.advances asked hrest hmore

theorem lossless_of_fits (h : Admitted home.db peer localSessionId channelId) (n : Nat) :
    ∀ cursor, cursor < 2 ^ 63 ∨ messagesAfter home.db (sqlText channelId) cursor ≠ [] →
      (messagesAfter home.db (sqlText channelId) cursor).length < n →
      (∀ message ∈ messagesAfter home.db (sqlText channelId) cursor, Fits home.db (sqlText channelId) message) →
      Lossless home.db (sqlText channelId) cursor
        (pull (askPage home peer requestId localSessionId channelId) n (cursorText cursor)) := by
  induction n with
  | zero =>
    intro cursor _ hlength
    omega
  | succ n ih =>
    intro cursor hcursor hlength hfits
    by_cases hnil : messagesAfter home.db (sqlText channelId) cursor = []
    · rw [pull, askPage_nil h (hcursor.resolve_right fun hne => hne hnil) hnil]
      exact lossless_nil hnil
    obtain ⟨k, last, hpos, hk, hlast, hbounded, hask⟩ := @askPage_front _ _ requestId _ _ _ h hnil
    rw [if_pos ((front_fits_iff hpos hlast hbounded).mpr fun message hmem => hfits message (List.mem_of_mem_take hmem))]
      at hask
    rw [pull, hask]
    by_cases hmore : k < (messagesAfter home.db (sqlText channelId) cursor).length
    · have hrest := messagesAfter_last hlast
      simp only [pageUpTo, decide_eq_true hmore, if_true]
      refine lossless_cons hlast (ih last.1.cursor (.inr ?_) ?_ fun message hmem => ?_)
      · rw [hrest, ← List.length_pos_iff_ne_nil, List.length_drop]
        omega
      · rw [hrest, List.length_drop]
        omega
      · rw [hrest] at hmem
        exact hfits message (List.mem_of_mem_drop hmem)
    · rw [List.take_of_length_le (Nat.not_lt.mp hmore)] at hlast ⊢
      simp only [pageUpTo, decide_eq_false hmore, Bool.false_eq_true, if_false]
      exact lossless_last

/-- Pulling from a cursor tells of every later message once, in order, and gets on with every page, if
and only if each of these messages can be sent on a page of its own. -/
theorem pull_lossless_iff (h : Admitted home.db peer localSessionId channelId) (hcursor : cursor < 2 ^ 63) :
    (∃ n, Lossless home.db (sqlText channelId) cursor
        (pull (askPage home peer requestId localSessionId channelId) n (cursorText cursor))) ↔
      ∀ message ∈ messagesAfter home.db (sqlText channelId) cursor, Fits home.db (sqlText channelId) message :=
  ⟨fun ⟨n, hlossless⟩ => fits_of_caughtUp h n cursor hlossless.caughtUp,
    fun hfits => ⟨_, lossless_of_fits h _ cursor (.inl hcursor) (Nat.lt_succ_self _) hfits⟩⟩

end Pulls

section Answers
variable {home : ChannelHome} {peer requestId localSessionId channelId : JsString} {cursor : Nat}
  {page : MessagePage}

theorem requiredString_ok {s value : JsString} {field : String} {max : Nat}
    (h : requiredString (some (.string s)) field max = .ok value) : value = s := by
  rw [requiredString] at h
  by_cases hvalid : nonBlank s = true ∧ s.byteLength ≤ max
  · rw [if_pos hvalid] at h
    exact (Except.ok.inj h).symm
  · rw [if_neg hvalid] at h
    cases h

theorem channelMessages_ok {actorSessionId : JsString}
    (h : channelMessages db peer actorSessionId (messagesRequest channelId (cursorText cursor)) = .ok page) :
    page = channelMessagePage ((messagesAfter db (sqlText channelId) cursor).take (MESSAGE_PAGE_LIMIT + 1))
      (cursorText cursor) := by
  unfold channelMessages at h
  obtain ⟨u, hactive, hchannel⟩ := bind_eq_ok h
  obtain ⟨named, hnamed, hmember⟩ := bind_eq_ok hchannel
  obtain rfl : named = channelId := requiredString_ok hnamed
  obtain ⟨v, hv, hadmission⟩ := bind_eq_ok hmember
  obtain ⟨w, hw, hreplay⟩ := bind_eq_ok hadmission
  obtain ⟨changes, hchanges, hpage⟩ := bind_eq_ok hreplay
  change replayChannelMessages db (cursorText cursor) named _ = _ at hchanges
  rw [replayChannelMessages, decode_cursorText] at hchanges
  dsimp only at hchanges
  by_cases hblank : nonBlank named = false
  · rw [if_pos hblank] at hchanges
    cases hchanges
  · rw [if_neg hblank] at hchanges
    obtain rfl := Except.ok.inj hchanges
    exact (Except.ok.inj hpage).symm

theorem writable_page (home : ChannelHome) (channelId : String) (cursor : Nat) :
    (channelMessagePage ((messagesAfter home.db channelId cursor).take (MESSAGE_PAGE_LIMIT + 1))
      (cursorText cursor)).tree.Writable := by
  by_cases hnil : messagesAfter home.db channelId cursor = []
  · rw [hnil]
    exact ⟨trivial, trivial, trivial, trivial⟩
  · obtain ⟨k, last, -, -, -, hpage, -⟩ := page_front hnil (cursorText cursor)
    rw [hpage]
    have hmessages : ElementsWritable
        (((messagesAfter home.db channelId cursor).take k).map fun message => treeOf message.2) :=
      writable_messages home fun message hmem => mem_sent_of_messagesAfter (List.mem_of_mem_take hmem)
    exact ⟨trivial, hmessages, trivial, trivial⟩

theorem askPage_ok (h : askPage home peer requestId localSessionId channelId (cursorText cursor) = .ok page) :
    page = channelMessagePage ((messagesAfter home.db (sqlText channelId) cursor).take (MESSAGE_PAGE_LIMIT + 1))
      (cursorText cursor) := by
  rw [askPage, handleMessages_request] at h
  cases hmessages : channelMessages home.db peer (canonicalRemoteSession peer localSessionId)
      (messagesRequest channelId (cursorText cursor)) with
  | error failure =>
    rw [hmessages] at h
    obtain ⟨frames, hframes, hread⟩ := bind_eq_ok h
    rw [readReply_failure hframes] at hread
    cases hread
  | ok given =>
    have hgiven := channelMessages_ok hmessages
    rw [hmessages] at h
    by_cases hfits : given.bytes ≤ MAX_RESULT_BYTES
    · have hpage := (readReply_page (hgiven ▸ writable_page home _ cursor) hfits (cursorText cursor)).symm.trans h
      rw [← Except.ok.inj hpage, hgiven]
    · have hpage := (readReply_tooLong hfits (cursorText cursor)).symm.trans h
      cases hpage

theorem askPage_covers (h : askPage home peer requestId localSessionId channelId (cursorText cursor) = .ok page) :
    ∃ n, CursorCodec.decode (sqlText page.cursor) = some n ∧
      (n = cursor ∨ n ≤ home.db.changes.latestCursor) ∧
      ∀ message ∈ messagesAfter home.db (sqlText channelId) cursor, message.1.cursor ≤ n →
        treeOf message.2 ∈ page.messages := by
  have hpage := askPage_ok h
  by_cases hnil : messagesAfter home.db (sqlText channelId) cursor = []
  · rw [hnil] at hpage
    rw [hpage]
    refine ⟨cursor, decode_cursorText cursor, .inl rfl, fun message hmem => ?_⟩
    rw [hnil] at hmem
    cases hmem
  · obtain ⟨k, last, -, -, hlast, hfront, -⟩ := page_front hnil (cursorText cursor)
    rw [hpage, hfront]
    have hmember := List.mem_of_mem_take (List.mem_of_getLast? hlast)
    have hrow := (mem_sentOf.mp (mem_sent_of_messagesAfter hmember)).1
    refine ⟨last.1.cursor, decode_cursorText _, .inr (Journal.cursor_le_latest hrow), fun message hmem hle => ?_⟩
    have htaken : message ∈ (messagesAfter home.db (sqlText channelId) cursor).take k := by
      rw [← List.take_append_drop k (messagesAfter home.db (sqlText channelId) cursor)] at hmem
      refine (List.mem_append.mp hmem).resolve_right fun hrest => ?_
      rw [← messagesAfter_last hlast] at hrest
      exact absurd (cursor_lt_of_mem hrest) (Nat.not_lt.mpr hle)
    exact List.mem_map_of_mem (f := fun message : Message => treeOf message.2) htaken

end Answers

def sampleEvent (body : String) : Json :=
  .obj [("id", .str "event_1"), ("channelId", .str "c"), ("senderSessionId", .str "s"), ("body", .str body)]

def sampleSession : Session :=
  ⟨"federation:p:a", "t", none, none, some .worker, none, none, .runtime, none, none⟩

/-- The channel is open to the session `a` of the peer `p`. -/
def sampleTables : Database :=
  { Database.empty with
    sessions := ⟨[sampleSession], by decide⟩
    memberships := ⟨[⟨"c", "federation:p:a", "t", none, none, some .worker⟩], by decide⟩
    federationChannelAdmissions := ⟨[⟨"c", "p", "o", "t", none, none⟩], by decide⟩ }

def sampleHome (body : String) : ChannelHome where
  db := { sampleTables with
    changes := ⟨[⟨1, some "c", .messageSent (sampleEvent body), "t", none⟩], by simp, by simp⟩ }
  numeric := by
    intro message hmem
    obtain rfl := List.mem_singleton.mp hmem
    exact ⟨trivial, trivial, trivial, trivial, trivial⟩

theorem sampleTables_admitted : Admitted sampleTables (text "p") (text "a") (text "c") where
  active := by decide +kernel
  named := by decide +kernel
  member := by decide +kernel
  admitted := by decide +kernel

theorem sampleHome_admitted (body : String) : Admitted (sampleHome body).db (text "p") (text "a") (text "c") :=
  ⟨sampleTables_admitted.active, sampleTables_admitted.named, sampleTables_admitted.member,
    sampleTables_admitted.admitted⟩

def sampleMessage (body : String) : Message :=
  (⟨1, some "c", .messageSent (sampleEvent body), "t", none⟩, sampleEvent body)

theorem sampleHome_messages (body : String) :
    messagesAfter (sampleHome body).db (sqlText (text "c")) 0 = [sampleMessage body] := by
  rw [sqlText_text]
  rfl

theorem sampleHome_later (body : String) :
    messagesAfter (sampleHome body).db (sqlText (text "c")) 1 = [] := by
  rw [sqlText_text]
  rfl

theorem pull_lossless_iff_short :
    ∃ n, Lossless (sampleHome "hello").db (sqlText (text "c")) 0
      (pull (askPage (sampleHome "hello") (text "p") [] (text "a") (text "c")) n (cursorText 0)) := by
  refine (pull_lossless_iff (sampleHome_admitted "hello") (by decide)).mpr ?_
  rw [sampleHome_messages]
  intro message hmem
  obtain rfl := List.mem_singleton.mp hmem
  have hbytes : (pageUpTo [sampleMessage "hello"] (sampleMessage "hello") false).bytes ≤ MAX_RESULT_BYTES := by
    decide +kernel
  have hlast : decide (messagesAfter (sampleHome "hello").db (sqlText (text "c")) 1 ≠ []) = false := by
    simp [sampleHome_later]
  change (pageUpTo [sampleMessage "hello"] (sampleMessage "hello")
    (decide (messagesAfter (sampleHome "hello").db (sqlText (text "c")) 1 ≠ []))).bytes ≤ MAX_RESULT_BYTES
  rw [hlast]
  exact hbytes

/-- A body of control characters, each of which takes six bytes in JSON. -/
def controlBody (n : Nat) : String := String.ofList ('@' :: 's' :: ' ' :: List.replicate n '\x01')

theorem text_controlBody (n : Nat) : text (controlBody n) = text "@s " ++ List.replicate n 1 := by
  have hone : JsString.ofChar '\x01' = [1] := by decide
  have hflat : (List.replicate n '\x01').flatMap JsString.ofChar = List.replicate n 1 := by
    induction n with
    | zero => rfl
    | succ n ih => rw [List.replicate_succ, List.flatMap_cons, ih, hone, List.replicate_succ, List.singleton_append]
  rw [text, JsString.ofString, controlBody, String.toList_ofList, List.flatMap_cons, List.flatMap_cons,
    List.flatMap_cons, hflat]
  rfl

theorem byteLength_controls (n : Nat) : JsString.byteLength (List.replicate n 1) = n := by
  induction n with
  | zero => rfl
  | succ n ih =>
    rw [List.replicate_succ, JsString.byteLength_cons (.inl (by decide)), ih, Nat.add_comm]
    rfl

theorem length_escape_controls (n : Nat) : (JsString.escape (List.replicate n 1)).length = 6 * n := by
  induction n with
  | zero => rfl
  | succ n ih =>
    rw [List.replicate_succ, JsString.escape_cons (by decide), List.length_append, ih, Nat.mul_add_one, Nat.add_comm]
    rfl

theorem byteLength_controlBody (n : Nat) : JsString.byteLength (text (controlBody n)) = n + 3 := by
  rw [text_controlBody, JsString.byteLength_append_of_paired (by decide), byteLength_controls, Nat.add_comm]
  rfl

theorem length_quoted_controlBody (n : Nat) :
    6 * n ≤ (JsString.quoted (text (controlBody n))).length := by
  have hescape : JsString.escape (text (controlBody n)) =
      text "@s " ++ JsString.escape (List.replicate n 1) := by
    rw [text_controlBody]
    change JsString.escape (0x40 :: 0x73 :: 0x20 :: List.replicate n 1) = _
    rw [JsString.escape_cons (by decide), JsString.escape_cons (by decide), JsString.escape_cons (by decide)]
    rfl
  rw [JsString.quoted, hescape, List.length_cons, List.length_append, List.length_append, length_escape_controls]
  omega

theorem storedBody_control {n : Nat} (h : n + 3 ≤ MAX_BODY_BYTES) :
    storedBody (text "@s") (.object [(text "body", .string (text (controlBody n)))]) =
      .ok (text (controlBody n)) := by
  have hbody : (Tree.object [(text "body", .string (text (controlBody n)))]).get (text "body") =
      some (.string (text (controlBody n))) := rfl
  have hblank : nonBlank (text (controlBody n)) = true := by
    rw [text_controlBody]
    rfl
  have hbytes := byteLength_controlBody n
  have hrequired : requiredString (some (.string (text (controlBody n)))) "body" MAX_BODY_BYTES =
      .ok (text (controlBody n)) := if_pos ⟨hblank, by omega⟩
  have hstamped : stampRoomsProvenance (text "@s") (text (controlBody n)) = text (controlBody n) := by
    refine if_pos (.inr ?_)
    rw [text_controlBody]
    rfl
  have hfits : requireCommand (JsString.byteLength (text (controlBody n)) ≤ MAX_BODY_BYTES)
      (text "invalid body") = .ok () := if_pos (by omega)
  rw [storedBody, hbody, hrequired]
  simp only [bind, Except.bind, hstamped, hfits]
  rfl

theorem controls_le_bytes (n : Nat) (more : Bool) :
    6 * n ≤ (pageUpTo [sampleMessage (controlBody n)] (sampleMessage (controlBody n)) more).bytes := by
  have hwrite : (JsString.quoted (text (controlBody n))).length ≤ (treeOf (sampleEvent (controlBody n))).write.length := by
    simp only [sampleEvent, treeOf, membersOf, Tree.write, writeMembers, commaSeparated, List.length_append,
      List.length_cons]
    omega
  have hbytes := JsString.length_le_byteLength (treeOf (sampleEvent (controlBody n))).write
  have hquoted := length_quoted_controlBody n
  have hpage := bytes_eq (pageUpTo [sampleMessage (controlBody n)] (sampleMessage (controlBody n)) more)
    ⟨⟨trivial, trivial, trivial, trivial, trivial⟩, trivial⟩
  change _ = _ + listBytes [treeOf (sampleEvent (controlBody n))] + _ at hpage
  rw [listBytes_singleton] at hpage
  omega

/-- The body is stored, and no pull of the channel ever gets past its message. -/
theorem pull_stuck :
    storedBody (text "@s") (.object [(text "body", .string (text (controlBody 22000)))]) =
        .ok (text (controlBody 22000)) ∧
      ¬∃ n, Lossless (sampleHome (controlBody 22000)).db (sqlText (text "c")) 0
        (pull (askPage (sampleHome (controlBody 22000)) (text "p") [] (text "a") (text "c")) n (cursorText 0)) := by
  refine ⟨storedBody_control (by decide), ?_⟩
  rintro ⟨n, hlossless⟩
  have hfits := fits_of_caughtUp (sampleHome_admitted _) n 0 hlossless.caughtUp
    (sampleMessage (controlBody 22000)) (by rw [sampleHome_messages]; exact List.mem_singleton_self _)
  have hlong := controls_le_bytes 22000
    (messagesAfter (sampleHome (controlBody 22000)).db (sqlText (text "c")) 1 ≠ [])
  exact absurd (hlong.trans hfits) (by decide)

end Wardroom.Federation
