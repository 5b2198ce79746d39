import Wardroom.Domain.Cursors
import Wardroom.Storage.MessagePages

/-! # What the paged readers return

The newest page, the reads that follow it, and the three ways to read a whole
channel.
-/

namespace Wardroom.Feeds
open Wardroom.Library Wardroom.Domain Wardroom.Storage

def messageCursor (r : Change × Json) : Nat := r.1.cursor

/-- The readers of newest pages. -/
inductive Reader where
  | session (sessionId : String) (channelId : Option String)
  | channel (channelId : String)

namespace Reader

def read (reader : Reader) (db : Database) (afterCursor : String) (limit : Nat) : Except Failure EventPage :=
  match reader with
  | .session sessionId channelId =>
    db.sessionMessages sessionId { afterCursor := some afterCursor, channelId := channelId, limit := some limit }
  | .channel channelId => db.channelMessages channelId { afterCursor := some afterCursor, limit := some limit }

/-- The changes that move the cursor of the reader. -/
def inScope : Reader → Change → Bool
  | .session _ channelId, c => Database.ofChannel channelId c
  | .channel channelId, c => c.channelId = some channelId

/-- The messages the reader is asked for, among some rows. -/
def messages (reader : Reader) (rows : List Change) : List (Change × Json) :=
  (sentOf rows).filter fun r => reader.inScope r.1 &&
    match reader with
    | .session sessionId _ => takesPart sessionId r.2
    | .channel _ => true

def Named : Reader → Prop
  | .session _ _ => True
  | .channel channelId => Text.blank channelId = false

end Reader

/-- A page of the newest messages, which says whether any were left out. -/
def Newest (messages : List (Change × Json)) (limit : Nat) (page : EventPage) : Prop :=
  ∃ older newest, messages = older ++ newest ∧ newest.length = min limit messages.length ∧
    page.events = newest.map Prod.snd ∧ (page.hasMore = true ↔ older ≠ [])

/-- A read from the cursor of the page returns, of the messages committed since, the newest ones
past a cursor. -/
def FollowedUp (reader : Reader) (db : Database) (page : EventPage) (n : Nat) : Prop :=
  ∀ (later : Database) (committed : List Change), later.changes.rows = db.changes.rows ++ committed →
    ∀ limit, 1 ≤ limit → limit ≤ 500 → ∃ next, reader.read later (toString page.cursor) limit = .ok next ∧
      Newest (Paging.after messageCursor (reader.messages committed) n) limit next

/-- What is promised of a page that was read from a cursor; the reads that follow are promised
what is committed past another one. -/
structure NewestPage (reader : Reader) (db : Database) (n limit followed : Nat) (page : EventPage) : Prop where
  newest : Newest (Paging.after messageCursor (reader.messages db.changes.rows) n) limit page
  covers : ∀ c ∈ db.changes.rows, reader.inScope c = true → c.cursor ≤ page.cursor
  followedUp : FollowedUp reader db page followed

section Page

variable {db : Database}

theorem ordered_sentOf {rows : List Change} (h : rows.Pairwise fun a b => a.cursor < b.cursor) :
    Paging.Ordered messageCursor (sentOf rows) := by
  refine List.Pairwise.filterMap _ (fun a b hlt r hr s hs => ?_) h
  obtain ⟨_, _, rfl⟩ := Option.map_eq_some_iff.mp hr
  obtain ⟨_, _, rfl⟩ := Option.map_eq_some_iff.mp hs
  exact hlt

theorem leftJoin_fst {α : Type} (relevant : List α) (latest : Nat) :
    (leftJoin relevant latest).filterMap Prod.fst = relevant := by
  unfold leftJoin
  cases relevant with
  | nil => rfl
  | cons r rest => simp [List.filterMap_map]

theorem leftJoin_snd {α : Type} (relevant : List α) (latest n : Nat) :
    (((leftJoin relevant latest).head?).map Prod.snd).getD n = latest := by
  unfold leftJoin
  cases relevant <;> rfl

theorem newestPage_eq (db : Database) (inScope : Change → Bool) (relevant : Json → Bool) (n limit : Nat) :
    let messages := Paging.after messageCursor
      ((sentOf db.changes.rows).filter fun r => inScope r.1 && relevant r.2) n
    let page := db.newestPage inScope relevant n limit
    page.events = (Paging.newest limit messages).map Prod.snd ∧ (page.hasMore = true ↔ limit < messages.length) ∧
      page.cursor = Paging.latest Change.cursor (Paging.after Change.cursor (db.changes.rows.filter inScope) n) n := by
  have hfound : (db.changes.sent.filter fun r => n < r.1.cursor && inScope r.1 && relevant r.2) =
      Paging.after messageCursor ((sentOf db.changes.rows).filter fun r => inScope r.1 && relevant r.2) n := by
    rw [Paging.after, List.filter_filter]
    exact List.filter_congr fun r _ => Bool.and_assoc _ _ _
  dsimp only
  obtain ⟨hmore, hpage⟩ := Paging.newest_of_probe limit (Paging.after messageCursor
    ((sentOf db.changes.rows).filter fun r => inScope r.1 && relevant r.2) n)
  simp only [Database.newestPage, hfound, leftJoin_fst, leftJoin_snd, decide_eq_true_eq]
  exact ⟨by rw [hpage], hmore, trivial⟩

theorem newest_of_eq {messages : List (Change × Json)} {limit : Nat} {page : EventPage}
    (hevents : page.events = (Paging.newest limit messages).map Prod.snd)
    (hmore : page.hasMore = true ↔ limit < messages.length) : Newest messages limit page := by
  obtain ⟨older, hsplit, hlength, holder⟩ := Paging.newest_split limit messages
  exact ⟨older, _, hsplit, hlength, hevents, hmore.trans holder.symm⟩

theorem read_spec {reader : Reader} (hnamed : reader.Named) {afterCursor : String} {n : Nat}
    (hcursor : CursorCodec.decode afterCursor = some n) (hbound : n < 2 ^ 63) {limit : Nat} (hlow : 1 ≤ limit)
    (hhigh : limit ≤ 500) (db : Database) : ∃ page, reader.read db afterCursor limit = .ok page ∧
      Newest (Paging.after messageCursor (reader.messages db.changes.rows) n) limit page ∧
      page.cursor =
        Paging.latest Change.cursor (Paging.after Change.cursor (db.changes.rows.filter reader.inScope) n) n := by
  have hafter {options : PageOptions} (h : options.afterCursor = some afterCursor) : options.after = .ok n := by
    rw [PageOptions.after, h, Option.getD_some, hcursor]
  have hlimit {options : PageOptions} (h : options.limit = some (limit : Int)) : options.checkedLimit = .ok limit := by
    rw [PageOptions.checkedLimit, h, Option.getD_some]
    exact if_neg (by omega)
  cases reader with
  | session sessionId channelId =>
    obtain ⟨hevents, hmore, hlatest⟩ :=
      newestPage_eq db (Database.ofChannel channelId) (takesPart sessionId) n limit
    refine ⟨_, ?_, newest_of_eq hevents hmore, hlatest⟩
    rw [Reader.read, Database.sessionMessages, hafter rfl, hlimit rfl]
    simp only [bind, Except.bind, bindCursor_of_lt hbound]
    rfl
  | channel channelId =>
    obtain ⟨hevents, hmore, hlatest⟩ :=
      newestPage_eq db (fun c => decide (c.channelId = some channelId)) (fun _ => true) n limit
    refine ⟨_, ?_, newest_of_eq hevents hmore, hlatest⟩
    rw [Reader.read, Database.channelMessages, hafter rfl, hlimit rfl]
    simp only [bind, Except.bind, bindCursor_of_lt hbound]
    exact if_neg (Bool.eq_false_iff.mp hnamed)

theorem messages_append (reader : Reader) (rows extra : List Change) :
    reader.messages (rows ++ extra) = reader.messages rows ++ reader.messages extra := by
  rw [Reader.messages, Reader.messages, Reader.messages, sentOf, sentOf, sentOf, List.filterMap_append,
    List.filter_append]

theorem mem_messages {reader : Reader} {rows : List Change} {r : Change × Json} (h : r ∈ reader.messages rows) :
    r.1 ∈ rows ∧ reader.inScope r.1 = true := by
  obtain ⟨hsent, hrelevant⟩ := List.mem_filter.mp h
  exact ⟨(mem_sentOf.mp hsent).1, (Bool.and_eq_true_iff.mp hrelevant).1⟩

end Page

theorem messages_since {reader : Reader} {db later : Database} {committed : List Change}
    (hlater : later.changes.rows = db.changes.rows ++ committed) (n : Nat) :
    Paging.after messageCursor (reader.messages later.changes.rows)
        (Paging.latest Change.cursor (Paging.after Change.cursor (db.changes.rows.filter reader.inScope) n) n) =
      Paging.after messageCursor (reader.messages committed) n := by
  rw [hlater, messages_append, Paging.after_append, Paging.after_eq_nil, List.nil_append]
  · refine List.filter_congr fun r hr => ?_
    have hnew := Journal.latest_lt_of_append hlater (mem_messages hr).1
    have hlast := @Paging.latest_mem _ Change.cursor
      (Paging.after Change.cursor (db.changes.rows.filter reader.inScope) n) n
    rw [decide_eq_decide]
    constructor
    · exact fun hlt => (Paging.le_latest_after _ n).trans_lt hlt
    · intro hlt
      rcases hlast with hnone | ⟨c, hc, hkey⟩
      · exact hnone.trans_lt hlt
      · have hstored : c ∈ db.changes.rows := (List.mem_filter.mp (List.mem_filter.mp hc).1).1
        exact hkey ▸ (Journal.cursor_le_latest hstored).trans_lt hnew
  · intro r hr
    obtain ⟨hrow, hscope⟩ := mem_messages hr
    exact Paging.key_le_latest_after (List.mem_filter.mpr ⟨hrow, hscope⟩) n

theorem committed_past {reader : Reader} {db later : Database} {committed : List Change}
    (hlater : later.changes.rows = db.changes.rows ++ committed) {n : Nat} (hn : n ≤ db.changes.latestCursor) :
    Paging.after messageCursor (reader.messages committed) n = Paging.after messageCursor (reader.messages committed) 0 := by
  refine List.filter_congr fun r hr => ?_
  have hnew := Journal.latest_lt_of_append hlater (mem_messages hr).1
  rw [decide_eq_decide]
  exact ⟨fun hlt => Nat.zero_lt_of_lt hlt, fun _ => hn.trans_lt hnew⟩

/-- The cursor of a page is an integer that the store can bind, when the asked one and those of the
journal are. -/
theorem latest_lt_bound {db : Database} {n : Nat} (hbound : n < 2 ^ 63) (hstored : db.changes.latestCursor < 2 ^ 63)
    (p : Change → Bool) :
    Paging.latest Change.cursor (Paging.after Change.cursor (db.changes.rows.filter p) n) n < 2 ^ 63 := by
  rcases @Paging.latest_mem _ Change.cursor (Paging.after Change.cursor (db.changes.rows.filter p) n) n with
    hnone | ⟨c, hc, hkey⟩
  · rw [hnone]
    exact hbound
  · have hrow : c ∈ db.changes.rows := (List.mem_filter.mp (List.mem_filter.mp hc).1).1
    exact hkey ▸ (Journal.cursor_le_latest hrow).trans_lt hstored

def openLetter : Json :=
  Json.record [("id", some (.str "event_1")), ("senderSessionId", some (.str "helm")), ("body", some (.str "Ahoy"))]

def loggedLetter : Database :=
  { Database.empty with changes := Journal.empty.append none (.messageSent openLetter) "1" none }

def channelMessagesAfter (db : Database) (channelId : String) (n : Nat) : List (Change × Json) :=
  Paging.after messageCursor ((Reader.channel channelId).messages db.changes.rows) n

/-- One page of a channel's messages; a full page may have a successor. -/
def channelPage (db : Database) (channelId : String) (limit : Nat) (n : Nat) :
    Except Failure (Paging.Page (Change × Json)) :=
  (db.replayChannelMessages (toString n) channelId limit).map fun rows =>
    ⟨rows, Paging.reached messageCursor rows n, rows.length = limit⟩

/-- Without a limit, with a limit that is large enough and page by page the same messages are
read: those of the channel past the cursor. -/
structure ReadsAgree (db : Database) (channelId afterCursor : String) (n : Nat) : Prop where
  unlimited : ∃ page, db.getEvents { afterCursor := some afterCursor, channelId := some channelId } = .ok page ∧
    page.events = (channelMessagesAfter db channelId n).map Prod.snd
  limited : ∀ limit, 1 ≤ limit → limit ≤ 500 → (channelMessagesAfter db channelId n).length ≤ limit →
    ∃ page, (Reader.channel channelId).read db afterCursor limit = .ok page ∧ page.hasMore = false ∧
      page.events = (channelMessagesAfter db channelId n).map Prod.snd
  paged : ∀ limit, 1 ≤ limit → limit ≤ 100 → ∀ fuel, (channelMessagesAfter db channelId n).length < fuel →
    Paging.walk (channelPage db channelId limit) fuel n = some (.ok (channelMessagesAfter db channelId n))

section Channel

variable {db : Database} {channelId afterCursor : String} {n : Nat}

theorem limited_reads (hchannel : Text.blank channelId = false) (hcursor : CursorCodec.decode afterCursor = some n)
    (hbound : n < 2 ^ 63) {limit : Nat} (hlow : 1 ≤ limit) (hhigh : limit ≤ 500)
    (hlarge : (channelMessagesAfter db channelId n).length ≤ limit) :
    ∃ page, (Reader.channel channelId).read db afterCursor limit = .ok page ∧ page.hasMore = false ∧
      page.events = (channelMessagesAfter db channelId n).map Prod.snd := by
  obtain ⟨page, hread, ⟨older, newest, hsplit, hlength, hevents, hmore⟩, -⟩ :=
    @read_spec (.channel channelId) hchannel _ _ hcursor hbound _ hlow hhigh db
  change channelMessagesAfter db channelId n = older ++ newest at hsplit
  change newest.length = min limit (channelMessagesAfter db channelId n).length at hlength
  have hnil : older = [] := by
    rw [Nat.min_eq_right hlarge, hsplit, List.length_append] at hlength
    exact List.length_eq_zero_iff.mp (by omega)
  rw [hnil, List.nil_append] at hsplit
  refine ⟨page, hread, ?_, by rw [hevents, hsplit]⟩
  exact Bool.eq_false_iff.mpr fun htrue => hmore.mp htrue hnil

theorem channelPage_eq (hchannel : Text.blank channelId = false) {limit : Nat} (hlow : 1 ≤ limit) (hhigh : limit ≤ 100)
    {n : Nat} (hbound : n < 2 ^ 63) : channelPage db channelId limit n = .ok ⟨(channelMessagesAfter db channelId n).take limit,
      Paging.reached messageCursor ((channelMessagesAfter db channelId n).take limit) n,
      ((channelMessagesAfter db channelId n).take limit).length = limit⟩ := by
  have hfound : (db.changes.sent.filter fun r => n < r.1.cursor && r.1.channelId = some channelId) =
      channelMessagesAfter db channelId n := by
    rw [channelMessagesAfter, Paging.after, Reader.messages, List.filter_filter]
    refine List.filter_congr fun r _ => ?_
    exact congrArg _ (Bool.and_true _).symm
  have hlimit : ¬((limit : Int) < 1 ∨ 100 < (limit : Int)) := by omega
  rw [channelPage, Database.replayChannelMessages, CursorCodec.decode_toString]
  dsimp only
  rw [if_neg (Bool.eq_false_iff.mp hchannel), if_neg hlimit, hfound, bindCursor_map hbound]
  rfl

theorem paged_reads (hchannel : Text.blank channelId = false) (hstored : db.changes.latestCursor < 2 ^ 63)
    (hbound : n < 2 ^ 63) {limit : Nat} (hlow : 1 ≤ limit) (hhigh : limit ≤ 100)
    {fuel : Nat} (hfuel : (channelMessagesAfter db channelId n).length < fuel) :
    Paging.walk (channelPage db channelId limit) fuel n = some (.ok (channelMessagesAfter db channelId n)) := by
  have hordered := Paging.ordered_filter (ordered_sentOf db.changes.ordered)
    fun r => (Reader.channel channelId).inScope r.1 && true
  have hrows : ∀ r ∈ (Reader.channel channelId).messages db.changes.rows, messageCursor r < 2 ^ 63 :=
    fun r hr => (Journal.cursor_le_latest (mem_messages hr).1).trans_lt hstored
  exact Paging.walk_of_serves hordered hrows
    (Paging.serves_full _ hlow fun n hn => channelPage_eq hchannel hlow hhigh hn) fuel hbound hfuel

theorem given_of_named (hchannel : Text.blank channelId = false) : Text.given (some channelId) = true := by
  rw [Text.given, Option.any_some, decide_eq_true_eq]
  rintro rfl
  exact absurd hchannel (by decide)

theorem unlimited_reads (hchannel : Text.blank channelId = false)
    (hcursor : CursorCodec.decode afterCursor = some n) (hbound : n < 2 ^ 63) (db : Database) :
    ∃ page, db.getEvents { afterCursor := some afterCursor, channelId := some channelId } = .ok page ∧
      page.events = ((sentOf db.changes.rows).filter fun r =>
        n < r.1.cursor && (r.1.channelId = some channelId || r.1.channelId = none)).map Prod.snd := by
  have hgiven := given_of_named hchannel
  have hread : db.getEvents { afterCursor := some afterCursor, channelId := some channelId } =
      .ok { events := (db.changesAfter n (some channelId)).filterMap Change.sent?
            cursor := Paging.reached Change.cursor (db.changesAfter n (some channelId))
              ((CursorCodec.decode afterCursor).getD 0)
            oldestCursor := none
            hasMore := false } := by
    rw [Database.getEvents]
    simp only [bind, Except.bind, Text.given, Option.any_none, Bool.false_eq_true, and_false, if_false,
      Database.replay_of_lt db _ hcursor hbound]
    rfl
  have hevents (rows : List Change) (p : Change → Bool) :
      (rows.filter p).filterMap Change.sent? = ((sentOf rows).filter fun r => p r.1).map Prod.snd := by
    induction rows with
    | nil => rfl
    | cons c rows ih =>
      cases hsent : c.sent? with
      | none => by_cases hp : p c <;> simp [sentOf_cons_none hsent, hp, hsent, ih]
      | some event => by_cases hp : p c <;> simp [sentOf_cons_some hsent, hp, hsent, ih]
  refine ⟨_, hread, ?_⟩
  dsimp only
  rw [Database.changesAfter, hevents]
  refine congrArg _ (List.filter_congr fun r _ => ?_)
  rw [Database.inScope, hgiven, Bool.not_true, Bool.false_or]

end Channel

/-- From a cursor that the store can bind the reads of a channel agree exactly when no message past
it is outside all channels. -/
theorem reads_agree_iff (db : Database) (hstored : db.changes.latestCursor < 2 ^ 63) (channelId afterCursor : String)
    (n : Nat) (hchannel : Text.blank channelId = false) (hcursor : CursorCodec.decode afterCursor = some n)
    (hbound : n < 2 ^ 63) :
    ReadsAgree db channelId afterCursor n ↔
      ∀ r ∈ db.changes.sent, n < r.1.cursor → r.1.channelId ≠ none := by
  obtain ⟨page, hread, hevents⟩ := unlimited_reads hchannel hcursor hbound db
  have hmine : channelMessagesAfter db channelId n =
      (sentOf db.changes.rows).filter fun r => n < r.1.cursor && r.1.channelId = some channelId := by
    rw [channelMessagesAfter, Paging.after, Reader.messages, List.filter_filter]
    refine List.filter_congr fun r _ => ?_
    exact congrArg _ (Bool.and_true _)
  constructor
  · intro hagree r hr hpast hnone
    obtain ⟨page', hread', hevents'⟩ := hagree.unlimited
    cases hread.symm.trans hread'
    -- the two lists have the same length, so the longer filter takes nothing more
    have hlength := congrArg List.length (hevents.symm.trans hevents')
    rw [List.length_map, List.length_map, hmine] at hlength
    have hsame := List.Sublist.eq_of_length (List.monotone_filter_right (sentOf db.changes.rows)
      (q := fun r => n < r.1.cursor && (r.1.channelId = some channelId || r.1.channelId = none))
      (p := fun r => n < r.1.cursor && r.1.channelId = some channelId) (fun r hr => by
        simp only [Bool.and_eq_true, Bool.or_eq_true] at hr ⊢
        exact ⟨hr.1, .inl hr.2⟩)) hlength.symm
    have hin : r ∈ (sentOf db.changes.rows).filter fun r =>
        n < r.1.cursor && (r.1.channelId = some channelId || r.1.channelId = none) :=
      List.mem_filter.mpr ⟨hr, by simp [hpast, hnone]⟩
    rw [← hsame] at hin
    have htaken := (List.mem_filter.mp hin).2
    rw [hnone] at htaken
    simp at htaken
  · intro hplaced
    refine ⟨⟨page, hread, ?_⟩, fun limit hlow hhigh hlarge => limited_reads hchannel hcursor hbound hlow hhigh hlarge,
      fun limit hlow hhigh fuel hfuel => paged_reads hchannel hstored hbound hlow hhigh hfuel⟩
    rw [hevents, hmine]
    refine congrArg _ (List.filter_congr fun r hr => ?_)
    by_cases hpast : n < r.1.cursor
    · rw [decide_eq_false (hplaced r hr hpast), Bool.or_false]
    · rw [decide_eq_false hpast, Bool.false_and, Bool.false_and]

theorem reads_agree_iff_letter : ReadsAgree loggedLetter "harbour" "1" 1 ↔
    ∀ r ∈ loggedLetter.changes.sent, 1 < r.1.cursor → r.1.channelId ≠ none :=
  reads_agree_iff loggedLetter (by decide) "harbour" "1" 1 (by decide) (by decide) (by decide)

/-- A letter outside all channels is read as a message of the harbour. -/
theorem letter_in_harbour : ¬ ReadsAgree loggedLetter "harbour" "0" 0 := by
  intro hagree
  obtain ⟨page, hread, hevents⟩ := hagree.unlimited
  have hone : (loggedLetter.getEvents { afterCursor := some "0", channelId := some "harbour" }).toOption.map
      (fun page => page.events.length) = some 1 := by rfl
  have hnone : (channelMessagesAfter loggedLetter "harbour" 0).length = 0 := by decide
  rw [hread, Except.toOption, Option.map_some, hevents, List.length_map, hnone] at hone
  cases hone

end Wardroom.Feeds
