import Wardroom.Feeds.ControlPages
import Wardroom.Feeds.MessagePages
import Wardroom.Runtime.Native.Composition
import Wardroom.Storage.ControlPages
import Wardroom.Storage.UsageSeries

/-! # What a session id in a read request is worth

Four reads take a session id from their request, or might be sent one. The scan
of the controls goes by the connection and reads none. A series of a session is
served to that session, and to an operator. A page of messages takes the id as a
filter. The pages of controls take it for the reader.
-/

namespace Wardroom.Runtime.Reads
open Wardroom.Library Wardroom.Domain Wardroom.Storage

inductive ReadRequest where
  | channelControlPages (channels : Option (List ControlRequest)) (sessionId : Option String) (limit : Option Int)
  /-- The session id is sent along; the handler has no use for it. -/
  | getControls (channelId : String) (afterCursor : Option String) (limit : Option Int) (sessionId : Option String)
  | getEvents (request : GetEventsRequest)
  /-- The scope is a text on the wire. -/
  | usageSeries (scope id window : String) (collect : Bool)

inductive ReadAnswer where
  | channelControlPages (pages : ControlPages)
  | getControls (page : ControlPage)
  | getEvents (page : EventPage)
  | usageSeries (series : UsageSeries)

/-- The tables that the reads go to. -/
structure ReadStore where
  daemon : Daemon
  history : UsageHistory

/-- `usageSeries` of the handler: whose scope it is decides who may read it. -/
def usageScope (db : Database) (actor scope id : String) : Except Failure UsageScope :=
  if scope = "session" then
    if actor ≠ id ∧ db.sessionRole actor ≠ some .operator then .error (.coded "usageAccessDenied") else .ok .session
  else if scope = "channel" then
    if db.isActiveMember id actor = false then .error (.coded "usageAccessDenied") else .ok .channel
  else .error (.coded "invalidUsageScope")

/-- The answer to a request, with what the samples of a series leave. -/
def ReadStore.read (u : UsageSurroundings) (s : ReadStore) (caller : Caller) :
    ReadRequest → Except Failure ReadAnswer × UsageHistory
  | .channelControlPages channels sessionId limit =>
    ((s.daemon.db.channelControlPages (channels.getD []) (sessionId.getD "") (limit.getD 100)).map
      .channelControlPages, s.history)
  | .getControls channelId afterCursor limit _ =>
    ((authenticated caller).bind fun sessionId =>
      (s.daemon.db.getControls sessionId channelId afterCursor limit).map .getControls, s.history)
  | .getEvents request => ((s.daemon.db.getEvents request).map .getEvents, s.history)
  | .usageSeries scope id window collect =>
    match (authenticated caller).bind fun actor => usageScope s.daemon.db actor scope id with
    | .error e => (.error e, s.history)
    | .ok scope =>
      let (series, history) := usageSeries u s.daemon scope id window collect s.history
      (series.map .usageSeries, history)

namespace ReadRequest

/-- The same request with another session in it. -/
def naming (sessionId : String) : ReadRequest → ReadRequest
  | .channelControlPages channels _ limit => .channelControlPages channels (some sessionId) limit
  | .getControls channelId afterCursor limit _ => .getControls channelId afterCursor limit (some sessionId)
  | .getEvents request => .getEvents { request with sessionId := some sessionId }
  | .usageSeries scope id window collect =>
    .usageSeries scope (if scope = "session" then sessionId else id) window collect

def actorOnly : ReadRequest → Bool
  | .channelControlPages _ _ _ => false
  | .getControls _ _ _ _ | .getEvents _ | .usageSeries _ _ _ _ => true

end ReadRequest

def Rejected (result : Except Failure ReadAnswer × UsageHistory) : Prop := ∃ e, result.1 = .error e

/-- Two requests that differ in the session they name are answered alike, or one of them names another session than
that of the connection and is rejected. -/
def NamesAlike (u : UsageSurroundings) (s : ReadStore) (caller : Caller) (actor : String) (request : ReadRequest) : Prop :=
  ∀ one other, s.read u caller (request.naming one) = s.read u caller (request.naming other) ∨
    (one ≠ actor ∧ Rejected (s.read u caller (request.naming one))) ∨
    (other ≠ actor ∧ Rejected (s.read u caller (request.naming other)))

/-- The request without its filters. Answers to a message are looked for everywhere. -/
def unfiltered (request : GetEventsRequest) : GetEventsRequest :=
  if Text.given request.replyToEventId then {} else { request with sessionId := none, limit := none }

/-- What a session id that comes with a request is worth to a connection of a session. -/
structure ReadsGranted (u : UsageSurroundings) (s : ReadStore) (caller : Caller) (actor : String) : Prop where
  /-- The connection counts for its session alone. -/
  session : ∀ caller', authenticated caller' = .ok actor → ∀ request : ReadRequest, request.actorOnly = true →
    s.read u caller' request = s.read u caller request
  controls : ∀ channelId afterCursor limit sessionId,
    NamesAlike u s caller actor (.getControls channelId afterCursor limit sessionId)
  series : s.daemon.db.sessionRole actor ≠ some .operator → ∀ scope id window collect,
    NamesAlike u s caller actor (.usageSeries scope id window collect)
  event : ∀ request : GetEventsRequest, Text.given request.eventId → NamesAlike u s caller actor (.getEvents request)
  /-- The filter takes messages away from what every connection may read. -/
  filtered : ∀ request : GetEventsRequest, ¬Text.given request.eventId → ∀ page,
    (s.read u caller (.getEvents request)).1 = .ok (.getEvents page) →
      ∀ anyone, ∃ full, (s.read u anyone (.getEvents (unfiltered request))).1 = .ok (.getEvents full) ∧
        ∀ event ∈ page.events, event ∈ full.events

section Reads

variable {u : UsageSurroundings} {s : ReadStore} {caller caller' : Caller} {actor : String} {db : Database}
  {request : GetEventsRequest} {page : EventPage} {event : Json}

theorem read_session (h : authenticated caller = .ok actor) (h' : authenticated caller' = .ok actor)
    (request : ReadRequest) : s.read u caller' request = s.read u caller request := by
  cases request <;> simp only [ReadStore.read, h, h']

theorem usageScope_denied {id : String} (hother : id ≠ actor) (hrole : db.sessionRole actor ≠ some .operator) :
    usageScope db actor "session" id = .error (.coded "usageAccessDenied") := by
  rw [usageScope, if_pos rfl, if_pos ⟨hother.symm, hrole⟩]

theorem series_alike (h : authenticated caller = .ok actor) (hrole : s.daemon.db.sessionRole actor ≠ some .operator)
    (scope id window : String) (collect : Bool) : NamesAlike u s caller actor (.usageSeries scope id window collect) := by
  intro one other
  have hrejected (named : String) (hnamed : named ≠ actor) (hscope : scope = "session") :
      Rejected (s.read u caller ((ReadRequest.usageSeries scope id window collect).naming named)) := by
    refine ⟨.coded "usageAccessDenied", ?_⟩
    subst hscope
    rw [ReadRequest.naming, if_pos rfl, ReadStore.read, h]
    simp only [Except.bind, usageScope_denied hnamed hrole]
  by_cases hscope : scope = "session"
  · by_cases hone : one = actor
    · by_cases hother : other = actor
      · exact .inl (by rw [hone, hother])
      · exact .inr (.inr ⟨hother, hrejected other hother hscope⟩)
    · exact .inr (.inl ⟨hone, hrejected one hone hscope⟩)
  · exact .inl (by simp only [ReadRequest.naming, if_neg hscope])

/-- The cursor that a request is read from. -/
def startOf (db : Database) (request : GetEventsRequest) : Except Failure String :=
  match request.afterCursor with
  | some cursor => .ok cursor
  | none =>
    if Text.given request.afterEventId then db.messageCursor (request.afterEventId.getD "") request.channelId
    else .ok "0"

/-- The messages past a cursor, in a channel or in all. -/
def replayed (db : Database) (n : Nat) (channelId : Option String) : List Json :=
  (db.changesAfter n channelId).filterMap Change.sent?

theorem mem_replayed {n : Nat} {channelId : Option String} {r : Change × Json} (hr : r ∈ db.changes.sent)
    (hpast : n < r.1.cursor) (hscope : Database.inScope channelId r.1 = true) : r.2 ∈ replayed db n channelId := by
  obtain ⟨hmem, hsent⟩ := mem_sentOf.mp hr
  refine List.mem_filterMap.mpr ⟨r.1, List.mem_filter.mpr ⟨hmem, ?_⟩, hsent⟩
  rw [decide_eq_true hpast, hscope]
  rfl

theorem newestPage_subset {inScope : Change → Bool} {relevant : Json → Bool} {n limit : Nat}
    (h : event ∈ (db.newestPage inScope relevant n limit).events) :
    ∃ r ∈ db.changes.sent, r.2 = event ∧ n < r.1.cursor ∧ inScope r.1 = true := by
  obtain ⟨hevents, -⟩ := Feeds.newestPage_eq db inScope relevant n limit
  rw [hevents] at h
  obtain ⟨r, hr, rfl⟩ := List.mem_map.mp h
  have hmem := List.mem_reverse.mp (List.mem_of_mem_take (List.mem_reverse.mp hr))
  have hpast := List.mem_filter.mp hmem
  have hrelevant := List.mem_filter.mp hpast.1
  rw [Bool.and_eq_true] at hrelevant
  exact ⟨r, hrelevant.1, rfl, of_decide_eq_true hpast.2, hrelevant.2.1⟩

theorem bound_of_ok {n : Nat} {u : Unit} (h : bindCursor n = .ok u) : n < 2 ^ 63 := by
  by_contra hlarge
  rw [bindCursor, if_neg hlarge] at h
  cases h

variable {options : PageOptions}

theorem after_ok {n : Nat} (h : options.after = .ok n) :
    CursorCodec.decode (options.afterCursor.getD "0") = some n := by
  unfold PageOptions.after at h
  cases hdecode : CursorCodec.decode (options.afterCursor.getD "0") with
  | none =>
    rw [hdecode] at h
    cases h
  | some m =>
    rw [hdecode] at h
    cases h
    rfl

theorem messageReplies_subset {eventId : String} (h : db.messageReplies eventId options = .ok page)
    (hevent : event ∈ page.events) : event ∈ replayed db 0 none := by
  obtain ⟨n, -, h⟩ := ok_of_bind h
  obtain ⟨limit, -, h⟩ := ok_of_bind h
  obtain ⟨⟨c, parent⟩, -, h⟩ := ok_of_bind h
  obtain ⟨_, -, h⟩ := ok_of_bind h
  cases h
  obtain ⟨r, hr, rfl⟩ := List.mem_map.mp hevent
  have hsent : r ∈ db.changes.sent := by
    split_ifs at hr <;> rw [List.mem_reverse] at hr
    · exact (List.mem_filter.mp (List.mem_reverse.mp (List.mem_of_mem_take (List.mem_of_mem_take hr)))).1
    · exact (List.mem_filter.mp (List.mem_reverse.mp (List.mem_of_mem_take hr))).1
  exact mem_replayed hsent (db.changes.positive _ (mem_sentOf.mp hsent).1) rfl

theorem sessionMessages_subset {sessionId : String}
    (h : db.sessionMessages sessionId options = .ok page) :
    ∃ n, CursorCodec.decode (options.afterCursor.getD "0") = some n ∧ n < 2 ^ 63 ∧
      ∀ event ∈ page.events, event ∈ replayed db n options.channelId := by
  obtain ⟨n, hn, h⟩ := ok_of_bind h
  obtain ⟨limit, -, h⟩ := ok_of_bind h
  obtain ⟨_, hbound, h⟩ := ok_of_bind h
  cases h
  refine ⟨n, after_ok hn, bound_of_ok hbound, fun event hevent => ?_⟩
  obtain ⟨r, hr, rfl, hpast, hscope⟩ := newestPage_subset hevent
  refine mem_replayed hr hpast ?_
  rw [Database.inScope, ← Database.ofChannel, hscope, Bool.true_or]

theorem channelMessages_subset {channelId : String}
    (h : db.channelMessages channelId options = .ok page) :
    ∃ n, CursorCodec.decode (options.afterCursor.getD "0") = some n ∧ n < 2 ^ 63 ∧
      ∀ event ∈ page.events, event ∈ replayed db n (some channelId) := by
  obtain ⟨n, hn, h⟩ := ok_of_bind h
  obtain ⟨limit, -, h⟩ := ok_of_bind h
  split_ifs at h
  obtain ⟨_, hbound, h⟩ := ok_of_bind h
  cases h
  refine ⟨n, after_ok hn, bound_of_ok hbound, fun event hevent => ?_⟩
  obtain ⟨r, hr, rfl, hpast, hscope⟩ := newestPage_subset hevent
  refine mem_replayed hr hpast ?_
  rw [Database.inScope, hscope, Bool.or_true, Bool.true_or]

/-- What a request returns that names no single event, from a cursor. -/
def eventsFrom (db : Database) (request : GetEventsRequest) (afterCursor : String) : Except Failure EventPage :=
  let options : PageOptions := ⟨some afterCursor, request.channelId, request.sessionId, request.limit⟩
  if Text.given request.replyToEventId then db.messageReplies (request.replyToEventId.getD "") options
  else if Text.given request.sessionId then db.sessionMessages (request.sessionId.getD "") options
  else if Text.given request.channelId ∧ request.limit.any (· ≠ 0) then
    db.channelMessages (request.channelId.getD "") options
  else do
    let changes ← db.replay afterCursor request.channelId
    return { events := changes.filterMap Change.sent?
             cursor := Paging.reached Change.cursor changes ((CursorCodec.decode afterCursor).getD 0)
             oldestCursor := none
             hasMore := false }

theorem getEvents_eq (db : Database) (request : GetEventsRequest) (hevent : ¬Text.given request.eventId) :
    db.getEvents request = (startOf db request).bind (eventsFrom db request) := by
  have hnone : Text.given request.eventId = false := Bool.eq_false_iff.mpr hevent
  unfold Database.getEvents startOf
  simp only [hnone, Bool.false_eq_true, false_and, if_false]
  cases request.afterCursor with
  | some cursor => rfl
  | none =>
    dsimp only
    by_cases hafter : Text.given request.afterEventId = true
    · rw [if_pos hafter, if_pos hafter]
      rfl
    · rw [if_neg hafter, if_neg hafter]
      rfl

theorem unfiltered_ok {start : String} {n : Nat} (hstart : startOf db request = .ok start)
    (hevent : ¬Text.given request.eventId) (hreply : ¬Text.given request.replyToEventId)
    (hn : CursorCodec.decode start = some n) (hbound : n < 2 ^ 63) :
    ∃ full, db.getEvents (unfiltered request) = .ok full ∧ full.events = replayed db n request.channelId := by
  have hsame : unfiltered request = { request with sessionId := none, limit := none } := if_neg hreply
  have hcall : db.getEvents { request with sessionId := none, limit := none } =
      eventsFrom db { request with sessionId := none, limit := none } start := by
    rw [getEvents_eq db { request with sessionId := none, limit := none } hevent]
    exact congrArg (Except.bind · _) hstart
  have hreplay := Database.replay_of_lt db request.channelId hn hbound
  refine ⟨⟨replayed db n request.channelId, Paging.reached Change.cursor (db.changesAfter n request.channelId)
    ((CursorCodec.decode start).getD 0), none, false⟩, ?_, rfl⟩
  rw [hsame, hcall, eventsFrom]
  dsimp only
  rw [if_neg hreply, if_neg (by decide), if_neg (by simp), hreplay]
  rfl

theorem unfiltered_reply (db : Database) (hreply : Text.given request.replyToEventId) :
    ∃ full, db.getEvents (unfiltered request) = .ok full ∧ full.events = replayed db 0 none := by
  have hsame : unfiltered request = {} := if_pos hreply
  rw [hsame]
  exact ⟨_, rfl, rfl⟩

theorem getEvents_filtered (hevent : ¬Text.given request.eventId) (h : db.getEvents request = .ok page) :
    ∃ full, db.getEvents (unfiltered request) = .ok full ∧ ∀ event ∈ page.events, event ∈ full.events := by
  rw [getEvents_eq db request hevent] at h
  obtain ⟨start, hstart, hpage⟩ := ok_of_bind h
  by_cases hreply : Text.given request.replyToEventId
  · rw [eventsFrom, if_pos hreply] at hpage
    obtain ⟨full, hfull, hevents⟩ := unfiltered_reply db hreply
    exact ⟨full, hfull, fun event hmem => hevents ▸ messageReplies_subset hpage hmem⟩
  · have hall : ∃ n, CursorCodec.decode start = some n ∧ n < 2 ^ 63 ∧
        ∀ event ∈ page.events, event ∈ replayed db n request.channelId := by
      rw [eventsFrom, if_neg hreply] at hpage
      split_ifs at hpage with hsession hchannel
      · exact sessionMessages_subset hpage
      · have hchannelId : some (request.channelId.getD "") = request.channelId := by
          cases hid : request.channelId with
          | none =>
            rw [hid] at hchannel
            cases hchannel.1
          | some channelId => rfl
        rw [← hchannelId]
        exact channelMessages_subset hpage
      · obtain ⟨changes, hchanges, hpage⟩ := ok_of_bind hpage
        obtain ⟨n, hn, hbound, rfl⟩ := Database.replay_ok hchanges
        cases hpage
        exact ⟨n, hn, hbound, fun event hmem => hmem⟩
    obtain ⟨n, hn, hbound, hsubset⟩ := hall
    obtain ⟨full, hfull, hevents⟩ := unfiltered_ok hstart hevent hreply hn hbound
    exact ⟨full, hfull, fun event hmem => hevents ▸ hsubset event hmem⟩

theorem getEvents_event (db : Database) (hevent : Text.given request.eventId) (one other : String) :
    db.getEvents { request with sessionId := some one } = db.getEvents { request with sessionId := some other } := by
  unfold Database.getEvents
  simp only [hevent, true_and, if_true]

theorem not_namesAlike {β : Type} (observe : Except Failure ReadAnswer × UsageHistory → β) {request : ReadRequest}
    (one : String) (hok : (s.read u caller (request.naming one)).1.isOk = true)
    (hseen : observe (s.read u caller (request.naming one)) ≠ observe (s.read u caller (request.naming actor))) :
    ¬NamesAlike u s caller actor request := by
  intro halike
  rcases halike one actor with hsame | ⟨-, e, herror⟩ | ⟨hother, -⟩
  · exact hseen (congrArg observe hsame)
  · rw [herror] at hok
    cases hok
  · exact hother rfl

end Reads

/-- Whatever the store: a read counts the connection for its session, and a session id in the request is not read, or
must be that of the connection unless an operator asks, or filters what every connection may read. -/
theorem reads_granted (u : UsageSurroundings) (s : ReadStore) (caller : Caller) (actor : String)
    (hactor : authenticated caller = .ok actor) : ReadsGranted u s caller actor where
  session caller' hactor' request _ := read_session hactor hactor' request
  controls _ _ _ _ _ _ := .inl rfl
  series hrole scope id window collect := series_alike hactor hrole scope id window collect
  event request hevent one other := by
    left
    simp only [ReadRequest.naming, ReadStore.read, getEvents_event s.daemon.db hevent one other]
  filtered request hevent page hpage anyone := by
    have hread : s.daemon.db.getEvents request = .ok page := by
      simp only [ReadStore.read] at hpage
      cases hresult : s.daemon.db.getEvents request with
      | error e =>
        rw [hresult] at hpage
        cases hpage
      | ok found =>
        rw [hresult] at hpage
        cases hpage
        rfl
    obtain ⟨full, hfull, hsubset⟩ := getEvents_filtered hevent hread
    refine ⟨full, ?_, hsubset⟩
    simp only [ReadStore.read, hfull]
    rfl

def aboard (sessionId : String) : Caller := ⟨⟨[], some sessionId⟩, none⟩

def logbook (db : Database) : ReadStore := ⟨Daemon.initial (.initial db tally tally), {}⟩

def idle : UsageSurroundings := ⟨⟨none, none⟩, fun _ _ => ⟨⟨none, none, none, none⟩, .unavailable, ""⟩, fun _ => 0⟩

def ReadAnswer.size : ReadAnswer → Nat
  | .channelControlPages pages => ((pages.controls "deck").map fun page => page.events.length).getD 0
  | .getControls page => page.events.length
  | .getEvents page => page.events.length
  | .usageSeries series => series.id.length

theorem reads_granted_stowaway : ReadsGranted idle (logbook Feeds.decks) (aboard "stowaway") "stowaway" :=
  reads_granted idle (logbook Feeds.decks) (aboard "stowaway") "stowaway" rfl

/-- The stowaway reads the controls of the deck and the letters of the helm under the name of the helm; an operator
reads whose usage it names. -/
theorem named_session_read :
    ¬NamesAlike idle (logbook Feeds.decks) (aboard "stowaway") "stowaway"
        (.channelControlPages (some [⟨"deck", none⟩]) none none) ∧
      ¬NamesAlike idle (logbook Feeds.loggedLetter) (aboard "stowaway") "stowaway" (.getEvents {}) ∧
      ¬NamesAlike idle (logbook Feeds.decks) (aboard "helm") "helm" (.usageSeries "session" "helm" "1h" false) := by
  refine ⟨?_, ?_, ?_⟩
  · exact not_namesAlike (fun r => r.1.toOption.map ReadAnswer.size) "helm" (by decide +kernel) (by decide +kernel)
  · exact not_namesAlike (fun r => r.1.toOption.map ReadAnswer.size) "helm" (by decide +kernel) (by decide +kernel)
  · exact not_namesAlike (fun r => r.1.toOption.map ReadAnswer.size) "stowaway" (by decide +kernel)
      (by decide +kernel)

end Wardroom.Runtime.Reads
