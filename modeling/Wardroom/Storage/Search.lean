import Wardroom.Library.CaseMapping
import Wardroom.Library.Lines
import Wardroom.Library.Text
import Wardroom.Library.Utf16
import Wardroom.Storage.Database

/-! # Search

A query is literal text. The rows are matched by the store, whose lower case is
that of ASCII, and the query and the names of channels have the lower case of
JavaScript.
-/

namespace Wardroom.Storage
open Wardroom.Library Wardroom.Domain

def SEARCH_DEFAULT_LIMIT : Int := 20
def SEARCH_MAX_LIMIT : Int := 500
def SEARCH_EXCERPT_RADIUS : Nat := 90

/-- The longest pattern of `LIKE`, in bytes. -/
def SQLITE_MAX_LIKE_PATTERN_LENGTH : Nat := 50000

/-- What the searches take from the language. -/
structure Texts where
  cases : CaseTable
  /-- `String(value)` of what is not a string. -/
  text : Json → String
  /-- `left.localeCompare(right) <= 0`. -/
  notAfter : String → String → Bool

structure SearchOptions where
  channelId : Option String := none
  limit : Option Int := none
  includeControl : Bool := true
  activeOnly : Bool := false

/-- A limit that is no whole number is refused like one out of range. -/
def searchLimit (value : Option Int) : Except Failure Nat :=
  let limit := value.getD SEARCH_DEFAULT_LIMIT
  if limit < 1 ∨ SEARCH_MAX_LIMIT < limit then .error (.rooms "invalidLimit" "limit must be an integer between 1 and 500")
  else .ok limit.toNat

/-- `query.trim().toLowerCase()`. -/
def searchNeedle (T : CaseTable) (query : String) : List Char := T.toLowerCase (Text.trim query).toList

def likeContaining (needle : List Char) : List Char := '%' :: (Like.escape needle ++ ['%'])

def likePattern (T : CaseTable) (query : String) : Except Failure (List Char) :=
  if searchNeedle T query = [] then .error (.rooms "invalidSearchQuery" "search query must not be empty")
  else .ok (likeContaining (searchNeedle T query))

/-- The text that SQLite makes of an extracted value. -/
def sqlText : Option Json → Option (List Char)
  | none => none
  | some .null => none
  | some (.bool b) => some [if b then '1' else '0']
  | some (.num t) => some t.toList
  | some (.str s) => some s.toList
  | some value => some value.render.toList

/-- `lower(text) LIKE pattern ESCAPE '\'`. -/
def sqlLike (pattern : List Char) (text : Option (List Char)) : Except Failure Bool :=
  if SQLITE_MAX_LIKE_PATTERN_LENGTH < Lines.size pattern then .error (.sqlite "LIKE or GLOB pattern too complex")
  else .ok (text.any fun t => Like.like pattern (Like.lower t))

/-- The rows of a query whose condition may fail. -/
def selectRows {α : Type} (p : α → Except Failure Bool) : List α → Except Failure (List α)
  | [] => .ok []
  | row :: rows => do
    let keeps ← p row
    let rest ← selectRows p rows
    return if keeps then row :: rest else rest

/-- `max(column)`. -/
def sqlMax : List String → Option String
  | [] => none
  | text :: texts => some ((sqlMax texts).elim text fun m => if text < m then m else text)

/-- `left < right` in code units. -/
def jsLess (left right : String) : Bool := JsString.ofChars left.toList < JsString.ofChars right.toList

/-- The part of a channel that contains a query. -/
inductive Part where
  | id
  | label
  | message
  | control
  deriving DecidableEq

structure ChannelSearchHit where
  channelId : String
  label : Option String
  lifecycleState : LifecycleState
  registeredAt : String
  messageMatches : Nat
  controlMatches : Nat
  matchedIn : List Part
  lastMatchAt : Option String
  lastActivityAt : Option String
  excerpt : Option JsString

def isControl (c : Change) : Bool :=
  match c.payload with
  | .controlCommitted .. => true
  | _ => false

def searchedText (includeControl : Bool) (c : Change) : Option (Option (List Char)) :=
  match c.payload with
  | .messageSent event => some (sqlText (event.member "body"))
  | .controlCommitted _ _ _ _ payload _ _ => if includeControl then some (sqlText (some payload)) else none
  | _ => none

def rowMatches (pattern : List Char) (includeControl : Bool) (c : Change) : Except Failure Bool :=
  match searchedText includeControl c with
  | none => .ok false
  | some text => sqlLike pattern text

def searchRank (hit : ChannelSearchHit) : String := (hit.lastMatchAt.or hit.lastActivityAt).getD hit.registeredAt

/-- The comparison of `hits.sort`: the newest first. -/
def hitNotAfter (texts : Texts) (left right : ChannelSearchHit) : Bool :=
  if searchRank left = searchRank right then texts.notAfter left.channelId right.channelId
  else !jsLess (searchRank left) (searchRank right)

/-- `text.replace(/\s+/gu, " ")`, after a character that is a space or not. -/
def flattened : Bool → List Char → List Char
  | _, [] => []
  | after, c :: text =>
    if Text.isSpace c then (if after then [] else [' ']) ++ flattened true text else c :: flattened false text

def indexOf (text needle : JsString) : Option Nat := text.tails.findIdx? fun suffix => needle.isPrefixOf suffix

/-- One readable window around a match. -/
def excerptAround (T : CaseTable) (text query : String) : Option JsString :=
  let flat := (Text.trim (String.ofList (flattened false text.toList))).toList
  let units := JsString.ofChars flat
  if flat = [] then none
  else
    match indexOf (JsString.ofChars (T.toLowerCase flat)) (JsString.ofChars (searchNeedle T query)) with
    | none => some (units.take (SEARCH_EXCERPT_RADIUS * 2))
    | some found =>
      let start := found - SEARCH_EXCERPT_RADIUS
      let stop := min units.length (found + (JsString.ofChars (Text.trim query).toList).length + SEARCH_EXCERPT_RADIUS)
      some ((if 0 < start then [0x2026] else []) ++ (units.drop start).take (stop - start) ++
        (if stop < units.length then [0x2026] else []))

def excerptText (texts : Texts) (c : Change) : String :=
  match c.payload with
  | .messageSent event =>
    match (event.member "body").filter fun v => !Json.nullish (some v) with
    | none => ""
    | some (.str s) => s
    | some value => texts.text value
  | .controlCommitted _ _ _ _ payload _ _ => (if Json.nullish (some payload) then .str "" else payload).render
  | _ => ""

namespace Database

/-- The messages that a search looks at. -/
def messagesOf (db : Database) (channelId : Option String) : List Json :=
  (db.changes.sent.filter fun r => (Text.trimmed channelId).all fun id => r.1.channelId = some id).map Prod.snd

/-- The newest messages whose body contains a query. -/
def searchMessages (db : Database) (texts : Texts) (query : String) (options : SearchOptions) : Except Failure (List Json) := do
  let limit ← searchLimit options.limit
  let pattern ← likePattern texts.cases query
  let found ← selectRows (fun event => sqlLike pattern (sqlText (event.member "body"))) (db.messagesOf options.channelId)
  return found.reverse.take limit

def lastChannelActivity (db : Database) (channelId : String) : Option String :=
  sqlMax ((db.changes.rows.filter fun c => c.channelId = some channelId).map Change.occurredAt)

/-- The hit of a candidate, without its excerpt. -/
def channelHit (db : Database) (T : CaseTable) (query : String) (found : List Change) (channel : Channel) :
    ChannelSearchHit :=
  let own := found.filter fun c => c.channelId = some channel.id
  let messageMatches := own.countP fun c => c.sent?.isSome
  let controlMatches := own.countP isControl
  let needle := searchNeedle T query
  { channelId := channel.id
    label := channel.label
    lifecycleState := channel.lifecycleState
    registeredAt := channel.registeredAt
    messageMatches := messageMatches
    controlMatches := controlMatches
    matchedIn := (if Like.includes (T.toLowerCase channel.id.toList) needle then [.id] else []) ++
      (if channel.label.any fun label => label ≠ "" && Like.includes (T.toLowerCase label.toList) needle then [.label]
        else []) ++
      (if 0 < messageMatches then [.message] else []) ++ (if 0 < controlMatches then [.control] else [])
    lastMatchAt := sqlMax (own.map Change.occurredAt)
    lastActivityAt := db.lastChannelActivity channel.id
    excerpt := none }

def channelMatchExcerpt (db : Database) (texts : Texts) (channelId : String) (pattern : List Char) (includeControl : Bool)
    (query : String) : Except Failure (Option JsString) := do
  let found ← selectRows (rowMatches pattern includeControl) (db.changes.rows.filter fun c => c.channelId = some channelId)
  return found.getLast?.bind fun c => excerptAround texts.cases (excerptText texts c) query

/-- The channels whose id or label contains the query. -/
def namedChannels (db : Database) (pattern : List Char) : Except Failure (List Channel) :=
  selectRows (fun channel => do
    let inId ← sqlLike pattern (some channel.id.toList)
    let inLabel ← sqlLike pattern (some (channel.label.getD "").toList)
    return inId || inLabel) db.channels.rows

/-- The channels that a query is found in: first those of the rows, then those of the names. -/
def candidates (found : List Change) (named : List Channel) : List String :=
  let matched := (found.filterMap Change.channelId).dedup
  matched ++ (named.map Channel.id).filter fun id => id ∉ matched

def searchChannels (db : Database) (texts : Texts) (query : String) (options : SearchOptions) :
    Except Failure (List ChannelSearchHit) := do
  let limit ← searchLimit options.limit
  let pattern ← likePattern texts.cases query
  let found ← selectRows (rowMatches pattern options.includeControl) (db.changes.rows.filter fun c => c.channelId.isSome)
  let named ← db.namedChannels pattern
  let channels := ((candidates found named).filterMap db.currentChannel).filter fun channel =>
    !options.activeOnly || channel.lifecycleState = .active
  let hits := (channels.map (db.channelHit texts.cases query found)).mergeSort (hitNotAfter texts)
  (hits.take limit).mapM fun hit => do
    let excerpt ← db.channelMatchExcerpt texts hit.channelId pattern options.includeControl query
    return { hit with excerpt := excerpt }

end Database

end Wardroom.Storage
