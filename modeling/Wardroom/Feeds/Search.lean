import Wardroom.Library.Program
import Wardroom.Storage.Search
import Wardroom.Storage.Command

/-! # What the searches find

The store ignores the case of ASCII only, and finds nothing that the comparison
of JavaScript would not. What it misses contains the query only by the case of
another letter.
-/

namespace Wardroom.Feeds
open Wardroom.Library Wardroom.Domain Wardroom.Storage

/-- The text contains the query, whatever the case of its letters. -/
def contains (T : CaseTable) (query : String) (text : Option (List Char)) : Bool :=
  text.any fun t => Like.includes (T.toLowerCase t) (searchNeedle T query)

/-- The text contains the query when only the case of ASCII is ignored. -/
def containsAscii (T : CaseTable) (query : String) (text : Option (List Char)) : Bool :=
  text.any fun t => Like.includes (Like.lower t) (searchNeedle T query)

/-- The pattern of a query is not too long for `LIKE`. -/
def Fits (T : CaseTable) (query : String) : Prop :=
  Lines.size (likeContaining (searchNeedle T query)) ≤ SQLITE_MAX_LIKE_PATTERN_LENGTH

def bodyText (event : Json) : Option (List Char) := sqlText (event.member "body")

def containing (T : CaseTable) (query : String) (limit : Nat) (events : List Json) : List Json :=
  (events.filter fun event => contains T query (bodyText event)).reverse.take limit

def partTexts (db : Database) (includeControl : Bool) (channel : Channel) : Part → List (Option (List Char))
  | .id => [some channel.id.toList]
  | .label => [channel.label.map String.toList]
  | .message => (db.changes.sent.filter fun r => r.1.channelId = some channel.id).map fun r => bodyText r.2
  | .control => (db.changes.rows.filter fun c => c.channelId = some channel.id && isControl c).filterMap
      (searchedText includeControl)

def containingParts (T : CaseTable) (db : Database) (query : String) (includeControl : Bool) (channel : Channel) :
    List Part :=
  [.id, .label, .message, .control].filter fun part => (partTexts db includeControl channel part).any (contains T query)

/-- A part that contains the query contains it when only the case of ASCII is ignored. -/
def NoneMissed (T : CaseTable) (db : Database) (query : String) (includeControl : Bool) (channel : Channel) : Prop :=
  ∀ part ∈ [Part.message, .control], (partTexts db includeControl channel part).any (contains T query) = true →
    (partTexts db includeControl channel part).any (containsAscii T query) = true

section Matching

variable {T : CaseTable} {query : String}

theorem needle_ne_nil (h : Text.trim query ≠ "") : searchNeedle T query ≠ [] := by
  intro hnil
  rw [searchNeedle, CaseTable.toLowerCase_eq_nil] at hnil
  exact h (String.toList_eq_nil_iff.mp hnil)

theorem contains_of_ascii {text : Option (List Char)} (h : containsAscii T query text = true) :
    contains T query text = true := by
  cases text with
  | none => cases h
  | some t =>
    rw [containsAscii, Option.any_some, Like.includes_iff] at h
    rw [contains, Option.any_some, Like.includes_iff]
    exact CaseTable.infix_toLowerCase (CaseTable.lowered_toLowerCase _) h

theorem like_containing {needle : List Char} (h : T.Lowered needle) (text : List Char) :
    Like.like (likeContaining needle) (Like.lower text) = Like.includes (Like.lower text) needle := by
  rw [Bool.eq_iff_iff, likeContaining, Like.like_escape, Like.lower_lower, Like.includes_iff, h.lower_eq]

theorem sqlLike_eq (hfits : Fits T query) (text : Option (List Char)) :
    sqlLike (likeContaining (searchNeedle T query)) text = .ok (containsAscii T query text) := by
  have hlower : T.Lowered (searchNeedle T query) := CaseTable.lowered_toLowerCase _
  rw [Fits] at hfits
  rw [sqlLike, if_neg (Nat.not_lt.mpr hfits), containsAscii]
  cases text with
  | none => rw [Option.any_none, Option.any_none]
  | some t => rw [Option.any_some, Option.any_some, like_containing hlower]

theorem sqlLike_long (hlong : ¬ Fits T query) (text : Option (List Char)) :
    sqlLike (likeContaining (searchNeedle T query)) text = .error (.sqlite "LIKE or GLOB pattern too complex") := by
  rw [sqlLike, if_pos (Nat.not_le.mp hlong)]

end Matching

section Rows

variable {α : Type} {p : α → Except Failure Bool}

theorem selectRows_ok {q : α → Bool} {rows : List α} (h : ∀ row ∈ rows, p row = .ok (q row)) :
    selectRows p rows = .ok (rows.filter q) := by
  induction rows with
  | nil => rfl
  | cons row rows ih =>
    obtain ⟨hrow, hrows⟩ := List.forall_mem_cons.mp h
    rw [selectRows, hrow, ih hrows, List.filter_cons]
    cases q row <;> rfl

theorem selectRows_error {e : Failure} {row : α} {rows : List α} (h : p row = .error e) :
    selectRows p (row :: rows) = .error e := by
  rw [selectRows, h]
  rfl

theorem take_filter_eq_iff {q : α → Bool} {n : Nat} {rows : List α} :
    (rows.filter q).take n = rows.take n ↔ ∀ row ∈ rows.take n, q row = true := by
  constructor
  · intro hsame row hrow
    rw [← hsame] at hrow
    exact (List.mem_filter.mp (List.mem_of_mem_take hrow)).2
  · intro hall
    induction rows generalizing n with
    | nil => rfl
    | cons row rows ih =>
      cases n with
      | zero => rw [List.take_zero, List.take_zero]
      | succ n =>
        rw [List.take_succ_cons] at hall ⊢
        obtain ⟨hrow, hrows⟩ := List.forall_mem_cons.mp hall
        rw [List.filter_cons, if_pos hrow, List.take_succ_cons, ih hrows]

end Rows

section Messages

variable {texts : Texts} {query : String} {options : SearchOptions} {limit : Nat}

theorem likePattern_eq {T : CaseTable} (hquery : Text.trim query ≠ "") :
    likePattern T query = .ok (likeContaining (searchNeedle T query)) := by
  rw [likePattern, if_neg (needle_ne_nil hquery)]

theorem filter_ascii {T : CaseTable} {α : Type} (text : α → Option (List Char)) (rows : List α) :
    (rows.filter fun row => containsAscii T query (text row)) =
      (rows.filter fun row => contains T query (text row)).filter fun row => containsAscii T query (text row) := by
  rw [List.filter_filter]
  refine List.filter_congr fun row _ => ?_
  cases hascii : containsAscii T query (text row) with
  | false => rfl
  | true => rw [contains_of_ascii hascii]; rfl

theorem searchMessages_iff (db : Database) (hquery : Text.trim query ≠ "") (hlimit : searchLimit options.limit = .ok limit) :
    db.searchMessages texts query options =
        .ok (containing texts.cases query limit (db.messagesOf options.channelId)) ↔
      (db.messagesOf options.channelId = [] ∨ Fits texts.cases query) ∧
        ∀ event ∈ containing texts.cases query limit (db.messagesOf options.channelId),
          containsAscii texts.cases query (bodyText event) = true := by
  unfold Database.searchMessages
  rw [hlimit, likePattern_eq hquery]
  change (selectRows (fun event => sqlLike (likeContaining (searchNeedle texts.cases query)) (bodyText event))
    (db.messagesOf options.channelId) >>= fun found => .ok (found.reverse.take limit)) = _ ↔ _
  generalize db.messagesOf options.channelId = events
  by_cases hfits : Fits texts.cases query
  · rw [selectRows_ok fun event _ => sqlLike_eq hfits (bodyText event), filter_ascii]
    change Except.ok _ = Except.ok _ ↔ _
    rw [Except.ok.injEq, containing, ← List.filter_reverse, take_filter_eq_iff]
    exact ⟨fun hall => ⟨.inr hfits, hall⟩, fun h => h.2⟩
  · cases events with
    | nil =>
      have hnone : containing texts.cases query limit [] = [] := List.take_nil
      rw [hnone]
      exact ⟨fun _ => ⟨.inl rfl, fun _ hmem => (List.not_mem_nil hmem).elim⟩, fun _ => congrArg Except.ok List.take_nil⟩
    | cons event events =>
      have herror := @selectRows_error _ (fun event => sqlLike (likeContaining (searchNeedle texts.cases query)) (bodyText event))
        _ _ events (sqlLike_long hfits (bodyText event))
      rw [herror]
      constructor
      · intro hok
        cases hok
      · rintro ⟨hnone | hfits', -⟩
        · cases hnone
        · exact absurd hfits' hfits

end Messages

section Selected

variable {α β : Type} {p : α → Except Failure Bool}

theorem selectRows_of_ok {q : α → Bool} (hp : ∀ row keeps, p row = .ok keeps → keeps = q row) {rows found : List α}
    (h : selectRows p rows = .ok found) : found = rows.filter q := by
  induction rows generalizing found with
  | nil =>
    cases h
    rfl
  | cons row rows ih =>
    rw [selectRows] at h
    obtain ⟨keeps, hrow, h⟩ := ok_of_bind h
    obtain ⟨rest, hrest, h⟩ := ok_of_bind h
    cases h
    rw [List.filter_cons, ← hp row keeps hrow, ih hrest]

theorem mem_of_mapM {f : α → Except Failure β} {rows : List α} {results : List β} (h : rows.mapM f = .ok results)
    {result : β} (hmem : result ∈ results) : ∃ row ∈ rows, f row = .ok result := by
  induction rows generalizing results with
  | nil =>
    cases h
    cases hmem
  | cons row rows ih =>
    rw [List.mapM_cons] at h
    obtain ⟨first, hfirst, h⟩ := ok_of_bind h
    obtain ⟨rest, hrest, h⟩ := ok_of_bind h
    cases h
    rcases List.mem_cons.mp hmem with rfl | hlater
    · exact ⟨row, List.mem_cons_self, hfirst⟩
    · obtain ⟨row', hrow', hresult⟩ := ih hrest hlater
      exact ⟨row', List.mem_cons_of_mem _ hrow', hresult⟩

end Selected

/-- The parts, in the order in which a hit lists them. -/
def listed (id label message control : Bool) : List Part :=
  (if id then [.id] else []) ++ (if label then [.label] else []) ++ (if message then [.message] else []) ++
    (if control then [.control] else [])

theorem listed_ne_nil {id label message control : Bool} :
    listed id label message control ≠ [] ↔ id = true ∨ label = true ∨ message = true ∨ control = true := by
  cases id <;> cases label <;> cases message <;> cases control <;> simp [listed]

theorem listed_eq_iff {id label m c m' c' : Bool} : listed id label m c = listed id label m' c' ↔ m = m' ∧ c = c' := by
  cases id <;> cases label <;> cases m <;> cases c <;> cases m' <;> cases c' <;> simp [listed]

section Hits

variable {T : CaseTable} {db : Database} {query : String} {includeControl : Bool} {channel : Channel}

theorem containingParts_eq : containingParts T db query includeControl channel =
    listed (contains T query (some channel.id.toList)) (contains T query (channel.label.map String.toList))
      ((partTexts db includeControl channel .message).any (contains T query))
      ((partTexts db includeControl channel .control).any (contains T query)) := by
  have hid : (partTexts db includeControl channel .id).any (contains T query) =
      contains T query (some channel.id.toList) := Bool.or_false _
  have hlabel : (partTexts db includeControl channel .label).any (contains T query) =
      contains T query (channel.label.map String.toList) := Bool.or_false _
  rw [containingParts, List.filter_cons, List.filter_cons, List.filter_cons, List.filter_cons, List.filter_nil, hid, hlabel]
  generalize contains T query (some channel.id.toList) = i
  generalize contains T query (channel.label.map String.toList) = l
  generalize (partTexts db includeControl channel .message).any (contains T query) = m
  generalize (partTexts db includeControl channel .control).any (contains T query) = c
  cases i <;> cases l <;> cases m <;> cases c <;> rfl

/-- A row that the store finds. -/
def rowFound (T : CaseTable) (query : String) (includeControl : Bool) (c : Change) : Bool :=
  (searchedText includeControl c).any (containsAscii T query)

/-- The rows of all channels that the store finds. -/
def foundRows (T : CaseTable) (db : Database) (query : String) (includeControl : Bool) : List Change :=
  (db.changes.rows.filter fun c => c.channelId.isSome).filter (rowFound T query includeControl)

theorem mem_own {c : Change} :
    c ∈ (foundRows T db query includeControl).filter (fun c => c.channelId = some channel.id) ↔
      c ∈ db.changes.rows ∧ c.channelId = some channel.id ∧ rowFound T query includeControl c = true := by
  rw [foundRows, List.mem_filter, List.mem_filter, List.mem_filter, decide_eq_true_eq]
  constructor
  · rintro ⟨⟨⟨hmem, -⟩, hfound⟩, hchannel⟩
    exact ⟨hmem, hchannel, hfound⟩
  · rintro ⟨hmem, hchannel, hfound⟩
    exact ⟨⟨⟨hmem, by rw [hchannel]; rfl⟩, hfound⟩, hchannel⟩

theorem messageMatches_pos :
    decide (0 < ((foundRows T db query includeControl).filter fun c => c.channelId = some channel.id).countP
      fun c => c.sent?.isSome) = (partTexts db includeControl channel .message).any (containsAscii T query) := by
  rw [Bool.eq_iff_iff, decide_eq_true_eq, List.countP_pos_iff, List.any_eq_true]
  constructor
  · rintro ⟨c, hc, hsent⟩
    obtain ⟨hmem, hchannel, hfound⟩ := mem_own.mp hc
    obtain ⟨event, hevent⟩ := Option.isSome_iff_exists.mp hsent
    refine ⟨bodyText event, List.mem_map.mpr ⟨(c, event), List.mem_filter.mpr ⟨mem_sentOf.mpr ⟨hmem, hevent⟩, ?_⟩, rfl⟩, ?_⟩
    · exact decide_eq_true hchannel
    · rw [Change.sent?] at hevent
      rw [rowFound, searchedText] at hfound
      split at hevent
      · cases hevent
        rename_i hpayload
        rw [hpayload] at hfound
        exact hfound
      · cases hevent
  · rintro ⟨text, htext, hfound⟩
    obtain ⟨⟨c, event⟩, hr, rfl⟩ := List.mem_map.mp htext
    obtain ⟨hsent, hchannel⟩ := List.mem_filter.mp hr
    obtain ⟨hmem, hevent⟩ := mem_sentOf.mp hsent
    refine ⟨c, mem_own.mpr ⟨hmem, of_decide_eq_true hchannel, ?_⟩, by rw [hevent]; rfl⟩
    rw [Change.sent?] at hevent
    rw [rowFound, searchedText]
    split at hevent
    · cases hevent
      rename_i hpayload
      rw [hpayload]
      exact hfound
    · cases hevent

theorem controlMatches_pos :
    decide (0 < ((foundRows T db query includeControl).filter fun c => c.channelId = some channel.id).countP isControl) =
      (partTexts db includeControl channel .control).any (containsAscii T query) := by
  rw [Bool.eq_iff_iff, decide_eq_true_eq, List.countP_pos_iff, List.any_eq_true]
  constructor
  · rintro ⟨c, hc, hcontrol⟩
    obtain ⟨hmem, hchannel, hfound⟩ := mem_own.mp hc
    obtain ⟨text, htext, hascii⟩ := (Option.any_eq_true _ _).mp hfound
    refine ⟨text, List.mem_filterMap.mpr ⟨c, List.mem_filter.mpr ⟨hmem, ?_⟩, htext⟩, hascii⟩
    rw [Bool.and_eq_true]
    exact ⟨decide_eq_true hchannel, hcontrol⟩
  · rintro ⟨text, htext, hascii⟩
    obtain ⟨c, hc, htext⟩ := List.mem_filterMap.mp htext
    obtain ⟨hmem, hboth⟩ := List.mem_filter.mp hc
    rw [Bool.and_eq_true] at hboth
    exact ⟨c, mem_own.mpr ⟨hmem, of_decide_eq_true hboth.1, (Option.any_eq_true _ _).mpr ⟨text, htext, hascii⟩⟩, hboth.2⟩

theorem contains_nil (hquery : Text.trim query ≠ "") : contains T query (some []) = false := by
  rw [contains, Option.any_some, Bool.eq_false_iff]
  intro hincludes
  rw [Like.includes_iff] at hincludes
  exact needle_ne_nil hquery (List.infix_nil.mp hincludes)

theorem matchedIn_eq (hquery : Text.trim query ≠ "") :
    (db.channelHit T query (foundRows T db query includeControl) channel).matchedIn =
      listed (contains T query (some channel.id.toList)) (contains T query (channel.label.map String.toList))
        ((partTexts db includeControl channel .message).any (containsAscii T query))
        ((partTexts db includeControl channel .control).any (containsAscii T query)) := by
  rw [← messageMatches_pos, ← controlMatches_pos]
  have hlabel : (channel.label.any fun label => label ≠ "" && Like.includes (T.toLowerCase label.toList) (searchNeedle T query)) =
      contains T query (channel.label.map String.toList) := by
    cases channel.label with
    | none => rfl
    | some label =>
      rw [Option.any_some, Option.map_some]
      by_cases hempty : label = ""
      · rw [hempty]
        exact (contains_nil hquery).symm
      · rw [decide_eq_true hempty, Bool.true_and]
        rfl
  unfold Database.channelHit listed
  dsimp only
  rw [hlabel]
  simp only [decide_eq_true_eq]
  rfl

theorem sqlLike_of_ok {text : Option (List Char)} {keeps : Bool}
    (h : sqlLike (likeContaining (searchNeedle T query)) text = .ok keeps) : keeps = containsAscii T query text := by
  by_cases hfits : Fits T query
  · rw [sqlLike_eq hfits] at h
    exact (Except.ok.inj h).symm
  · rw [sqlLike_long hfits] at h
    cases h

theorem rowMatches_of_ok {c : Change} {keeps : Bool}
    (h : rowMatches (likeContaining (searchNeedle T query)) includeControl c = .ok keeps) :
    keeps = rowFound T query includeControl c := by
  rw [rowMatches] at h
  rw [rowFound]
  cases htext : searchedText includeControl c with
  | none =>
    rw [htext] at h
    exact (Except.ok.inj h).symm
  | some text =>
    rw [htext] at h
    exact sqlLike_of_ok h

/-- A channel whose name the store finds. -/
def nameFound (T : CaseTable) (query : String) (channel : Channel) : Bool :=
  containsAscii T query (some channel.id.toList) || containsAscii T query (some (channel.label.getD "").toList)

theorem namedChannels_of_ok {named : List Channel}
    (h : db.namedChannels (likeContaining (searchNeedle T query)) = .ok named) :
    named = db.channels.rows.filter (nameFound T query) := by
  refine selectRows_of_ok (fun channel keeps hkeeps => ?_) h
  obtain ⟨inId, hid, hkeeps⟩ := ok_of_bind hkeeps
  obtain ⟨inLabel, hlabel, hkeeps⟩ := ok_of_bind hkeeps
  rw [nameFound, ← sqlLike_of_ok hid, ← sqlLike_of_ok hlabel]
  exact (Except.ok.inj hkeeps).symm

theorem hit_of_searchChannels {texts : Texts} {options : SearchOptions} {hits : List ChannelSearchHit}
    (hquery : Text.trim query ≠ "") (h : db.searchChannels texts query options = .ok hits) {hit : ChannelSearchHit}
    (hmem : hit ∈ hits) :
    ∃ channel, db.currentChannel hit.channelId = some channel ∧
      channel.id ∈ Database.candidates (foundRows texts.cases db query options.includeControl)
        (db.channels.rows.filter (nameFound texts.cases query)) ∧
      hit.matchedIn = (db.channelHit texts.cases query (foundRows texts.cases db query options.includeControl) channel).matchedIn := by
  unfold Database.searchChannels at h
  obtain ⟨limit, -, h⟩ := ok_of_bind h
  obtain ⟨pattern, hpattern, h⟩ := ok_of_bind h
  rw [likePattern_eq hquery] at hpattern
  cases hpattern
  obtain ⟨found, hfound, h⟩ := ok_of_bind h
  obtain ⟨named, hnamed, h⟩ := ok_of_bind h
  obtain rfl := selectRows_of_ok (fun _ _ => rowMatches_of_ok) hfound
  obtain rfl := namedChannels_of_ok hnamed
  obtain ⟨plain, hplain, hexcerpt⟩ := mem_of_mapM h hmem
  obtain ⟨excerpt, -, hexcerpt⟩ := ok_of_bind hexcerpt
  cases hexcerpt
  obtain ⟨channel, hchannel, rfl⟩ := List.mem_map.mp (List.mem_mergeSort.mp (List.mem_of_mem_take hplain))
  obtain ⟨id, hid, hcurrent⟩ := List.mem_filterMap.mp (List.mem_filter.mp hchannel).1
  have hsame : channel.id = id := (Table.find?_some hcurrent).2
  refine ⟨channel, ?_, hsame ▸ hid, rfl⟩
  rw [← hsame] at hcurrent
  exact hcurrent

theorem listed_of_candidate (hquery : Text.trim query ≠ "") (hchannel : db.currentChannel channel.id = some channel)
    (h : channel.id ∈ Database.candidates (foundRows T db query includeControl)
      (db.channels.rows.filter (nameFound T query))) :
    (db.channelHit T query (foundRows T db query includeControl) channel).matchedIn ≠ [] := by
  rw [matchedIn_eq hquery, listed_ne_nil]
  rcases List.mem_append.mp h with hmatched | hnamed
  · obtain ⟨c, hc, hid⟩ := List.mem_filterMap.mp (List.mem_dedup.mp hmatched)
    have hown := mem_own.mp (List.mem_filter.mpr ⟨hc, decide_eq_true hid⟩)
    have hfound := hown.2.2
    have hkind : c.sent?.isSome = true ∨ isControl c = true := by
      rw [rowFound, searchedText] at hfound
      rw [Change.sent?, isControl]
      split at hfound
      · rename_i hpayload
        exact .inl (by rw [hpayload]; rfl)
      · rename_i hpayload
        exact .inr (by rw [hpayload])
      · cases hfound
    rcases hkind with hsent | hcontrol
    · refine .inr (.inr (.inl ?_))
      rw [← messageMatches_pos, decide_eq_true_eq, List.countP_pos_iff]
      exact ⟨c, mem_own.mpr hown, hsent⟩
    · refine .inr (.inr (.inr ?_))
      rw [← controlMatches_pos, decide_eq_true_eq, List.countP_pos_iff]
      exact ⟨c, mem_own.mpr hown, hcontrol⟩
  · obtain ⟨named, hrow, hid⟩ := List.mem_map.mp (List.mem_filter.mp hnamed).1
    obtain ⟨hmem, hname⟩ := List.mem_filter.mp hrow
    obtain rfl := Table.eq_of_key hmem (Table.find?_some hchannel).1 hid
    rw [nameFound, Bool.or_eq_true] at hname
    rcases hname with hid | hlabel
    · exact .inl (contains_of_ascii hid)
    · refine .inr (.inl ?_)
      have hcontains := contains_of_ascii hlabel
      cases hlabel' : named.label with
      | none =>
        rw [hlabel', Option.getD_none] at hcontains
        exact absurd hcontains (Bool.eq_false_iff.mp (contains_nil hquery))
      | some label =>
        rw [hlabel', Option.getD_some] at hcontains
        exact hcontains

/-- A hit lists a part or more, and lists exactly the parts that contain the query when the store misses none. -/
theorem matchedIn_iff {texts : Texts} {options : SearchOptions} {hits : List ChannelSearchHit}
    (hquery : Text.trim query ≠ "") (h : db.searchChannels texts query options = .ok hits) {hit : ChannelSearchHit}
    (hmem : hit ∈ hits) :
    ∃ channel, db.currentChannel hit.channelId = some channel ∧ hit.matchedIn ≠ [] ∧
      (hit.matchedIn = containingParts texts.cases db query options.includeControl channel ↔
        NoneMissed texts.cases db query options.includeControl channel) := by
  obtain ⟨channel, hchannel, hcandidate, hmatched⟩ := hit_of_searchChannels hquery h hmem
  refine ⟨channel, hchannel, ?_, ?_⟩
  · rw [hmatched]
    have hid := (Table.find?_some hchannel).2
    exact listed_of_candidate hquery (hid.symm ▸ hchannel) hcandidate
  · rw [hmatched, matchedIn_eq hquery, containingParts_eq, listed_eq_iff]
    have hiff (part : Part) :
        (partTexts db options.includeControl channel part).any (containsAscii texts.cases query) =
          (partTexts db options.includeControl channel part).any (contains texts.cases query) ↔
        ((partTexts db options.includeControl channel part).any (contains texts.cases query) = true →
          (partTexts db options.includeControl channel part).any (containsAscii texts.cases query) = true) := by
      rw [Bool.eq_iff_iff]
      refine ⟨fun hboth => hboth.mpr, fun hkept => ⟨fun hascii => ?_, hkept⟩⟩
      obtain ⟨text, htext, hascii⟩ := List.any_eq_true.mp hascii
      exact List.any_eq_true.mpr ⟨text, htext, contains_of_ascii hascii⟩
    rw [hiff, hiff, NoneMissed]
    constructor
    · rintro ⟨hmessage, hcontrol⟩ part hpart
      rcases List.mem_cons.mp hpart with rfl | hpart
      · exact hmessage
      · rw [List.mem_singleton.mp hpart]
        exact hcontrol
    · intro hall
      exact ⟨hall .message List.mem_cons_self, hall .control (List.mem_cons_of_mem _ List.mem_cons_self)⟩

end Hits

section Returns

variable {texts : Texts} {query : String} {options : SearchOptions} {limit : Nat}

theorem ok_bind {α β : Type} (a : α) (f : α → Except Failure β) : ((.ok a : Except Failure α) >>= f) = f a := rfl

theorem mapM_ok {α β : Type} {f : α → Except Failure β} {rows : List α} (h : ∀ row, ∃ result, f row = .ok result) :
    ∃ results, rows.mapM f = .ok results := by
  induction rows with
  | nil => exact ⟨[], rfl⟩
  | cons row rows ih =>
    obtain ⟨result, hresult⟩ := h row
    obtain ⟨results, hresults⟩ := ih
    exact ⟨result :: results, by rw [List.mapM_cons, hresult, hresults]; rfl⟩

theorem rowMatches_eq {T : CaseTable} (hfits : Fits T query) (includeControl : Bool) (c : Change) :
    rowMatches (likeContaining (searchNeedle T query)) includeControl c = .ok (rowFound T query includeControl c) := by
  rw [rowMatches, rowFound]
  cases searchedText includeControl c with
  | none => rfl
  | some text => exact sqlLike_eq hfits text

theorem searchChannels_returns (db : Database) (hquery : Text.trim query ≠ "")
    (hlimit : searchLimit options.limit = .ok limit) (hfits : Fits texts.cases query) :
    ∃ hits, db.searchChannels texts query options = .ok hits := by
  have hnamed : db.namedChannels (likeContaining (searchNeedle texts.cases query)) =
      .ok (db.channels.rows.filter (nameFound texts.cases query)) := by
    refine selectRows_ok fun channel _ => ?_
    rw [sqlLike_eq hfits, sqlLike_eq hfits]
    rfl
  have hfound : selectRows (rowMatches (likeContaining (searchNeedle texts.cases query)) options.includeControl)
      (db.changes.rows.filter fun c => c.channelId.isSome) =
        .ok (foundRows texts.cases db query options.includeControl) :=
    selectRows_ok fun c _ => rowMatches_eq hfits _ c
  unfold Database.searchChannels
  rw [hlimit, likePattern_eq hquery, ok_bind, ok_bind, hfound, ok_bind, hnamed, ok_bind]
  refine mapM_ok fun hit => ?_
  have hexcerpt : selectRows (rowMatches (likeContaining (searchNeedle texts.cases query)) options.includeControl)
      (db.changes.rows.filter fun c => c.channelId = some hit.channelId) = .ok _ :=
    selectRows_ok fun c _ => rowMatches_eq hfits _ c
  unfold Database.channelMatchExcerpt
  rw [hexcerpt]
  exact ⟨_, rfl⟩

end Returns

/-- The lower cases of the letters of Latin-1 and of sigma. -/
def latinLower (c : Char) : List Char :=
  if c = 'Σ' then ['σ']
  else if 0xC0 ≤ c.toNat ∧ c.toNat ≤ 0xDE ∧ c.toNat ≠ 0xD7 then [Char.ofNat (c.toNat + 32)]
  else [c.toLower]

theorem latinLower_other {c : Char} (hsigma : c ≠ 'Σ') (h : c.toNat < 0xC0 ∨ 0xDE < c.toNat ∨ c.toNat = 0xD7) :
    latinLower c = [c.toLower] := by
  rw [latinLower, if_neg hsigma, if_neg]
  omega

theorem latinLower_stable (c d : Char) (hd : d ∈ latinLower c) : latinLower d = [d] := by
  rw [latinLower] at hd
  split_ifs at hd with hsigma hlatin
  · rw [List.mem_singleton.mp hd]
    decide
  · have hnat : d.toNat = c.toNat + 32 := by
      rw [List.mem_singleton.mp hd]
      exact JsString.toNat_ofNat (by omega)
    have hne : d ≠ 'Σ' := by
      rintro rfl
      exact absurd (show ('Σ').toNat = 931 by decide) (by omega)
    rw [latinLower_other hne (by omega), CaseTable.toLower_of_not_ascii (by omega)]
  · rw [List.mem_singleton.mp hd]
    by_cases hascii : c.toNat < 128
    · have hlow : c.toLower.toNat < 128 := by
        by_cases hupper : c.isUpper = true
        · rw [Char.isUpper, decide_eq_true_eq] at hupper
          have hle := UInt32.le_iff_toNat_le.mp hupper.2
          rw [Char.toLower_eq_of_isUpper (by rw [Char.isUpper, decide_eq_true_eq]; exact hupper), JsString.toNat_ofNat]
          · change c.toNat ≤ 90 at hle
            omega
          · change c.toNat ≤ 90 at hle
            omega
        · rw [Char.toLower_eq_of_not_isUpper hupper]
          exact hascii
      have hne : c.toLower ≠ 'Σ' := by
        intro hsame
        rw [hsame] at hlow
        exact absurd hlow (by decide)
      rw [latinLower_other hne (by omega), Char.toLower_toLower_eq_toLower]
    · rw [CaseTable.toLower_of_not_ascii hascii]
      rw [latinLower_other hsigma (by omega), CaseTable.toLower_of_not_ascii hascii]

def latin : CaseTable where
  lower := latinLower
  isFinal _ after := after.isEmpty
  ascii c hascii := latinLower_other (by rintro rfl; exact absurd hascii (by decide)) (.inl (by omega))
  sigma := by decide
  stable := latinLower_stable
  finalSigma := by decide
  ne_nil c := by
    rw [latinLower]
    split_ifs <;> exact List.cons_ne_nil _ _

def latinTexts : Texts := ⟨latin, fun _ => "", fun left right => left ≤ right⟩

/-- One message about a school. -/
def school : Database :=
  Database.empty.record (some "harbour") (.messageSent (Json.record [("body", some (.str "École"))])) "at" none

end Wardroom.Feeds
