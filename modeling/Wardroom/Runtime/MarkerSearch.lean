import Wardroom.Library.Occurrences
import Wardroom.Library.Utf16
import Wardroom.Runtime.ProviderIdentity

/-! # Searching a growing transcript for a marker

Each poll scans one bounded chunk of the transcript, from where the last one ended less an
overlap in which a marker that is split between two chunks is seen as a whole.
-/

namespace Wardroom.Runtime
open Wardroom.Library Occurrences

structure FileStat where
  size : Nat
  dev : Nat
  ino : Nat
  deriving DecidableEq

/-- What the file system answers during one poll, none where a call throws. -/
structure FileAccess where
  stat : Option FileStat
  /-- Open, and read so many bytes from a position. -/
  read : Nat → Nat → Option (List UInt8)

/-- Another file under the path, or one that has shrunk, is scanned from its start. -/
def FileMarkerScanState.checked (state : FileMarkerScanState) (stat : FileStat) : FileMarkerScanState :=
  if state.device ≠ some stat.dev ∨ state.inode ≠ some stat.ino ∨ stat.size < state.offset then
    ⟨0, some stat.dev, some stat.ino⟩
  else state

def scanStart (wanted : List UInt8) (offset : Nat) : Nat := offset - (wanted.length - 1)

def scanLength (wanted : List UInt8) (size offset : Nat) : Nat :=
  min (size - scanStart wanted offset) (max transcriptScanChunkBytes wanted.length)

/-- `fileContainsMarker`, any call of which to the file system may throw, and for every text. -/
def FileAccess.fileContainsMarker (file : FileAccess) (marker : JsString) (state : FileMarkerScanState) :
    Bool × FileMarkerScanState :=
  let wanted := JsString.toUtf8 marker
  if wanted = [] then (false, state)
  else
    match file.stat with
    | none => (false, state)
    | some stat =>
      if stat.size = 0 then (false, state)
      else
        let state := state.checked stat
        let start := scanStart wanted state.offset
        let length := scanLength wanted stat.size state.offset
        if length = 0 then (false, state)
        else
          match file.read start length with
          | none => (false, state)
          | some body => (decide (wanted <:+: body), { state with offset := max state.offset (start + body.length) })

/-- The calls that do not throw tell of one file with this content; a read may come short. -/
structure FileAccess.Tells (file : FileAccess) (dev ino : Nat) (content : List UInt8) : Prop where
  stat : ∀ stat, file.stat = some stat → stat = ⟨content.length, dev, ino⟩
  read : ∀ start length body, file.read start length = some body → body <+: (content.drop start).take length

/-- No call throws, and reads give all that was asked for. -/
structure FileAccess.Answers (file : FileAccess) (dev ino : Nat) (content : List UInt8) : Prop where
  stat : file.stat = some ⟨content.length, dev, ino⟩
  read : ∀ start length, file.read start length = some ((content.drop start).take length)

/-- A scan of the file that has not left its beginning, or knows the file. -/
structure FileMarkerScanState.Knows (state : FileMarkerScanState) (dev ino : Nat) (content : List UInt8) : Prop where
  offset : state.offset ≤ content.length
  file : state.offset ≠ 0 → state.device = some dev ∧ state.inode = some ino

theorem knows_fresh (dev ino : Nat) (content : List UInt8) : (⟨0, none, none⟩ : FileMarkerScanState).Knows dev ino content :=
  ⟨Nat.zero_le _, fun h => absurd rfl h⟩

variable {state : FileMarkerScanState} {dev ino : Nat} {content : List UInt8} {file : FileAccess} {marker : JsString}

theorem FileMarkerScanState.Knows.grown (h : state.Knows dev ino content) {later : List UInt8} (hgrown : content <+: later) :
    state.Knows dev ino later :=
  ⟨h.offset.trans hgrown.length_le, h.file⟩

theorem offset_checked (h : state.Knows dev ino content) : (state.checked ⟨content.length, dev, ino⟩).offset = state.offset := by
  unfold FileMarkerScanState.checked
  split_ifs with hreset
  · by_contra hne
    obtain ⟨hdev, hino⟩ := h.file fun hzero => hne hzero.symm
    rcases hreset with hother | hother | hshrunk
    · exact hother hdev
    · exact hother hino
    · exact absurd h.offset (Nat.not_le.mpr hshrunk)
  · rfl

theorem file_checked (state : FileMarkerScanState) (stat : FileStat) :
    (state.checked stat).device = some stat.dev ∧ (state.checked stat).inode = some stat.ino := by
  unfold FileMarkerScanState.checked
  split_ifs with hreset
  · exact ⟨rfl, rfl⟩
  · simp only [not_or, not_not] at hreset
    exact ⟨hreset.1, hreset.2.1⟩

theorem toUtf8_ne_nil (hmarker : marker ≠ []) : JsString.toUtf8 marker ≠ [] := by
  have hlength := JsString.length_le_byteLength marker
  rw [← JsString.length_toUtf8] at hlength
  intro hnone
  rw [hnone] at hlength
  exact hmarker (List.eq_nil_of_length_eq_zero (Nat.le_zero.mp hlength))

/-- What a poll finds and leaves: the occurrences that it newly has in what is scanned, and a scan that has not gone back. -/
structure Polled (marker : JsString) (dev ino : Nat) (content : List UInt8) (before after : FileMarkerScanState)
    (found : Bool) : Prop where
  knows : after.Knows dev ino content
  onward : before.offset ≤ after.offset
  found : found = true ↔ ∃ p, At (JsString.toUtf8 marker) content p ∧
    before.offset < p + (JsString.toUtf8 marker).length ∧ p + (JsString.toUtf8 marker).length ≤ after.offset

theorem polled_idle {after : FileMarkerScanState} (hknows : after.Knows dev ino content) (hsame : after.offset = state.offset) :
    Polled marker dev ino content state after false where
  knows := hknows
  onward := hsame.ge
  found := by
    refine iff_of_false Bool.false_ne_true ?_
    rintro ⟨p, -, hpast, hstop⟩
    omega

theorem fileContainsMarker_polled (hmarker : marker ≠ []) (htells : file.Tells dev ino content) (hknows : state.Knows dev ino content) :
    Polled marker dev ino content state (file.fileContainsMarker marker state).2 (file.fileContainsMarker marker state).1 := by
  have hwanted := toUtf8_ne_nil hmarker
  unfold FileAccess.fileContainsMarker
  dsimp only
  rw [if_neg hwanted]
  cases hstat : file.stat with
  | none => exact polled_idle hknows rfl
  | some stat =>
    obtain rfl := htells.stat stat hstat
    have hoffset := offset_checked hknows
    obtain ⟨hdev, hino⟩ := file_checked state ⟨content.length, dev, ino⟩
    have hchecked : (state.checked ⟨content.length, dev, ino⟩).Knows dev ino content :=
      ⟨hoffset ▸ hknows.offset, fun _ => ⟨hdev, hino⟩⟩
    dsimp only
    split_ifs with hempty hnothing
    · exact polled_idle hknows rfl
    · exact polled_idle hchecked hoffset
    · cases hread : file.read (scanStart (JsString.toUtf8 marker) (state.checked ⟨content.length, dev, ino⟩).offset)
          (scanLength (JsString.toUtf8 marker) content.length (state.checked ⟨content.length, dev, ino⟩).offset) with
      | none => exact polled_idle hchecked hoffset
      | some body =>
        have hbody := (htells.read _ _ _ hread).trans (List.take_prefix _ _)
        rw [hoffset] at hbody ⊢
        have hfits := hbody.length_le
        rw [List.length_drop] at hfits
        have hle := hknows.offset
        have hstart : scanStart (JsString.toUtf8 marker) state.offset ≤ content.length :=
          (Nat.sub_le _ _).trans hle
        refine ⟨⟨by dsimp only; omega, fun _ => ⟨hdev, hino⟩⟩, Nat.le_max_left _ _, ?_⟩
        rw [decide_eq_true_iff]
        exact infix_window_iff hwanted hle hbody

theorem fileContainsMarker_onward (hmarker : marker ≠ []) (hanswers : file.Answers dev ino content)
    (hknows : state.Knows dev ino content) :
    (file.fileContainsMarker marker state).2.offset = content.length ∨
      state.offset < (file.fileContainsMarker marker state).2.offset := by
  have hwanted := toUtf8_ne_nil hmarker
  have hpos := List.length_pos_of_ne_nil hwanted
  have hle := hknows.offset
  unfold FileAccess.fileContainsMarker
  dsimp only
  rw [if_neg hwanted, hanswers.stat]
  dsimp only
  rw [offset_checked hknows]
  split_ifs with hempty hnothing
  · left
    change state.offset = content.length
    omega
  · left
    rw [offset_checked hknows]
    rw [scanLength, scanStart] at hnothing
    omega
  · rw [hanswers.read]
    dsimp only
    rw [List.length_take, List.length_drop, scanLength, scanStart]
    omega

/-- The transcript at a poll, and what the file system tells of it then. -/
structure Poll where
  content : List UInt8
  file : FileAccess

/-- The file is only appended to between polls. -/
structure AppendOnly (dev ino : Nat) (polls : List Poll) : Prop where
  grows : polls.Pairwise fun a b => a.content <+: b.content
  tells : ∀ poll ∈ polls, poll.file.Tells dev ino poll.content

def scanAfter (marker : JsString) (polls : List Poll) : FileMarkerScanState :=
  polls.foldl (fun state poll => (poll.file.fileContainsMarker marker state).2) ⟨0, none, none⟩

theorem scanAfter_concat (marker : JsString) (polls : List Poll) (poll : Poll) :
    scanAfter marker (polls ++ [poll]) = (poll.file.fileContainsMarker marker (scanAfter marker polls)).2 := by
  rw [scanAfter, List.foldl_append]
  rfl

theorem scanAfter_knows (hmarker : marker ≠ []) {polls : List Poll} (h : AppendOnly dev ino polls)
    (hcontent : ∀ poll ∈ polls, poll.content <+: content) : (scanAfter marker polls).Knows dev ino content := by
  induction polls using List.reverseRecOn generalizing content with
  | nil => exact knows_fresh dev ino content
  | append_singleton polls poll ih =>
    have hgrows := List.pairwise_append.mp h.grows
    have hbefore := ih ⟨hgrows.1, fun p hp => h.tells p (List.mem_append_left _ hp)⟩
      fun p hp => hgrows.2.2 p hp poll List.mem_cons_self
    have htells := h.tells poll (List.mem_append_right _ List.mem_cons_self)
    rw [scanAfter_concat]
    exact (fileContainsMarker_polled hmarker htells hbefore).knows.grown
      (hcontent poll (List.mem_append_right _ List.mem_cons_self))

structure SearchedWell (marker : JsString) (dev ino : Nat) (polls : List Poll) : Prop where
  /-- The first poll that has the marker in what is scanned reports it. -/
  soon : ∀ earlier poll later, polls = earlier ++ poll :: later →
    Within (JsString.toUtf8 marker) poll.content (scanAfter marker (earlier ++ [poll])).offset →
    (earlier ≠ [] → ¬ Within (JsString.toUtf8 marker) poll.content (scanAfter marker earlier).offset) →
    (poll.file.fileContainsMarker marker (scanAfter marker earlier)).1 = true
  /-- A poll that reports a marker has it in what is scanned. -/
  sound : ∀ earlier poll later, polls = earlier ++ poll :: later →
    (poll.file.fileContainsMarker marker (scanAfter marker earlier)).1 = true →
    Within (JsString.toUtf8 marker) poll.content (scanAfter marker (earlier ++ [poll])).offset
  /-- A poll that is answered in full gets on until all is scanned. -/
  onward : ∀ earlier poll later, polls = earlier ++ poll :: later → poll.file.Answers dev ino poll.content →
    (scanAfter marker (earlier ++ [poll])).offset = poll.content.length ∨
      (scanAfter marker earlier).offset < (scanAfter marker (earlier ++ [poll])).offset

theorem marker_search (hmarker : marker ≠ []) {polls : List Poll} (h : AppendOnly dev ino polls) :
    SearchedWell marker dev ino polls := by
  have hknows (earlier : List Poll) (poll : Poll) (later : List Poll) (hsplit : polls = earlier ++ poll :: later) :
      (scanAfter marker earlier).Knows dev ino poll.content ∧ poll.file.Tells dev ino poll.content := by
    subst hsplit
    obtain ⟨hearlier, -, hcross⟩ := List.pairwise_append.mp h.grows
    refine ⟨scanAfter_knows hmarker ⟨hearlier, fun p hp => h.tells p (List.mem_append_left _ hp)⟩ fun p hp =>
      hcross p hp poll List.mem_cons_self, h.tells poll (List.mem_append_right _ List.mem_cons_self)⟩
  refine ⟨fun earlier poll later hsplit hwithin hnew => ?_, fun earlier poll later hsplit hfound => ?_,
    fun earlier poll later hsplit hanswers => ?_⟩
  · obtain ⟨hbefore, htells⟩ := hknows earlier poll later hsplit
    rw [(fileContainsMarker_polled hmarker htells hbefore).found, ← scanAfter_concat]
    obtain ⟨p, hat, hstop⟩ := hwithin
    refine ⟨p, hat, ?_, hstop⟩
    by_contra hold
    have hpos := List.length_pos_of_ne_nil (toUtf8_ne_nil hmarker)
    cases earlier with
    | nil =>
      have hzero : (scanAfter marker []).offset = 0 := rfl
      omega
    | cons first rest => exact hnew (List.cons_ne_nil _ _) ⟨p, hat, Nat.not_lt.mp hold⟩
  · obtain ⟨hbefore, htells⟩ := hknows earlier poll later hsplit
    obtain ⟨p, hat, -, hstop⟩ := (fileContainsMarker_polled hmarker htells hbefore).found.mp hfound
    rw [scanAfter_concat]
    exact ⟨p, hat, hstop⟩
  · rw [scanAfter_concat]
    exact fileContainsMarker_onward hmarker hanswers (hknows earlier poll later hsplit).1

/-- The file system without failures. -/
def plainFile (content : List UInt8) : FileAccess where
  stat := some ⟨content.length, 1, 7⟩
  read start length := some ((content.drop start).take length)

theorem plainFile_tells (content : List UInt8) : (plainFile content).Tells 1 7 content where
  stat _ h := (Option.some.inj h).symm
  read _ _ _ h := Option.some.inj h ▸ List.prefix_rfl

/-- The marker is cut in two by the end of the first poll. -/
def briefing : List Poll :=
  [⟨[0x3e, 0x73], plainFile [0x3e, 0x73]⟩, ⟨[0x3e, 0x73, 0x31], plainFile [0x3e, 0x73, 0x31]⟩]

theorem marker_search_briefing : SearchedWell (JsString.ofString "s1") 1 7 briefing ∧
    ((plainFile [0x3e, 0x73, 0x31]).fileContainsMarker (JsString.ofString "s1")
      (scanAfter (JsString.ofString "s1") [⟨[0x3e, 0x73], plainFile [0x3e, 0x73]⟩])).1 = true := by
  have hgrows : AppendOnly 1 7 briefing := by
    refine ⟨by simp [briefing], fun poll hpoll => ?_⟩
    simp only [briefing, List.mem_cons, List.not_mem_nil, or_false] at hpoll
    rcases hpoll with rfl | rfl <;> exact plainFile_tells _
  exact ⟨marker_search (by decide) hgrows, by decide +kernel⟩

/-- An empty marker stands everywhere and is never reported. -/
theorem empty_marker_unreported :
    ¬∀ (marker : JsString) (dev ino : Nat) (polls : List Poll), AppendOnly dev ino polls → SearchedWell marker dev ino polls := by
  intro h
  have hsearched := h [] 1 7 [⟨[0x3e], plainFile [0x3e]⟩] ⟨List.pairwise_singleton _ _, fun poll hpoll => by
    rw [List.mem_singleton] at hpoll
    subst hpoll
    exact plainFile_tells _⟩
  have hfound := hsearched.soon [] ⟨[0x3e], plainFile [0x3e]⟩ [] rfl ⟨0, ⟨[], [0x3e], rfl, rfl⟩, Nat.zero_le _⟩
    fun hnone => absurd rfl hnone
  exact Bool.false_ne_true hfound

end Wardroom.Runtime
