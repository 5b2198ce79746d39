import Mathlib
import Wardroom.Federation.ChannelResult

/-! # The results of a connection

The frames of several results come interleaved, and some of them may come out of
place. What the assembler keeps of a request is the part of its next result that
has come so far.
-/

namespace Wardroom.Federation
open Wardroom.Library Wardroom.Library.JsonText

namespace ChannelResultAssembler

def empty : ChannelResultAssembler := fun _ => none

/-- The results that are returned for a request. -/
def returned (a : ChannelResultAssembler) (requestId : JsString) (frames : List ChannelResult) :
    List AssembledChannelResult :=
  (a.outcomes frames).filterMap fun outcome =>
    if outcome.1 = requestId then outcome.2.toOption.join else none

def receivedBytes (part : List ChannelResult) : Nat := (part.map fun frame => frame.payload.length).sum

/-- The frame goes on where the part ends, and does not go beyond the bound. -/
structure Continues (part : List ChannelResult) (frame : ChannelResult) : Prop where
  ok : ∀ first ∈ part.head?, first.ok = frame.ok
  index : frame.chunkIndex = part.length
  bound : receivedBytes part + frame.payload.length ≤ MAX_RESULT_BYTES

instance (part : List ChannelResult) (frame : ChannelResult) : Decidable (Continues part frame) :=
  decidable_of_iff ((∀ first ∈ part.head?, first.ok = frame.ok) ∧ frame.chunkIndex = part.length ∧
      receivedBytes part + frame.payload.length ≤ MAX_RESULT_BYTES)
    ⟨fun ⟨hok, hindex, hbound⟩ => ⟨hok, hindex, hbound⟩, fun h => ⟨h.ok, h.index, h.bound⟩⟩

/-- What has come of the next result, after another frame of the request. -/
def nextPart (part : List ChannelResult) (frame : ChannelResult) : List ChannelResult :=
  if Continues part frame ∧ frame.final = false then part ++ [frame] else []

/-- The part of the next result of a request that has come with these frames. -/
def openPart (requestId : JsString) (frames : List ChannelResult) : List ChannelResult :=
  (frames.filter fun frame => frame.requestId = requestId).foldl nextPart []

def pendingOf : List ChannelResult → Option PendingResult
  | [] => none
  | first :: rest => some ⟨first.ok, (first :: rest).length, receivedBytes (first :: rest),
      (first :: rest).map ChannelResult.payload⟩

variable {a a' : ChannelResultAssembler} {requestId : JsString} {part : List ChannelResult} {frame : ChannelResult}

theorem pendingOf_append (h : Continues part frame) :
    pendingOf (part ++ [frame]) =
      some ⟨frame.ok, part.length + 1, receivedBytes part + frame.payload.length,
        part.map ChannelResult.payload ++ [frame.payload]⟩ := by
  cases part with
  | nil => simp [pendingOf, receivedBytes]
  | cons first rest =>
    have hok := h.ok first rfl
    simp [pendingOf, receivedBytes, hok, Nat.add_assoc]

theorem accept_eq (h : a frame.requestId = pendingOf part) :
    (Continues part frame → a.accept frame =
      if frame.final = true then
        (assembled frame.ok (part.map ChannelResult.payload ++ [frame.payload]), a.delete frame.requestId)
      else (.ok none, Function.update a frame.requestId (pendingOf (part ++ [frame])))) ∧
    (¬ Continues part frame → ∃ message, a.accept frame = (.error message, a.delete frame.requestId)) := by
  have hstate : (a frame.requestId).getD ⟨frame.ok, 0, 0, []⟩ =
      ⟨(part.head?.map ChannelResult.ok).getD frame.ok, part.length, receivedBytes part,
        part.map ChannelResult.payload⟩ := by
    rw [h]
    cases part <;> simp [pendingOf, receivedBytes]
  constructor
  · intro hcontinues
    have hok : (part.head?.map ChannelResult.ok).getD frame.ok = frame.ok := by
      cases part with
      | nil => rfl
      | cons first rest => exact hcontinues.ok first rfl
    rw [accept, hstate, hok, extend_of_fits rfl hcontinues.index hcontinues.bound, pendingOf_append hcontinues]
  · intro hrefused
    have hplaced (hok : (part.head?.map ChannelResult.ok).getD frame.ok = frame.ok)
        (hindex : frame.chunkIndex = part.length)
        (hbound : receivedBytes part + frame.payload.length ≤ MAX_RESULT_BYTES) : Continues part frame := by
      refine ⟨fun first hfirst => ?_, hindex, hbound⟩
      rwa [Option.mem_def.mp hfirst] at hok
    rw [accept, hstate]
    unfold extend
    dsimp only
    split_ifs with hplace hbound hfinal
    · exact ⟨_, rfl⟩
    · exact absurd (hplaced hplace.1 hplace.2 (by omega)) hrefused
    · exact absurd (hplaced hplace.1 hplace.2 (by omega)) hrefused
    · exact ⟨_, rfl⟩

theorem accept_other (a : ChannelResultAssembler) (h : requestId ≠ frame.requestId) :
    (a.accept frame).2 requestId = a requestId := by
  unfold accept extend delete
  dsimp only
  split_ifs <;> exact Function.update_of_ne h _ _

theorem accept_congr (h : a frame.requestId = a' frame.requestId) :
    (a.accept frame).1 = (a'.accept frame).1 ∧
      (a.accept frame).2 frame.requestId = (a'.accept frame).2 frame.requestId := by
  unfold accept extend delete
  rw [h]
  dsimp only
  split_ifs <;> simp

theorem openPart_append (requestId : JsString) (frames : List ChannelResult) (frame : ChannelResult) :
    openPart requestId (frames ++ [frame]) =
      if frame.requestId = requestId then nextPart (openPart requestId frames) frame else openPart requestId frames := by
  unfold openPart
  split_ifs with h <;> simp [List.filter_append, h]

theorem after_eq (frames : List ChannelResult) (requestId : JsString) :
    empty.after frames requestId = pendingOf (openPart requestId frames) := by
  induction frames using List.reverseRecOn with
  | nil => rfl
  | append_singleton frames frame ih =>
    rw [after, List.foldl_append, openPart_append]
    change ((empty.after frames).accept frame).2 requestId = _
    split_ifs with h
    · subst h
      obtain ⟨htaken, hrefused⟩ := accept_eq ih
      by_cases hcontinues : Continues (openPart frame.requestId frames) frame
      · rw [htaken hcontinues, nextPart]
        by_cases hfinal : frame.final = true
        · rw [if_pos hfinal, if_neg (by simp [hfinal])]
          exact Function.update_self _ _ _
        · rw [if_neg hfinal, if_pos ⟨hcontinues, by simpa using hfinal⟩]
          exact Function.update_self _ _ _
      · obtain ⟨message, heq⟩ := hrefused hcontinues
        rw [heq, nextPart, if_neg fun hboth => hcontinues hboth.1]
        exact Function.update_self _ _ _
    · rw [accept_other _ (Ne.symm h), ih]

/-- A part is made of the latest frames of its request, the chunks in their order and none of them the last. -/
theorem openPart_suffix (requestId : JsString) (frames : List ChannelResult) :
    openPart requestId frames <:+ frames.filter (fun frame => frame.requestId = requestId) ∧
      ∀ (i : Nat) (frame : ChannelResult), (openPart requestId frames)[i]? = some frame →
        frame.chunkIndex = i ∧ frame.final = false := by
  induction frames using List.reverseRecOn with
  | nil => exact ⟨List.suffix_rfl, by simp [openPart]⟩
  | append_singleton frames frame ih =>
    rw [openPart_append]
    split_ifs with h
    · rw [nextPart, List.filter_append]
      have hown : [frame].filter (fun frame => decide (frame.requestId = requestId)) = [frame] := by simp [h]
      rw [hown]
      split_ifs with hnext
      · obtain ⟨earlier, hearlier⟩ := ih.1
        refine ⟨⟨earlier, by rw [← hearlier, List.append_assoc]⟩, fun i g hi => ?_⟩
        rw [List.getElem?_append] at hi
        split_ifs at hi with hlt
        · exact ih.2 i g hi
        · rw [List.getElem?_singleton] at hi
          split_ifs at hi with hzero
          obtain rfl := Option.some.inj hi
          exact ⟨by rw [hnext.1.index]; omega, hnext.2⟩
      · exact ⟨List.nil_suffix, by simp⟩
    · have hother : [frame].filter (fun frame => decide (frame.requestId = requestId)) = [] := by simp [h]
      rw [List.filter_append, hother, List.append_nil]
      exact ih

theorem outcomes_filter (frames : List ChannelResult) : ∀ {a a' : ChannelResultAssembler}, a requestId = a' requestId →
    (a.outcomes frames).filter (fun outcome => outcome.1 = requestId) =
      a'.outcomes (frames.filter fun frame => frame.requestId = requestId) := by
  induction frames with
  | nil => intros; rfl
  | cons frame frames ih =>
    intro a a' h
    by_cases hown : frame.requestId = requestId
    · subst hown
      obtain ⟨hfirst, hstate⟩ := accept_congr h
      rw [outcomes, List.filter_cons_of_pos (by simp), List.filter_cons_of_pos (by simp), outcomes, hfirst, ih hstate]
    · rw [outcomes, List.filter_cons_of_neg (by simp [hown]), List.filter_cons_of_neg (by simp [hown])]
      exact ih ((accept_other a (Ne.symm hown)).trans h)

theorem returned_eq_nil (frames : List ChannelResult) : ∀ {a : ChannelResultAssembler}, a requestId = none →
    (∀ frame ∈ frames, frame.requestId = requestId → frame.chunkIndex ≠ 0) → a.returned requestId frames = [] := by
  induction frames with
  | nil => intros; rfl
  | cons frame frames ih =>
    intro a ha hlater
    have hrest := fun g hg => hlater g (List.mem_cons_of_mem _ hg)
    unfold returned
    rw [outcomes, List.filterMap_cons]
    by_cases hown : frame.requestId = requestId
    · subst hown
      obtain ⟨-, hrefused⟩ := @accept_eq a [] frame ha
      obtain ⟨message, heq⟩ := hrefused fun hcontinues =>
        hlater frame List.mem_cons_self rfl hcontinues.index
      have hnone : (a.delete frame.requestId) frame.requestId = none := Function.update_self _ _ _
      rw [heq, if_pos rfl]
      exact ih hnone hrest
    · dsimp only
      rw [if_neg hown]
      exact ih ((accept_other a (Ne.symm hown)).trans ha) hrest

/-- What the assembler makes of the frames of a connection. -/
structure Reassembled (frames : List ChannelResult) : Prop where
  /-- What has come of a result are the latest frames of its request, chunk after chunk. -/
  part : ∀ requestId, openPart requestId frames <:+ frames.filter (fun frame => frame.requestId = requestId) ∧
    ∀ (i : Nat) (frame : ChannelResult), (openPart requestId frames)[i]? = some frame →
      frame.chunkIndex = i ∧ frame.final = false
  /-- What is sent for a request is returned once, whatever comes between its frames. -/
  exact : ∀ (requestId : JsString) (ok : Bool) (value : Tree), value.Writable →
    sendChannelResult requestId ok value = .ok (frames.filter fun frame => frame.requestId = requestId) →
    empty.returned requestId frames = [⟨ok, value⟩] ∧
      ∀ outcome ∈ empty.outcomes frames, outcome.1 = requestId → outcome.2.isOk = true
  /-- A frame that does not continue the part of its request is refused, and what has come is of no use later. -/
  refused : ∀ frame : ChannelResult, ¬ Continues (openPart frame.requestId frames) frame →
    (∃ message, ((empty.after frames).accept frame).1 = .error message) ∧
      empty.after (frames ++ [frame]) frame.requestId = none ∧
      ∀ later : List ChannelResult, (∀ g ∈ later, g.requestId = frame.requestId → g.chunkIndex ≠ 0) →
        (empty.after (frames ++ [frame])).returned frame.requestId later = []
  repeated : ∀ frame ∈ frames, frame ∈ openPart frame.requestId frames ∨ frame.chunkIndex ≠ 0 ∧
    openPart frame.requestId frames = [] → ∃ message, ((empty.after frames).accept frame).1 = .error message
  /-- A result that is returned is made of the part that has come and the frame that completes it. -/
  whole : ∀ (frame : ChannelResult) (result : AssembledChannelResult),
    ((empty.after frames).accept frame).1 = .ok (some result) →
    Continues (openPart frame.requestId frames) frame ∧ frame.final = true ∧
      assembled frame.ok ((openPart frame.requestId frames ++ [frame]).map ChannelResult.payload) = .ok (some result)

theorem returned_eq (a : ChannelResultAssembler) (requestId : JsString) (frames : List ChannelResult) :
    a.returned requestId frames =
      ((a.outcomes frames).filter fun outcome => outcome.1 = requestId).filterMap fun outcome =>
        outcome.2.toOption.join := by
  rw [returned, List.filterMap_filter]
  apply List.filterMap_congr
  intro outcome _
  simp

theorem reassembled (frames : List ChannelResult) : Reassembled frames where
  part requestId := openPart_suffix requestId frames
  exact requestId ok value hvalue hsent := by
    have hfilter := @outcomes_filter requestId frames empty empty rfl
    obtain ⟨n, houtcomes, -⟩ := outcomes_sent (a := empty) rfl hvalue hsent
    rw [houtcomes] at hfilter
    constructor
    · rw [returned_eq, hfilter]
      simp [Except.toOption]
    · intro outcome hmem hown
      have hkept : outcome ∈ (empty.outcomes frames).filter fun outcome => outcome.1 = requestId :=
        List.mem_filter.mpr ⟨hmem, by simpa using hown⟩
      rw [hfilter] at hkept
      rcases List.mem_append.mp hkept with hpart | hlast
      · rw [List.eq_of_mem_replicate hpart]
        rfl
      · rw [List.mem_singleton.mp hlast]
        rfl
  refused frame hout := by
    obtain ⟨message, heq⟩ := (accept_eq (after_eq frames frame.requestId)).2 hout
    have hnone : empty.after (frames ++ [frame]) frame.requestId = none := by
      rw [after_eq, openPart_append, if_pos rfl, nextPart, if_neg fun hboth => hout hboth.1]
      rfl
    exact ⟨⟨message, by rw [heq]⟩, hnone, fun later => returned_eq_nil later hnone⟩
  repeated frame _ hrepeated := by
    obtain ⟨message, heq⟩ := (accept_eq (after_eq frames frame.requestId)).2 fun hcontinues => by
      rcases hrepeated with hmem | ⟨hindex, hempty⟩
      · obtain ⟨i, hi⟩ := List.mem_iff_getElem?.mp hmem
        have hlt := (List.getElem?_eq_some_iff.mp hi).1
        have hplace := ((openPart_suffix frame.requestId frames).2 i frame hi).1
        rw [hcontinues.index] at hplace
        omega
      · rw [hcontinues.index, hempty] at hindex
        exact hindex rfl
    exact ⟨message, by rw [heq]⟩
  whole frame result hresult := by
    obtain ⟨htaken, hrefused⟩ := accept_eq (after_eq frames frame.requestId)
    by_cases hcontinues : Continues (openPart frame.requestId frames) frame
    · rw [htaken hcontinues] at hresult
      split_ifs at hresult with hfinal
      · refine ⟨hcontinues, hfinal, ?_⟩
        rw [List.map_append]
        exact hresult
      · cases hresult
    · obtain ⟨message, heq⟩ := hrefused hcontinues
      rw [heq] at hresult
      cases hresult

/-- A result of one chunk that comes twice is returned twice. -/
theorem repeated_accepted : ¬ ∀ (frames : List ChannelResult) (frame : ChannelResult), frame ∈ frames →
    ∃ message, ((empty.after frames).accept frame).1 = .error message := by
  intro h
  have hsent : sendChannelResult [] true .null = .ok [resultFrame [] true (JsString.toUtf8 Tree.null.write) 0] := rfl
  obtain ⟨message, hrefused⟩ := h [resultFrame [] true (JsString.toUtf8 Tree.null.write) 0] _ List.mem_cons_self
  obtain ⟨n, houtcomes, -⟩ := outcomes_sent (a := empty.after [resultFrame [] true (JsString.toUtf8 Tree.null.write) 0])
    (Function.update_self _ _ _) (show Tree.null.Writable from trivial) hsent
  rw [outcomes, hrefused] at houtcomes
  have hlength := congrArg List.length houtcomes
  simp [outcomes] at hlength
  subst hlength
  simp [outcomes] at houtcomes

end ChannelResultAssembler
end Wardroom.Federation
