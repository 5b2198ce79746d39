import Wardroom.Transports.Connection

/-! # Answers in the order of the requests

Nothing that is written on a connection says which request it answers: the client
counts. The answers come in order while no line is taken before the earlier
requests are answered, except that requests of the older protocol may follow each other.
-/

namespace Wardroom.Transports
open Wardroom.Library

/-- The whole answer to a request. -/
inductive Answer : List Output → Prop
  | response (result : Option Json) : Answer [.response result]
  | streamed (items : List (Option Json)) : Answer (items.map .stream ++ [.streamEnd])
  | failed (items : List (Option Json)) (error : JsError) : Answer (items.map .stream ++ [.error error])
  | accepted (fields : List (String × Json)) : Answer [.accepted fields]
  | rejected (errorCode errorDescription : String) : Answer [.rejected errorCode errorDescription]
  | subscription (changes : List Json) : Answer (.subscribed :: changes.map .change)
  | lost (changes : List Json) (errorCode errorDescription : String) :
    Answer (.subscribed :: changes.map .change ++ [.rejected errorCode errorDescription])

theorem Answer.ne_nil {answer : List Output} (h : Answer answer) : answer ≠ [] := by
  cases h with
  | streamed items => exact List.append_ne_nil_of_right_ne_nil _ (List.cons_ne_nil _ _)
  | failed items error => exact List.append_ne_nil_of_right_ne_nil _ (List.cons_ne_nil _ _)
  | lost changes errorCode errorDescription => exact List.append_ne_nil_of_right_ne_nil _ (List.cons_ne_nil _ _)
  | _ => exact List.cons_ne_nil _ _

/-- What may be written of an answer before it is over. -/
inductive Opening : List Output → Prop
  | stream (items : List (Option Json)) : Opening (items.map .stream)
  | subscription (changes : List Json) : Opening (.subscribed :: changes.map .change)

/-- The lines of answers that follow each other, from the `k`-th on. -/
def numbered : Nat → List (List Output) → List (Nat × Output)
  | _, [] => []
  | k, answer :: answers => answer.map (fun output => (k, output)) ++ numbered (k + 1) answers

/-- The `i`-th request is the `i`-th line of the client, and what is written is the answer to the first
request, then the answer to the second and so on, the last of them perhaps not over. -/
structure InOrder (text : List Char) (c : Connection) : Prop where
  requests : (Lines.lines text).1 = c.lines ++ (Lines.lines c.buffer).1
  answers : ∃ answers last, c.writes = numbered 0 (answers ++ [last]) ∧ (∀ answer ∈ answers, Answer answer) ∧
    Opening last ∧ answers.length ≤ c.lines.length ∧ (last ≠ [] → answers.length < c.lines.length)

/-- Whether the lines that are taken together wait for nothing that is not answered before them: the
first of them is the `i`-th request, and requests of the queue may be waiting. -/
def Service.inTurn (s : Service) : Nat → Bool → List (List Char) → Bool
  | _, _, [] => true
  | i, waiting, line :: lines =>
    match s.admitLine i line with
    | .refused _ => !waiting && s.inTurn (i + 1) false lines
    | .legacy _ => s.inTurn (i + 1) true lines
    | .invoked _ => !waiting

/-- The lines of the buffer are taken in turn. -/
def Connection.takesInTurn (s : Service) (c : Connection) : Bool :=
  s.inTurn c.lines.length (!c.legacyQueue.isEmpty) (Lines.lines c.buffer).1

/-- No line is taken while an earlier request is not answered, but for those of the queue. -/
def TakesInTurn (s : Service) (c : Connection) : ConnectionEvent → Prop
  | .data chunk =>
    if c.loops = [] then { c with buffer := c.buffer ++ chunk }.takesInTurn s = true
    else '\n' ∉ c.buffer ++ chunk
  | .returns _ _ | .ends _ | .throws _ _ => c.takesInTurn s = true
  | _ => True

instance (s : Service) (c : Connection) (e : ConnectionEvent) : Decidable (TakesInTurn s c e) :=
  match e with
  | .data chunk => inferInstanceAs (Decidable (if c.loops = [] then
      { c with buffer := c.buffer ++ chunk }.takesInTurn s = true else '\n' ∉ c.buffer ++ chunk))
  | .returns .. | .ends _ | .throws .. => inferInstanceAs (Decidable (c.takesInTurn s = true))
  | .iterates _ | .yields .. | .accepts _ | .subscribes | .changes _ | .closes | .rejects .. => isTrue trivial

section Cut

theorem cut_eq_none {text : List Char} : cut text = none ↔ '\n' ∉ text := by
  unfold cut
  split_ifs with h
  · constructor
    · intro hnone
      cases hnone
    · exact fun hnone => absurd h hnone
  · exact ⟨fun _ => h, fun _ => rfl⟩

theorem cut_spec {text line rest : List Char} (h : cut text = some (line, rest)) :
    '\n' ∉ line ∧ text = line ++ '\n' :: rest := by
  unfold cut at h
  split_ifs at h with hfeed
  obtain ⟨rfl, rfl⟩ := Prod.mk.inj (Option.some.inj h)
  refine ⟨fun hmem => ?_, ?_⟩
  · have hne := List.mem_takeWhile_imp hmem
    exact absurd hne (by decide)
  · have hdrop : text.dropWhile (· ≠ '\n') = '\n' :: (text.dropWhile (· ≠ '\n')).tail := by
      cases hrest : text.dropWhile (· ≠ '\n') with
      | nil =>
        rw [List.dropWhile_eq_nil_iff] at hrest
        exact absurd (hrest _ hfeed) (by decide)
      | cons first others =>
        have hfirst := List.head_dropWhile_not (fun c => decide (c ≠ '\n')) (l := text)
          (by rw [hrest]; exact List.cons_ne_nil _ _)
        simp only [hrest, List.head_cons, decide_eq_false_iff_not, not_not] at hfirst
        rw [hfirst, List.tail_cons]
    conv_lhs => rw [← List.takeWhile_append_dropWhile (p := (· ≠ '\n')) (l := text), hdrop]

theorem lines_of_cut {text line rest : List Char} (h : cut text = some (line, rest)) :
    (Lines.lines text).1 = line :: (Lines.lines rest).1 := by
  obtain ⟨hline, rfl⟩ := cut_spec h
  rw [Lines.lines_append hline, Lines.linesFrom, if_pos rfl, Lines.lines]

end Cut

section Numbered

theorem numbered_append (k : Nat) (answers more : List (List Output)) :
    numbered k (answers ++ more) = numbered k answers ++ numbered (k + answers.length) more := by
  induction answers generalizing k with
  | nil => rfl
  | cons answer answers ih =>
    rw [List.cons_append, numbered, numbered, ih, List.append_assoc, List.length_cons, Nat.add_assoc,
      Nat.add_comm 1]

theorem numbered_concat (answers : List (List Output)) (last : List Output) :
    numbered 0 (answers ++ [last]) = numbered 0 answers ++ last.map fun output => (answers.length, output) := by
  rw [numbered_append, numbered, numbered, List.append_nil, Nat.zero_add]

theorem numbered_output (answers : List (List Output)) (last : List Output) (output : Output) :
    numbered 0 (answers ++ [last]) ++ [(answers.length, output)] = numbered 0 (answers ++ [last ++ [output]]) := by
  rw [numbered_concat, numbered_concat, List.map_append, List.append_assoc]
  rfl

theorem numbered_over (answers : List (List Output)) (last : List Output) :
    numbered 0 (answers ++ [last]) = numbered 0 ((answers ++ [last]) ++ [[]]) := by
  rw [numbered_concat (answers ++ [last])]
  exact (List.append_nil _).symm

end Numbered

/-- Requests of the queue that have not begun, the first of them the `k`-th. -/
def Queued : Nat → List LegacyRequest → Prop
  | _, [] => True
  | k, r :: queue => r.request = k ∧ r.isOpen = false ∧ Queued (k + 1) queue

/-- The queue and what is written of the answer to its first request. -/
inductive Pending (k : Nat) : List LegacyRequest → List Output → Prop
  | begun (queue : List LegacyRequest) (hqueue : Queued k queue) : Pending k queue []
  | subscription (kind : String) (queue : List LegacyRequest) (changes : List Json) (hqueue : Queued (k + 1) queue) :
    Pending k (⟨k, kind, true⟩ :: queue) (.subscribed :: changes.map .change)

/-- The `k`-th request is the first that is not answered. -/
inductive Phase (c : Connection) (k : Nat) : List Output → Prop
  | waiting (last : List Output) (hloops : c.loops = []) (hpending : Pending k c.legacyQueue last)
    (hlines : c.lines.length = k + c.legacyQueue.length) : Phase c k last
  | calling (method : String) (hloops : c.loops = [⟨k, method, false⟩]) (hqueue : c.legacyQueue = [])
    (hlines : c.lines.length = k + 1) : Phase c k []
  | streaming (method : String) (items : List (Option Json)) (hloops : c.loops = [⟨k, method, true⟩])
    (hqueue : c.legacyQueue = []) (hlines : c.lines.length = k + 1) : Phase c k (items.map .stream)

/-- What has been written, and what waits. -/
structure Written (c : Connection) (answers : List (List Output)) (last : List Output) : Prop where
  writes : c.writes = numbered 0 (answers ++ [last])
  whole : ∀ answer ∈ answers, Answer answer
  phase : Phase c answers.length last

/-- While no loop waits, no line does. -/
def Drained (c : Connection) : Prop := c.loops = [] → '\n' ∉ c.buffer

theorem Queued.append {k : Nat} {queue : List LegacyRequest} (h : Queued k queue) (kind : String) :
    Queued k (queue ++ [⟨k + queue.length, kind, false⟩]) := by
  induction queue generalizing k with
  | nil => exact ⟨rfl, rfl, trivial⟩
  | cons r queue ih =>
    obtain ⟨hrequest, hopen, hqueue⟩ := h
    refine ⟨hrequest, hopen, ?_⟩
    have hnext := ih hqueue
    rw [Nat.add_right_comm] at hnext
    exact hnext

theorem Pending.append {k : Nat} {queue : List LegacyRequest} {last : List Output} (h : Pending k queue last)
    (kind : String) : Pending k (queue ++ [⟨k + queue.length, kind, false⟩]) last := by
  cases h with
  | begun _ hqueue => exact .begun _ (hqueue.append kind)
  | subscription kind' queue changes hqueue =>
    refine .subscription kind' _ changes ?_
    have hnext := hqueue.append kind
    rw [Nat.add_right_comm] at hnext
    exact hnext

section Loop

variable {s : Service} {c : Connection} {answers : List (List Output)} {last : List Output}

/-- A loop over lines in turn. -/
theorem Written.loop (n : Nat) (hn : c.buffer.count '\n' ≤ n) (hloops : c.loops = [])
    (h : Written c answers last) (hturn : c.takesInTurn s = true) :
    ∃ answers last, Written (c.loop s n) answers last ∧ Drained (c.loop s n) := by
  induction n generalizing c answers last with
  | zero =>
    refine ⟨answers, last, h, fun _ => ?_⟩
    exact List.count_eq_zero.mp (Nat.le_zero.mp hn)
  | succ n ih =>
    rw [Connection.loop]
    cases hcut : cut c.buffer with
    | none => exact ⟨answers, last, h, fun _ => cut_eq_none.mp hcut⟩
    | some taken =>
      obtain ⟨line, rest⟩ := taken
      dsimp only
      have hcount : rest.count '\n' ≤ n := by
        obtain ⟨hline, hbuffer⟩ := cut_spec hcut
        rw [hbuffer, List.count_append, List.count_cons_self] at hn
        omega
      rw [Connection.takesInTurn, lines_of_cut hcut, Service.inTurn] at hturn
      obtain ⟨hpending, hlines⟩ : Pending answers.length c.legacyQueue last ∧
          c.lines.length = answers.length + c.legacyQueue.length := by
        cases h.phase with
        | waiting _ _ hpending hlines => exact ⟨hpending, hlines⟩
        | calling method hbusy => rw [hloops] at hbusy; cases hbusy
        | streaming method items hbusy => rw [hloops] at hbusy; cases hbusy
      cases hadmitted : s.admitLine c.lines.length line with
      | refused error =>
        rw [hadmitted, Bool.and_eq_true, Bool.not_not, List.isEmpty_iff] at hturn
        obtain ⟨hempty, hturn⟩ := hturn
        rw [hempty] at hpending hlines
        rw [List.length_nil, Nat.add_zero] at hlines
        cases hpending
        refine @ih (Connection.write { c with buffer := rest, lines := c.lines ++ [line] } c.lines.length (.error error))
          (answers ++ [[.error error]]) [] hcount hloops ⟨?_, ?_, ?_⟩ ?_
        · rw [← numbered_over]
          change c.writes ++ [(c.lines.length, _)] = _
          rw [h.writes, hlines, numbered_output]
          rfl
        · exact List.forall_mem_append.mpr ⟨h.whole, List.forall_mem_singleton.mpr (.failed [] error)⟩
        · refine .waiting [] hloops (hempty ▸ .begun [] trivial) ?_
          change (c.lines ++ [line]).length = _ + c.legacyQueue.length
          rw [hempty, List.length_append, List.length_append, hlines]
          rfl
        · rw [Connection.takesInTurn]
          change s.inTurn (c.lines ++ [line]).length (!c.legacyQueue.isEmpty) _ = true
          rw [hempty, List.length_append]
          exact hturn
      | legacy kind =>
        rw [hadmitted] at hturn
        have hnext := hpending.append kind
        rw [← hlines] at hnext
        refine @ih _ answers last hcount hloops ⟨h.writes, h.whole, ?_⟩ ?_
        · refine .waiting last hloops hnext ?_
          rw [List.length_append, List.length_append, hlines]
          rfl
        · rw [Connection.takesInTurn]
          dsimp only
          rw [List.length_append, List.isEmpty_eq_false_iff.mpr (List.append_ne_nil_of_right_ne_nil _ (List.cons_ne_nil _ _))]
          exact hturn
      | invoked method =>
        rw [hadmitted, Bool.not_not, List.isEmpty_iff] at hturn
        rw [hturn] at hpending hlines
        rw [List.length_nil, Nat.add_zero] at hlines
        cases hpending
        refine ⟨answers, [], ⟨h.writes, h.whole, .calling method ?_ hturn ?_⟩, fun hnone => ?_⟩
        · rw [hloops, hlines]
          rfl
        · rw [List.length_append, hlines]
          rfl
        · exact absurd hnone (List.append_ne_nil_of_right_ne_nil _ (List.cons_ne_nil _ _))

theorem Written.drain (hloops : c.loops = []) (h : Written c answers last) (hturn : c.takesInTurn s = true) :
    ∃ answers last, Written (c.drain s) answers last ∧ Drained (c.drain s) :=
  h.loop _ le_rfl hloops hturn

/-- The one call that waits is over. -/
theorem Written.resume (h : Written c answers last) {method : String} {streaming : Bool}
    (hloops : c.loops = [⟨answers.length, method, streaming⟩]) (hqueue : c.legacyQueue = [])
    (hlines : c.lines.length = answers.length + 1) (hturn : c.takesInTurn s = true) {output : Output}
    (hanswer : Answer (last ++ [output])) :
    ∃ answers' last', Written (c.resume s 0 answers.length output) answers' last' ∧
      Drained (c.resume s 0 answers.length output) := by
  have hnone : c.loops.eraseIdx 0 = [] := by rw [hloops]; rfl
  refine @Written.drain _ _ (answers ++ [last ++ [output]]) [] hnone ⟨?_, ?_, ?_⟩ hturn
  · rw [← numbered_over, ← numbered_output, ← h.writes]
    rfl
  · exact List.forall_mem_append.mpr ⟨h.whole, List.forall_mem_singleton.mpr hanswer⟩
  · refine .waiting [] hnone (hqueue ▸ .begun [] trivial) ?_
    change c.lines.length = _ + c.legacyQueue.length
    rw [hqueue, List.length_append, hlines]
    rfl

end Loop

/-- What every event keeps. -/
def Kept (c : Connection) : Prop := ∃ answers last, Written c answers last ∧ Drained c

section Step

variable {s : Service} {c : Connection} {answers : List (List Output)} {last : List Output}

/-- A loop that waits is the only one, and its request is the first that is not answered. -/
theorem Phase.loop (h : Phase c answers.length last) {k : Nat} {loop : Loop} (hk : c.loops[k]? = some loop) :
    k = 0 ∧ c.loops = [loop] ∧ loop.request = answers.length ∧ c.legacyQueue = [] ∧
      c.lines.length = answers.length + 1 ∧
      ∃ items : List (Option Json), last = items.map .stream ∧ (loop.streaming = false → items = []) := by
  cases h with
  | waiting _ hloops => rw [hloops] at hk; cases hk
  | calling method hloops hqueue hlines =>
    rw [hloops, List.getElem?_singleton] at hk
    split_ifs at hk with hzero
    obtain rfl := Option.some.inj hk
    exact ⟨hzero, hloops, rfl, hqueue, hlines, [], rfl, fun _ => rfl⟩
  | streaming method items hloops hqueue hlines =>
    rw [hloops, List.getElem?_singleton] at hk
    split_ifs at hk with hzero
    obtain rfl := Option.some.inj hk
    exact ⟨hzero, hloops, rfl, hqueue, hlines, items, rfl, fun hcalling => by cases hcalling⟩

/-- While the queue holds a request no loop waits, and the first of the queue is the first that is not answered. -/
theorem Phase.queue (h : Phase c answers.length last) {r : LegacyRequest} {queue : List LegacyRequest}
    (hqueue : c.legacyQueue = r :: queue) :
    c.loops = [] ∧ r.request = answers.length ∧ Queued (answers.length + 1) queue ∧
      c.lines.length = answers.length + 1 + queue.length ∧
      ((r.isOpen = false ∧ last = []) ∨ ∃ changes : List Json, r.isOpen = true ∧ last = .subscribed :: changes.map .change) := by
  cases h with
  | waiting _ hloops hpending hlines =>
    rw [hqueue] at hpending hlines
    rw [List.length_cons, Nat.add_comm queue.length, ← Nat.add_assoc] at hlines
    cases hpending with
    | begun _ hqueued =>
      obtain ⟨hrequest, hopen, hrest⟩ := hqueued
      exact ⟨hloops, hrequest, hrest, hlines, .inl ⟨hopen, rfl⟩⟩
    | subscription kind _ changes hrest => exact ⟨hloops, rfl, hrest, hlines, .inr ⟨changes, rfl, rfl⟩⟩
  | calling method _ hnone => rw [hqueue] at hnone; cases hnone
  | streaming method items _ hnone => rw [hqueue] at hnone; cases hnone

theorem Written.dequeue (h : Written c answers last) (hdrained : Drained c) {r : LegacyRequest}
    {queue : List LegacyRequest} (hqueue : c.legacyQueue = r :: queue) {answer : List Output} (hanswer : Answer answer)
    {writes : List (Nat × Output)} (hwrites : writes = numbered 0 (answers ++ [answer])) :
    Kept { c.dequeue with writes := writes } := by
  obtain ⟨hloops, -, hrest, hlines, -⟩ := h.phase.queue hqueue
  have htail : c.dequeue.legacyQueue = queue := by
    rw [Connection.dequeue, hqueue]
    rfl
  refine ⟨answers ++ [answer], [], ⟨hwrites.trans (numbered_over answers answer), ?_, ?_⟩, hdrained⟩
  · exact List.forall_mem_append.mpr ⟨h.whole, List.forall_mem_singleton.mpr hanswer⟩
  · rw [List.length_append]
    refine .waiting [] hloops ?_ ?_
    · rw [htail]
      exact .begun queue hrest
    · change c.lines.length = _ + c.dequeue.legacyQueue.length
      rw [htail]
      exact hlines

theorem Written.step (h : Written c answers last) (hdrained : Drained c) (e : ConnectionEvent)
    (hturn : TakesInTurn s c e) : Kept (c.step s e) := by
  cases e with
  | data chunk =>
    rw [TakesInTurn] at hturn
    rw [Connection.step]
    split_ifs at hturn with hloops
    · refine @Written.drain _ { c with buffer := c.buffer ++ chunk } answers last hloops
        ⟨h.writes, h.whole, ?_⟩ hturn
      cases h.phase with
      | waiting _ hloops hpending hlines => exact .waiting last hloops hpending hlines
      | calling method hbusy => rw [hloops] at hbusy; cases hbusy
      | streaming method items hbusy => rw [hloops] at hbusy; cases hbusy
    · -- a loop waits, and the chunk completes no line
      have hnone : (c.buffer ++ chunk).count '\n' = 0 := List.count_eq_zero.mpr hturn
      rw [Connection.drain, hnone, Connection.loop]
      refine ⟨answers, last, ⟨h.writes, h.whole, ?_⟩, fun hidle => absurd hidle hloops⟩
      cases h.phase with
      | waiting _ hidle => exact absurd hidle hloops
      | calling method hloops hqueue hlines => exact .calling method hloops hqueue hlines
      | streaming method items hloops hqueue hlines => exact .streaming method items hloops hqueue hlines
  | returns k result =>
    rw [Connection.step]
    split
    · rename_i request method hk
      obtain ⟨rfl, hloops, rfl, hqueue, hlines, items, rfl, hitems⟩ := h.phase.loop hk
      obtain rfl := hitems rfl
      exact h.resume hloops hqueue hlines hturn (.response result)
    · exact ⟨answers, last, h, hdrained⟩
  | iterates k =>
    rw [Connection.step]
    split
    · rename_i request method hk
      obtain ⟨rfl, hloops, rfl, hqueue, hlines, items, rfl, hitems⟩ := h.phase.loop hk
      obtain rfl := hitems rfl
      have hset : c.loops.set 0 ⟨answers.length, method, true⟩ = [⟨answers.length, method, true⟩] := by
        rw [hloops]
        rfl
      refine ⟨answers, [], ⟨h.writes, h.whole, .streaming method [] hset hqueue hlines⟩, fun hidle => ?_⟩
      exact absurd (hset.symm.trans hidle) (List.cons_ne_nil _ _)
    · exact ⟨answers, last, h, hdrained⟩
  | yields k item =>
    rw [Connection.step]
    split
    · rename_i request method hk
      obtain ⟨rfl, hloops, rfl, hqueue, hlines, items, rfl, -⟩ := h.phase.loop hk
      refine ⟨answers, (items ++ [item]).map .stream, ⟨?_, h.whole, .streaming method _ hloops hqueue hlines⟩, hdrained⟩
      rw [List.map_append, List.map_singleton, ← numbered_output, ← h.writes]
      rfl
    · exact ⟨answers, last, h, hdrained⟩
  | ends k =>
    rw [Connection.step]
    split
    · rename_i request method hk
      obtain ⟨rfl, hloops, rfl, hqueue, hlines, items, rfl, -⟩ := h.phase.loop hk
      exact h.resume hloops hqueue hlines hturn (.streamed items)
    · exact ⟨answers, last, h, hdrained⟩
  | throws k error =>
    rw [Connection.step]
    split
    · rename_i request method streaming hk
      obtain ⟨rfl, hloops, rfl, hqueue, hlines, items, rfl, -⟩ := h.phase.loop hk
      exact h.resume hloops hqueue hlines hturn (.failed items error)
    · exact ⟨answers, last, h, hdrained⟩
  | accepts fields =>
    rw [Connection.step]
    split
    · rename_i request kind queue hqueue
      split
      · exact ⟨answers, last, h, hdrained⟩
      · obtain ⟨-, rfl, -, -, ⟨-, rfl⟩ | ⟨_, hopen, -⟩⟩ := h.phase.queue hqueue
        · refine h.dequeue hdrained hqueue (.accepted fields) ?_
          rw [← List.nil_append [Output.accepted fields], ← numbered_output, ← h.writes]
          rfl
        · cases hopen
    · exact ⟨answers, last, h, hdrained⟩
  | subscribes =>
    rw [Connection.step]
    split
    · rename_i request kind queue hqueue
      split
      · obtain ⟨hloops, rfl, hrest, hlines, ⟨-, rfl⟩ | ⟨_, hopen, -⟩⟩ := h.phase.queue hqueue
        · refine ⟨answers, [.subscribed], ⟨?_, h.whole, ?_⟩, hdrained⟩
          · rw [← List.nil_append [Output.subscribed], ← numbered_output, ← h.writes]
            rfl
          · refine .waiting _ hloops (.subscription kind queue [] hrest) (hlines.trans ?_)
            rw [Nat.add_right_comm]
            rfl
        · cases hopen
      · exact ⟨answers, last, h, hdrained⟩
    · exact ⟨answers, last, h, hdrained⟩
  | changes value =>
    rw [Connection.step]
    split
    · rename_i request kind queue hqueue
      obtain ⟨hloops, rfl, hrest, hlines, ⟨hopen, -⟩ | ⟨changes, -, rfl⟩⟩ := h.phase.queue hqueue
      · cases hopen
      · refine ⟨answers, .subscribed :: (changes ++ [value]).map .change, ⟨?_, h.whole, ?_⟩, hdrained⟩
        · rw [List.map_append, List.map_singleton, ← List.cons_append, ← numbered_output, ← h.writes]
          rfl
        · refine .waiting _ hloops (hqueue ▸ .subscription kind queue _ hrest) (hlines.trans ?_)
          change _ = _ + c.legacyQueue.length
          rw [hqueue, Nat.add_right_comm]
          rfl
    · exact ⟨answers, last, h, hdrained⟩
  | closes =>
    rw [Connection.step]
    split
    · rename_i request kind queue hqueue
      obtain ⟨-, rfl, -, -, ⟨hopen, -⟩ | ⟨changes, -, rfl⟩⟩ := h.phase.queue hqueue
      · cases hopen
      · exact h.dequeue hdrained hqueue (.subscription changes) h.writes
    · exact ⟨answers, last, h, hdrained⟩
  | rejects errorCode errorDescription =>
    rw [Connection.step]
    split
    · rename_i request kind isOpen queue hqueue
      obtain ⟨-, rfl, -, -, ⟨-, rfl⟩ | ⟨changes, -, rfl⟩⟩ := h.phase.queue hqueue
      · refine h.dequeue hdrained hqueue (.rejected errorCode errorDescription) ?_
        rw [← List.nil_append [Output.rejected errorCode errorDescription], ← numbered_output, ← h.writes]
        rfl
      · refine h.dequeue hdrained hqueue (.lost changes errorCode errorDescription) ?_
        rw [← numbered_output, ← h.writes]
        rfl
    · exact ⟨answers, last, h, hdrained⟩

end Step

/-- The lines that were taken, with their line feeds, and the buffer make the text. -/
structure Reads (text : List Char) (c : Connection) : Prop where
  joined : c.lines.flatMap (· ++ ['\n']) ++ c.buffer = text
  single : ∀ line ∈ c.lines, '\n' ∉ line

section Reads

variable {s : Service} {c : Connection} {text : List Char}

theorem Reads.loop (h : Reads text c) (n : Nat) : Reads text (c.loop s n) := by
  induction n generalizing c with
  | zero => exact h
  | succ n ih =>
    rw [Connection.loop]
    cases hcut : cut c.buffer with
    | none => exact h
    | some taken =>
      obtain ⟨line, rest⟩ := taken
      obtain ⟨hline, hbuffer⟩ := cut_spec hcut
      have hjoined : (c.lines ++ [line]).flatMap (· ++ ['\n']) ++ rest = text := by
        rw [← h.joined, hbuffer, List.flatMap_append, List.flatMap_singleton]
        simp only [List.append_assoc, List.singleton_append]
      have hsingle : ∀ line' ∈ c.lines ++ [line], '\n' ∉ line' :=
        List.forall_mem_append.mpr ⟨h.single, List.forall_mem_singleton.mpr hline⟩
      dsimp only
      cases s.admitLine c.lines.length line with
      | refused error => exact ih ⟨hjoined, hsingle⟩
      | legacy kind => exact ih ⟨hjoined, hsingle⟩
      | invoked method => exact ⟨hjoined, hsingle⟩

theorem Reads.resume (h : Reads text c) (k request : Nat) (output : Output) :
    Reads text (c.resume s k request output) :=
  Reads.loop (c := { c with loops := c.loops.eraseIdx k }.write request output) ⟨h.joined, h.single⟩ _

/-- Only the client adds to the text. -/
theorem Reads.step (h : Reads text c) (e : ConnectionEvent) : Reads (text ++ received [e]) (c.step s e) := by
  have hsame : received [e] = [] → Reads (text ++ received [e]) c := by
    intro hnone
    rw [hnone, List.append_nil]
    exact h
  cases e with
  | data chunk =>
    rw [received, received, List.append_nil]
    refine Reads.loop (c := { c with buffer := c.buffer ++ chunk }) ⟨?_, h.single⟩ _
    rw [← List.append_assoc, h.joined]
  | returns k result =>
    rw [Connection.step]
    split
    · exact (hsame rfl).resume k _ _
    · exact hsame rfl
  | iterates k =>
    rw [Connection.step]
    split
    · exact ⟨(hsame rfl).joined, h.single⟩
    · exact hsame rfl
  | yields k item =>
    rw [Connection.step]
    split
    · exact ⟨(hsame rfl).joined, h.single⟩
    · exact hsame rfl
  | ends k =>
    rw [Connection.step]
    split
    · exact (hsame rfl).resume k _ _
    · exact hsame rfl
  | throws k error =>
    rw [Connection.step]
    split
    · exact (hsame rfl).resume k _ _
    · exact hsame rfl
  | accepts fields =>
    rw [Connection.step]
    split
    · split
      · exact hsame rfl
      · exact ⟨(hsame rfl).joined, h.single⟩
    · exact hsame rfl
  | subscribes =>
    rw [Connection.step]
    split
    · split
      · exact ⟨(hsame rfl).joined, h.single⟩
      · exact hsame rfl
    · exact hsame rfl
  | changes value =>
    rw [Connection.step]
    split
    · exact ⟨(hsame rfl).joined, h.single⟩
    · exact hsame rfl
  | closes =>
    rw [Connection.step]
    split
    · exact ⟨(hsame rfl).joined, h.single⟩
    · exact hsame rfl
  | rejects errorCode errorDescription =>
    rw [Connection.step]
    split
    · exact ⟨(hsame rfl).joined, h.single⟩
    · exact hsame rfl

theorem received_cons (e : ConnectionEvent) (events : List ConnectionEvent) :
    received (e :: events) = received [e] ++ received events := by
  cases e with
  | data chunk => rw [received, received, received, List.append_nil]
  | _ => rfl

theorem Reads.run (h : Reads text c) (events : List ConnectionEvent) :
    Reads (text ++ received events) (Trace.run (Connection.step s) c events) := by
  induction events generalizing c text with
  | nil =>
    rw [received, List.append_nil]
    exact h
  | cons e events ih =>
    rw [received_cons, ← List.append_assoc]
    exact ih (h.step e)

theorem Reads.requests (h : Reads text c) : (Lines.lines text).1 = c.lines ++ (Lines.lines c.buffer).1 := by
  rw [← h.joined, Lines.lines, Lines.lines_of_join h.single]

end Reads

theorem Written.answered {c : Connection} {answers : List (List Output)} {last : List Output} (h : Written c answers last) :
    Opening last ∧ answers.length ≤ c.lines.length ∧ (last ≠ [] → answers.length < c.lines.length) := by
  cases h.phase with
  | waiting _ hloops hpending hlines =>
    generalize c.legacyQueue = queue at hpending hlines
    cases hpending with
    | begun _ hqueue => exact ⟨.stream [], hlines ▸ Nat.le_add_right _ _, fun hne => absurd rfl hne⟩
    | subscription kind queue changes hqueue =>
      rw [List.length_cons] at hlines
      exact ⟨.subscription changes, by omega, fun _ => by omega⟩
  | calling method hloops hqueue hlines => exact ⟨.stream [], by omega, fun hne => absurd rfl hne⟩
  | streaming method items hloops hqueue hlines => exact ⟨.stream items, by omega, fun _ => by omega⟩

theorem kept_initial : Kept .initial :=
  ⟨[], [], ⟨rfl, fun _ hmem => (List.not_mem_nil hmem).elim, .waiting [] rfl (.begun [] trivial) rfl⟩,
    fun _ => List.not_mem_nil⟩

/-- While every line is taken in turn, the answers come in the order of the requests. -/
theorem answers_in_order (s : Service) (events : List ConnectionEvent)
    (h : Trace.Meets (Connection.step s) (TakesInTurn s) .initial events) :
    InOrder (received events) (Trace.run (Connection.step s) .initial events) := by
  obtain ⟨answers, last, hwritten, -⟩ := Trace.invariant_run (I := Kept)
    (fun c e ⟨answers, last, hwritten, hdrained⟩ hturn => hwritten.step hdrained e hturn) kept_initial h
  have hreads : Reads [] .initial := ⟨rfl, fun _ hmem => (List.not_mem_nil hmem).elim⟩
  exact ⟨(hreads.run events).requests, answers, last, hwritten.writes, hwritten.whole, hwritten.answered⟩

def launchLine : List Char := "\x7b\"method\":\"launchSession\",\"request\":\x7b\"context\":\x7b\"protocolVersion\":4\x7d\x7d\x7d".toList

def listLine : List Char := "\x7b\"method\":\"listChannels\",\"request\":\x7b\"context\":\x7b\"protocolVersion\":4\x7d\x7d\x7d".toList

/-- What the two lines say. -/
def asking (method : String) : Json :=
  .obj [("method", .str method), ("request", .obj [("context", .obj [("protocolVersion", .num "4")])])]

def twoMethods : Service where
  parse line :=
    if line = launchLine then .ok (asking "launchSession")
    else if line = listLine then .ok (asking "listChannels")
    else .error ⟨none, some "Unexpected end of JSON input"⟩
  text value := value.extractText.getD "[object Object]"
  isMethod name := name = "launchSession" || name = "listChannels"
  throws _ := none

/-- Both requests come in one chunk, and the second waits for the first. -/
def together : List ConnectionEvent :=
  [.data (launchLine ++ '\n' :: listLine ++ ['\n']), .returns 0 (some (.str "launched")), .returns 0 (some (.str "listed"))]

theorem answers_in_order_together :
    InOrder (received together) (Trace.run (Connection.step twoMethods) .initial together) :=
  answers_in_order twoMethods together (by decide +kernel)

/-- The second request comes while the first is launching, and is answered first. -/
def apart : List ConnectionEvent :=
  [.data (launchLine ++ ['\n']), .data (listLine ++ ['\n']), .returns 1 (some (.str "listed")),
    .returns 0 (some (.str "launched"))]

/-- The first line that is written answers the second request. -/
theorem answered_out_of_order :
    ¬ InOrder (received apart) (Trace.run (Connection.step twoMethods) .initial apart) := by
  rintro ⟨-, answers, last, hwrites, hwhole, -⟩
  have hfirst : ((Trace.run (Connection.step twoMethods) .initial apart).writes.map Prod.fst).head? = some 1 := by
    decide +kernel
  have hlow : ∀ w ∈ (numbered 0 (answers ++ [last])).head?, w.1 = 0 := by
    cases answers with
    | nil =>
      intro w hw
      rw [List.nil_append, numbered, numbered, List.append_nil] at hw
      obtain ⟨output, -, rfl⟩ := List.mem_map.mp (List.mem_of_mem_head? hw)
      rfl
    | cons answer answers =>
      intro w hw
      have hne : answer.map (fun output => (0, output)) ≠ [] := by
        intro hnone
        rw [List.map_eq_nil_iff] at hnone
        exact (hwhole answer List.mem_cons_self).ne_nil hnone
      rw [List.cons_append, numbered, List.head?_append_of_ne_nil _ hne] at hw
      obtain ⟨output, -, rfl⟩ := List.mem_map.mp (List.mem_of_mem_head? hw)
      rfl
  rw [hwrites, List.head?_map] at hfirst
  obtain ⟨w, hw, hone⟩ := Option.map_eq_some_iff.mp hfirst
  exact absurd ((hlow w hw).symm.trans hone) (by decide)

end Wardroom.Transports
