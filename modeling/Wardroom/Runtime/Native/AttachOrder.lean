import Wardroom.Runtime.Native.AttachFlow

/-! # The order of an attachment's stream

A stream that has been given the hello goes on in the order in which the host
writes. What comes in one chunk with the acknowledgement is queued before it.
-/

namespace Wardroom.Runtime.Native
open Wardroom.Library Wardroom.Runtime.Host

section Kept
variable {s : AttachStream} {hello : HostHelloAck} {closing : List StreamItem} {link : HostLink}

namespace AttachStream

section Resume
variable (hphase : s.phase = .attaching)
include hphase

theorem resume_waits (h : connection s.link.client = none) : s.resume = s := by
  unfold resume
  rw [if_pos hphase, h]

theorem resume_rejected {reason : HostRejection} (h : connection s.link.client = some (.rejected reason)) :
    s.resume = { s with phase := .threw } := by
  unfold resume
  rw [if_pos hphase, h]

theorem resume_acknowledged {value : HostFrame} (h : connection s.link.client = some (.resolved value))
    (hdecode : decodeHelloAck value.payload = .ok hello) :
    s.resume = { s with phase := .streaming, queue := s.queue ++ [.ofHello hello] } := by
  unfold resume
  rw [if_pos hphase, h]
  dsimp only
  rw [hdecode]

theorem resume_resolved {value : HostFrame} (h : connection s.link.client = some (.resolved value)) :
    s.resume = { s with phase := .threw } ∨ ∃ hello, decodeHelloAck value.payload = .ok hello ∧
      s.resume = { s with phase := .streaming, queue := s.queue ++ [.ofHello hello] } := by
  unfold resume
  rw [if_pos hphase, h]
  dsimp only
  cases hdecode : decodeHelloAck value.payload with
  | error message => exact .inl rfl
  | ok hello => exact .inr ⟨hello, rfl, rfl⟩

end Resume

theorem follow_attaching (hphase : s.phase = .attaching) (hyielded : s.yielded = [])
    (hsettled : link.client.settled = []) (hmicrotasks : link.client.microtasks = [])
    (htimer : link.client.renewalTimer = false) (hconnects : ∀ r ∈ link.client.pending, r.kind = .connect)
    (hlive : link.client.sends = true → s.broken = false →
      HostTurn.followAll .silent (link.inFlight.map Sent.frame) = some s.turn ∧
        link.client.pending = link.inFlight.filterMap Sent.cause ++ link.unanswered ∧
        s.queue = [] ∧ link.client.emitted = [] ∧ link.client.pending.length = 1) :
    (s.follow link).Stage := by
  have hconnection : connection link.client = none := by rw [connection, hsettled]; rfl
  have hresume : (s.hear link).resume = s.hear link := resume_waits (s := s.hear link) hphase hconnection
  have hserve : (s.hear link).serve = s.hear link := by
    apply serve_idle
    change s.phase ≠ _
    rw [hphase]
    simp
  rw [follow, hresume, hserve]
  refine .attaching hphase ⟨hyielded, hsettled, hmicrotasks, htimer, hconnects, fun halive => ?_⟩
  obtain ⟨hfollows, hpending, hqueue, hemitted, hone⟩ := hlive halive.1 halive.2
  refine ⟨⟨hfollows, hpending⟩, ?_, hemitted, hone⟩
  change s.queue ++ (link.client.emitted.drop _).filterMap _ = []
  rw [hqueue, hemitted, List.drop_nil]
  rfl

theorem follow_rejected (hphase : s.phase = .attaching) (hyielded : s.yielded = []) (reason : HostRejection)
    (h : connection link.client = some (.rejected reason)) : (s.follow link).Stage := by
  have hresume : (s.hear link).resume = { s.hear link with phase := .threw } :=
    resume_rejected (s := s.hear link) hphase h
  rw [follow, hresume, serve_idle (by simp)]
  exact .threw rfl hyielded

theorem connection_settled {c : RuntimeHostClient} {r : HostRequest} {settlement : Settlement}
    (h : c.settled = [(r, settlement)]) (hkind : r.kind = .connect) : connection c = some settlement := by
  rw [connection, h]
  simp [hkind]

theorem runMicrotasks_connect {c : RuntimeHostClient} {r : HostRequest} {settlement : Settlement}
    (h : c.microtasks = [(r, settlement)]) (hkind : r.kind = .connect) :
    c.runMicrotasks.emitted = c.emitted ∧ c.runMicrotasks.sends = c.sends := by
  obtain ⟨requestId, kind⟩ := r
  cases hkind
  rw [RuntimeHostClient.runMicrotasks, h, List.foldl_cons, List.foldl_nil]
  cases settlement with
  | rejected reason => exact ⟨rfl, rfl⟩
  | resolved value =>
    unfold RuntimeHostClient.continuation
    dsimp only
    split <;> exact ⟨rfl, rfl⟩

/-- A chunk that hands the HELLO its answer: what it settles, and what else the chunk has brought. -/
structure Answered (s : AttachStream) (n : Nat) (t : Sent) (ts rest : List Sent) (settlement : Settlement) : Prop where
  parts : t :: (ts ++ rest) = s.link.inFlight
  inFlight : (s.link.arrive n).inFlight = rest
  unasked : ∀ t' ∈ ts, t'.frame.isResponse = false
  pending : (s.link.arrive n).client.pending = [] ∧ rest.filterMap Sent.cause ++ s.link.unanswered = []
  emitted : (s.link.arrive n).client.emitted = ts.flatMap fun t => emissionsOf t.frame
  settled : connection (s.link.arrive n).client = some settlement
  resolved : ∀ value, settlement = .resolved value → value = t.frame ∧ value.type = HostType.helloAck
  acknowledged : t.frame.type = HostType.helloAck → settlement = .resolved t.frame

theorem Attaching.answered (h : s.Attaching) (hsound : Sound s.link) (hlive : s.Live) {n : Nat} {t : Sent}
    {ts : List Sent} (hcompletes : s.link.completes n = t :: ts) :
    ∃ rest settlement, s.Answered n t ts rest settlement := by
  obtain ⟨hwaits, -, hemitted, hone⟩ := h.live hlive
  obtain ⟨rest, hparts, hrest, c, hclient, hrun, hemits, hpending⟩ := hsound.arrive n hwaits.pending
  rw [hcompletes] at hparts hrun hemits
  have hin : ∀ t' ∈ t :: ts, t' ∈ s.link.inFlight := fun t' ht' => hparts ▸ List.mem_append_left _ ht'
  have hframes : ∀ t' ∈ t :: ts, t'.frame.WellFormed := fun t' ht' => hsound.orderly.wellFormed t' (hin t' ht')
  -- Before its acknowledgement the host writes answers only.
  have hresponse : t.frame.isResponse = true := by
    have hfollows := hwaits.follows
    rw [← hparts, List.cons_append, List.map_cons] at hfollows
    obtain ⟨between, hfirst, -⟩ := followAll_cons hfollows
    exact follow_silent hfirst
  obtain ⟨r, hr⟩ := Option.isSome_iff_exists.mp ((hsound.caused t (hin t (List.mem_cons_self ..))).symm.trans hresponse)
  obtain ⟨first, hfirst⟩ := List.length_eq_one_iff.mp hone
  have hcauses : first = r ∧ ts.filterMap Sent.cause ++ (rest.filterMap Sent.cause ++ s.link.unanswered) = [] := by
    have hall := hwaits.pending
    rw [hfirst, ← hparts, List.cons_append, List.filterMap_cons_some hr, List.filterMap_append, List.cons_append,
      List.append_assoc] at hall
    obtain ⟨hhead, hnone⟩ := List.cons.inj hall
    exact ⟨hhead, hnone.symm⟩
  obtain ⟨rfl, hnone⟩ := hcauses
  rw [List.append_eq_nil_iff] at hnone
  have hkind : first.kind = .connect := h.connects first (hfirst ▸ List.mem_singleton_self _)
  have hunasked : ∀ t' ∈ ts, t'.frame.isResponse = false := by
    intro t' ht'
    rw [hsound.caused t' (hin t' (List.mem_cons_of_mem _ ht')), List.filterMap_eq_nil_iff.mp hnone.1 t' ht']
    rfl
  obtain ⟨settlement, hreceive, hresolved, hack⟩ :=
    receive_answer (c := s.link.receiving n) (hframes t (List.mem_cons_self ..)) hresponse hfirst
  obtain ⟨hsettled, hmicrotasks⟩ := run_unasked (c := receive (s.link.receiving n) t)
    (fun t' ht' => hframes t' (List.mem_cons_of_mem _ ht')) hunasked
  rw [Trace.run_cons] at hrun
  have hsettled' : c.settled = [(first, settlement)] := by
    rw [hrun, hsettled, hreceive]
    change s.link.client.settled ++ _ = _
    rw [h.settled]
    rfl
  have hmicrotasks' : c.microtasks = [(first, settlement)] := by
    rw [hrun, hmicrotasks, hreceive]
    change s.link.client.microtasks ++ _ = _
    rw [h.microtasks]
    rfl
  refine ⟨rest, settlement, hparts, hrest, hunasked, ⟨?_, hnone.2⟩, ?_, ?_, ?_, hack hkind⟩
  · rw [hclient, (alike_runMicrotasks c).pending, hpending]
    exact hnone.2
  · rw [hclient, (runMicrotasks_connect hmicrotasks' hkind).1, hemits.emitted, hemitted, List.flatMap_cons,
      (response_follow .silent hresponse).1]
    rfl
  · rw [hclient]
    exact connection_settled ((alike_runMicrotasks c).settled.trans hsettled') hkind
  · rw [hkind] at hresolved
    exact hresolved

/-- The chunk ends within the first frame. -/
theorem Attaching.nothing (hphase : s.phase = .attaching) (h : s.Attaching) (hsound : Sound s.link) (hlive : s.Live)
    {n : Nat} (hcompletes : s.link.completes n = []) : (s.follow (s.link.arrive n)).Stage := by
  obtain ⟨hwaits, hqueue, hemitted, hone⟩ := h.live hlive
  obtain ⟨rest, hparts, hrest, c, hclient, hrun, -, hpending⟩ := hsound.arrive n hwaits.pending
  rw [hcompletes] at hparts hrun
  have hquiet : c.microtasks = [] := hrun ▸ h.microtasks
  have hsame : (s.link.arrive n).client = c := by
    rw [hclient, RuntimeHostClient.runMicrotasks, hquiet, List.foldl_nil, ← hquiet]
  have hleft : c.pending = s.link.client.pending := by rw [hrun]; rfl
  refine follow_attaching hphase h.yielded ?_ ?_ ?_ ?_ fun _ _ => ⟨?_, ?_, hqueue, ?_, ?_⟩
  · rw [hsame, hrun]
    exact h.settled
  · rw [hsame]
    exact hquiet
  · rw [hsame, hrun]
    exact h.renewalTimer
  · rw [hsame, hleft]
    exact h.connects
  · rw [hrest, ← List.nil_append rest, hparts]
    exact hwaits.follows
  · rw [hsame, hrest]
    exact hpending
  · rw [hsame, hrun]
    exact hemitted
  · rw [hsame, hleft]
    exact hone

theorem Answered.flowing (h : s.Attaching) (hlive : s.Live) {n : Nat} {t : Sent} {rest : List Sent}
    {value : HostFrame} (ha : s.Answered n t [] rest (.resolved value)) (hdecode : decodeHelloAck value.payload = .ok hello) :
    Flowing { s.hear (s.link.arrive n) with phase := .streaming, queue := (s.hear (s.link.arrive n)).queue ++ [.ofHello hello] }
      hello [] := by
  obtain ⟨hwaits, hqueue, -, -⟩ := h.live hlive
  obtain ⟨rfl, htype⟩ := ha.resolved value rfl
  have hemitted : (s.link.arrive n).client.emitted = [] := ha.emitted
  have hhear : (s.hear (s.link.arrive n)).queue = [] := by
    change s.queue ++ ((s.link.arrive n).client.emitted.drop _).filterMap _ = []
    rw [hqueue, hemitted, List.drop_nil]
    rfl
  have hfollows := hwaits.follows
  rw [← ha.parts, List.nil_append, List.map_cons] at hfollows
  obtain ⟨turn, hacknowledged, hlater⟩ := followAll_cons hfollows
  have hproducing : turn = .producing hello.replayFrom := by
    unfold HostTurn.follow at hacknowledged
    rw [if_neg (by rw [htype]; decide), if_neg (by rw [htype]; decide)] at hacknowledged
    simp only [htype, if_true, hdecode, Option.some.injEq] at hacknowledged
    exact hacknowledged.symm
  refine ⟨⟨?_, ?_, by simp, by simp⟩, ?_, fun _ => ⟨turn, ⟨?_, ?_⟩, .inl ⟨?_, rfl⟩⟩⟩
  · change s.yielded ++ ((s.hear (s.link.arrive n)).queue ++ [_]) =
      .ofHello hello :: ((outputsOf (s.link.arrive n).client.emitted).map .ofOutput ++ [])
    rw [h.yielded, hhear, hemitted]
    rfl
  · change Contiguous hello.replayFrom (outputsOf (s.link.arrive n).client.emitted)
    rw [hemitted]
    trivial
  · change ∀ r ∈ (s.link.arrive n).client.pending, _
    rw [ha.pending.1]
    exact fun r hr => absurd hr List.not_mem_nil
  · change HostTurn.followAll turn ((s.link.arrive n).inFlight.map Sent.frame) = some s.turn
    rw [ha.inFlight]
    exact hlater
  · change (s.link.arrive n).client.pending = (s.link.arrive n).inFlight.filterMap Sent.cause ++ s.link.unanswered
    rw [ha.pending.1, ha.inFlight, ha.pending.2]
  · change turn = .producing (reach hello.replayFrom (outputsOf (s.link.arrive n).client.emitted))
    rw [hemitted]
    exact hproducing

theorem Attaching.arrive (hphase : s.phase = .attaching) (h : s.Attaching) (hsound : Sound s.link) (hlive : s.Live)
    (n : Nat) (hprompt : ∀ t ∈ s.link.completes n, t.frame.isResponse = true) :
    (s.follow (s.link.arrive n)).Stage := by
  cases hcompletes : s.link.completes n with
  | nil => exact h.nothing hphase hsound hlive hcompletes
  | cons t ts =>
    obtain ⟨rest, settlement, ha⟩ := h.answered hsound hlive hcompletes
    have hlast : ts = [] := by
      refine List.eq_nil_iff_forall_not_mem.mpr fun t' ht' => ?_
      have hresponse := hprompt t' (hcompletes ▸ List.mem_cons_of_mem _ ht')
      rw [ha.unasked t' ht'] at hresponse
      cases hresponse
    subst hlast
    cases settlement with
    | rejected reason => exact follow_rejected hphase h.yielded reason ha.settled
    | resolved value =>
      rcases resume_resolved (s := s.hear (s.link.arrive n)) hphase ha.settled with hthrew | ⟨hello, hdecode, hresume⟩
      · rw [follow, hthrew, serve_idle (by simp)]
        exact .threw rfl h.yielded
      · rw [follow, hresume]
        exact (ha.flowing h hlive hdecode).serve rfl

/-- The host puts a frame that it may write on the stream. -/
theorem Attaching.speak (hphase : s.phase = .attaching) (h : s.Attaching) {f : HostFrame}
    (hfollows : (s.turn.follow f).isSome = true) {t : Sent} (hframe : t.frame = f) {rest : List HostRequest}
    (hrest : s.link.unanswered = t.cause.toList ++ rest) {answers : List (HostRequest × HostFrame)} :
    (follow { s with turn := (s.turn.follow f).getD s.turn }
      (HostLink.emit { s.link with unanswered := rest, answers := answers } t)).Stage := by
  refine follow_attaching (s := { s with turn := _ }) hphase h.yielded h.settled h.microtasks h.renewalTimer h.connects
    fun hsends hbroken => ?_
  obtain ⟨hwaits, hqueue, hemitted, hone⟩ := h.live ⟨hsends, hbroken⟩
  obtain ⟨hfollowed, hpending⟩ := hwaits.speak hfollows hframe hrest
  exact ⟨hfollowed, hpending, hqueue, hemitted, hone⟩

/-- The link does nothing. -/
theorem Attaching.idle (hphase : s.phase = .attaching) (h : s.Attaching) : (s.follow s.link).Stage :=
  follow_attaching hphase h.yielded h.settled h.microtasks h.renewalTimer h.connects fun hsends hbroken =>
    have hlive := h.live ⟨hsends, hbroken⟩
    ⟨hlive.1.follows, hlive.1.pending, hlive.2.1, hlive.2.2.1, hlive.2.2.2⟩

theorem Attaching.timeOut (hphase : s.phase = .attaching) (h : s.Attaching) (requestId : Nat) :
    (s.follow (s.link.step (.timeOut requestId))).Stage := by
  cases hfind : s.link.client.pending.find? fun r => r.requestId = requestId with
  | none =>
    have hsame : s.link.step (.timeOut requestId) = s.link := by
      have hclient : (s.link.client.timeOut requestId).runMicrotasks = s.link.client := by
        rw [RuntimeHostClient.timeOut, hfind]
        dsimp only
        rw [RuntimeHostClient.runMicrotasks, h.microtasks, List.foldl_nil, ← h.microtasks]
      rw [HostLink.step, hclient]
    rw [hsame]
    exact h.idle hphase
  | some r =>
    have hkind := h.connects r (List.mem_of_find?_eq_some hfind)
    refine follow_rejected hphase h.yielded (.error "runtime host request timed out") ?_
    refine connection_settled (r := r) ?_ hkind
    change (s.link.client.timeOut requestId).runMicrotasks.settled = _
    rw [(alike_runMicrotasks _).settled, RuntimeHostClient.timeOut, hfind]
    change s.link.client.settled ++ _ = _
    rw [h.settled]
    rfl

/-- Nothing can arrive any more. -/
theorem Attaching.stopped (hphase : s.phase = .attaching) (h : s.Attaching)
    (hsettled : link.client.settled = s.link.client.settled) (hmicrotasks : link.client.microtasks = s.link.client.microtasks)
    (htimer : link.client.renewalTimer = false) (hpending : link.client.pending = s.link.client.pending)
    (hdead : link.client.sends = true → s.broken = false → False) : (s.follow link).Stage :=
  follow_attaching hphase h.yielded (hsettled.trans h.settled) (hmicrotasks.trans h.microtasks) htimer
    (hpending ▸ h.connects) fun hsends hbroken => (hdead hsends hbroken).elim

theorem follow_link (s : AttachStream) (link : HostLink) : (s.follow link).link = link := by
  unfold follow
  rw [(serve_items _).2.1]
  unfold resume
  split_ifs
  · split
    · rfl
    · rfl
    · split <;> rfl
  · rfl

theorem sound_step (h : Sound s.link) {event : StreamEvent} (hspeaks : Speaks s event) : Sound (s.step event).link := by
  have hserve : ∀ s' : AttachStream, s'.link = s.link → Sound s'.serve.link := by
    intro s' hlink
    rw [(serve_items s').2.1, hlink]
    exact h
  have hfollow : ∀ (s' : AttachStream) {event : LinkEvent}, Permitted event → Sound (s'.follow (s.link.step event)).link := by
    intro s' event hpermitted
    rw [follow_link]
    exact h.step event hpermitted
  cases event with
  | connected =>
    rw [AttachStream.step]
    split_ifs
    · exact h.step .connect trivial
    · exact h
  | connectFailed =>
    rw [AttachStream.step]
    split_ifs <;> exact h
  | pull =>
    rw [AttachStream.step]
    split_ifs
    · exact h
    · exact hserve _ rfl
  | stop =>
    rw [AttachStream.step]
    split_ifs
    · exact h
    · exact hserve _ rfl
  | answer f =>
    rw [AttachStream.step]
    split_ifs
    · exact h
    · exact h
    · exact hfollow _ ⟨hspeaks.1, hspeaks.2.1⟩
  | write f =>
    rw [AttachStream.step]
    split_ifs
    · exact h
    · exact hfollow _ ⟨hspeaks.1, hspeaks.2.1⟩
  | arrive n =>
    rw [AttachStream.step]
    split_ifs
    · exact h
    · exact h
    · exact hfollow _ trivial
  | renew =>
    rw [AttachStream.step]
    split_ifs
    · exact h
    · exact hfollow _ trivial
  | timeOut requestId =>
    rw [AttachStream.step]
    split_ifs
    · exact h
    · exact hfollow _ trivial
  | socketError message =>
    rw [AttachStream.step]
    split_ifs
    · exact h
    · rw [follow_link]
      exact ⟨h.orderly.alike ⟨rfl, rfl, rfl, rfl⟩, h.caused, h.asked⟩
  | socketClosed =>
    rw [AttachStream.step]
    split_ifs
    · exact h
    · exact hfollow _ trivial
  | detach =>
    rw [AttachStream.step]
    split_ifs
    · exact h
    · exact hfollow _ trivial
  | connectionClosed detaches =>
    rw [AttachStream.step]
    split_ifs
    · exact h
    · rw [(serve_items _).2.1]
      exact h.step .close trivial
    · exact hserve _ rfl
    · exact h

/-- The consumer asks, or leaves. -/
theorem Stage.consume (h : s.Stage) {s' : AttachStream} (hphase : s'.phase = s.phase) (hlink : s'.link = s.link)
    (hturn : s'.turn = s.turn) (hbroken : s'.broken = s.broken) (hqueue : s'.queue = s.queue)
    (hyielded : s'.yielded = s.yielded) : s'.serve.Stage := by
  have hsequence : ∀ {hello closing}, Sequence s hello closing → Sequence s' hello closing := by
    intro hello closing h
    exact ⟨by rw [hyielded, hqueue, hlink]; exact h.items, by rw [hlink]; exact h.contiguous, h.closes, h.exits⟩
  have hlive : s'.Live → s.Live := by
    intro halive
    rw [Live, hlink, hbroken] at halive
    exact halive
  have hwaits : ∀ {turn}, s.Waits turn → s'.Waits turn := by
    intro turn h
    exact ⟨by rw [hlink, hturn]; exact h.follows, by rw [hlink]; exact h.pending⟩
  cases h with
  | connecting hwhere renewCapabilities h hsilent hempty hnone =>
    rw [serve_idle (by rw [hphase, hwhere]; simp)]
    exact .connecting (hphase.trans hwhere) renewCapabilities (hlink.trans h) (hturn.trans hsilent)
      (hqueue.trans hempty) (hyielded.trans hnone)
  | attaching hwhere h =>
    rw [serve_idle (by rw [hphase, hwhere]; simp)]
    refine .attaching (hphase.trans hwhere) ⟨hyielded.trans h.yielded, ?_, ?_, ?_, ?_, fun halive => ?_⟩
    · rw [hlink]
      exact h.settled
    · rw [hlink]
      exact h.microtasks
    · rw [hlink]
      exact h.renewalTimer
    · rw [hlink]
      exact h.connects
    · obtain ⟨hwaiting, hempty, hemitted, hone⟩ := h.live (hlive halive)
      exact ⟨hwaits hwaiting, hqueue.trans hempty, by rw [hlink]; exact hemitted, by rw [hlink]; exact hone⟩
  | streaming hwhere hello closing h =>
    refine Flowing.serve (hphase.trans hwhere) ⟨hsequence h.toSequence, by rw [hlink]; exact h.renewals, fun halive => ?_⟩
    obtain ⟨turn, hwaiting, hturns⟩ := h.live (hlive halive)
    exact ⟨turn, hwaits hwaiting, by rw [hlink]; exact hturns⟩
  | done hwhere hello closing h hempty =>
    rw [serve_idle (by rw [hphase, hwhere]; simp)]
    exact .done (hphase.trans hwhere) hello closing (hsequence h) (hqueue.trans hempty)
  | abandoned hwhere hello closing h =>
    rw [serve_idle (by rw [hphase, hwhere]; simp)]
    exact .abandoned (hphase.trans hwhere) hello closing (hsequence h)
  | threw hwhere hnone =>
    rw [serve_idle (by rw [hphase, hwhere]; simp)]
    exact .threw (hphase.trans hwhere) (hyielded.trans hnone)

theorem stage_connected (renewCapabilities : Bool) (hlink : s.link = .initial renewCapabilities)
    (hturn : s.turn = .silent) (hqueue : s.queue = []) (hyielded : s.yielded = []) :
    Stage { s with phase := .attaching, link := s.link.step .connect } := by
  refine .attaching rfl ⟨hyielded, ?_, ?_, ?_, ?_, fun _ => ⟨⟨?_, ?_⟩, hqueue, ?_, ?_⟩⟩
  · rw [hlink]
    rfl
  · rw [hlink]
    rfl
  · rw [hlink]
    rfl
  · rw [hlink]
    intro r hr
    rw [List.mem_singleton.mp hr]
    rfl
  · change HostTurn.followAll .silent (((s.link.step .connect).inFlight).map Sent.frame) = some s.turn
    rw [hlink, hturn]
    rfl
  · change (s.link.step .connect).client.pending = _
    rw [hlink]
    rfl
  · change (s.link.step .connect).client.emitted = []
    rw [hlink]
    rfl
  · change (s.link.step .connect).client.pending.length = 1
    rw [hlink]
    rfl

theorem started_iff : s.started = true ↔ s.phase = .attaching ∨ s.phase = .streaming := by
  simp [started]

theorem Stage.speak (h : s.Stage) (hstarted : s.started = true) {f : HostFrame}
    (hfollows : (s.turn.follow f).isSome = true) {t : Sent} (hframe : t.frame = f) {rest : List HostRequest}
    (hrest : s.link.unanswered = t.cause.toList ++ rest) {answers : List (HostRequest × HostFrame)} :
    (follow { s with turn := (s.turn.follow f).getD s.turn }
      (HostLink.emit { s.link with unanswered := rest, answers := answers } t)).Stage := by
  rw [started_iff] at hstarted
  cases h with
  | attaching hphase h => exact h.speak hphase hfollows hframe hrest
  | streaming hphase hello closing h => exact h.speak hphase hfollows hframe hrest
  | connecting hphase _ _ _ _ _ => simp [hphase] at hstarted
  | done hphase _ _ _ _ => simp [hphase] at hstarted
  | abandoned hphase _ _ _ => simp [hphase] at hstarted
  | threw hphase _ => simp [hphase] at hstarted

theorem stage_step (h : s.Stage) (hsound : Sound s.link) {event : StreamEvent} (hspeaks : Speaks s event)
    (hprompt : Prompt s event) : (s.step event).Stage := by
  cases event with
  | connected =>
    rw [AttachStream.step]
    split_ifs with hphase
    · cases h with
      | connecting _ renewCapabilities hlink hturn hqueue hyielded =>
        exact stage_connected renewCapabilities hlink hturn hqueue hyielded
      | _ => simp_all
    · exact h
  | connectFailed =>
    rw [AttachStream.step]
    split_ifs with hphase
    · cases h with
      | connecting _ _ _ _ _ hyielded => exact .threw rfl hyielded
      | _ => simp_all
    · exact h
  | pull =>
    rw [AttachStream.step]
    split_ifs
    · exact h
    · exact h.consume rfl rfl rfl rfl rfl rfl
  | stop =>
    rw [AttachStream.step]
    split_ifs
    · exact h
    · exact h.consume rfl rfl rfl rfl rfl rfl
  | answer f =>
    rw [AttachStream.step]
    split_ifs with hstarted hnone
    · exact h
    · exact h
    · rw [HostLink.step]
      cases hunanswered : s.link.unanswered with
      | nil => exact absurd hunanswered hnone
      | cons r rest => exact h.speak (by simpa using hstarted) hspeaks.2.2 rfl hunanswered
  | write f =>
    rw [AttachStream.step]
    split_ifs with hstarted
    · exact h
    · exact h.speak (by simpa using hstarted) hspeaks.2.2 (t := ⟨none, f⟩) rfl rfl
  | arrive n =>
    rw [AttachStream.step]
    split_ifs with hstarted hbroken
    · exact h
    · exact h
    · rw [Bool.not_eq_true] at hbroken
      rw [HostLink.step]
      split_ifs with hsends
      · cases h with
        | attaching hphase h => exact h.arrive hphase hsound ⟨hsends, hbroken⟩ n (hprompt hphase hbroken hsends)
        | streaming hphase hello closing h => exact h.arrive hphase hsound ⟨hsends, hbroken⟩ n
        | _ => simp_all [started]
      · cases h with
        | attaching hphase h => exact h.idle hphase
        | streaming hphase hello closing h => exact h.idle hphase
        | _ => simp_all [started]
  | renew =>
    rw [AttachStream.step]
    split_ifs with hstarted
    · exact h
    · cases h with
      | attaching hphase h =>
        rw [HostLink.step, h.renewalTimer]
        exact h.idle hphase
      | streaming hphase hello closing h => exact h.renew hphase
      | _ => simp_all [started]
  | timeOut requestId =>
    rw [AttachStream.step]
    split_ifs with hstarted
    · exact h
    · cases h with
      | attaching hphase h => exact h.timeOut hphase requestId
      | streaming hphase hello closing h => exact h.timeOut hphase requestId
      | _ => simp_all [started]
  | socketError message =>
    rw [AttachStream.step]
    split_ifs with hstarted
    · exact h
    · cases h with
      | attaching hphase h =>
        refine Attaching.stopped (s := { s with broken := true }) hphase
          ⟨h.yielded, h.settled, h.microtasks, h.renewalTimer, h.connects, fun hlive => absurd hlive.2 (by simp)⟩
          rfl rfl h.renewalTimer rfl fun _ hbroken => absurd hbroken (by simp)
      | streaming hphase hello closing h =>
        refine Flowing.stopped (s := { s with broken := true }) hphase
          ⟨⟨h.items, h.contiguous, h.closes, h.exits⟩, h.renewals, fun hlive => absurd hlive.2 (by simp)⟩
          [.error (.error message)] rfl
          (fun emission hemission => .inr ⟨_, List.mem_singleton.mp hemission⟩) rfl fun _ hbroken => absurd hbroken (by simp)
      | _ => simp_all [started]
  | socketClosed =>
    have hdead : (s.link.step .socketClosed).client.sends = true → s.broken = false → False := by
      simp [HostLink.step, RuntimeHostClient.emit, RuntimeHostClient.sends]
    rw [AttachStream.step]
    split_ifs with hstarted
    · exact h
    · cases h with
      | attaching hphase h => exact h.stopped hphase rfl rfl h.renewalTimer rfl hdead
      | streaming hphase hello closing h =>
        exact Flowing.stopped hphase h [.close] rfl (fun emission hemission => .inl (List.mem_singleton.mp hemission))
          rfl hdead
      | _ => simp_all [started]
  | detach =>
    have hdead : (s.link.step .close).client.sends = true → s.broken = false → False := by
      simp [HostLink.step, RuntimeHostClient.close, RuntimeHostClient.sends]
    rw [AttachStream.step]
    split_ifs with hstarted
    · exact h
    · cases h with
      | attaching hphase h => exact h.stopped hphase rfl rfl rfl rfl hdead
      | streaming hphase hello closing h =>
        exact Flowing.stopped hphase h [] (List.append_nil _).symm (fun _ hnone => absurd hnone List.not_mem_nil) rfl hdead
      | _ => simp_all [started]
  | connectionClosed detaches =>
    rw [AttachStream.step]
    split_ifs with hstarted hphase hdetaches
    · exact h
    · cases h with
      | streaming _ hello closing h =>
        refine Flowing.serve hphase ⟨⟨h.items, h.contiguous, h.closes, h.exits⟩, h.renewals, fun hlive => ?_⟩
        have hsends := hlive.1
        simp [HostLink.step, RuntimeHostClient.close, RuntimeHostClient.sends] at hsends
      | _ => simp_all
    · exact h.consume rfl rfl rfl rfl rfl rfl
    · exact h

theorem stage_initial (renewCapabilities : Bool) : (AttachStream.initial renewCapabilities).Stage :=
  .connecting rfl renewCapabilities rfl rfl rfl rfl

/-- Something stands before the hello. -/
def Spoiled (s : AttachStream) : Prop :=
  s.phase.attached = true ∧ ∃ item items, s.yielded ++ s.queue = item :: items ∧ item.isHello = false

theorem Spoiled.not_delivered (h : s.Spoiled) : ¬Delivered s := by
  obtain ⟨hattached, item, items, hitems, hother⟩ := h
  intro hdelivered
  obtain ⟨hello, closing, hsequence⟩ := hdelivered.sequence hattached
  rw [hsequence.items] at hitems
  obtain ⟨rfl, -⟩ := List.cons.inj hitems
  cases hother

theorem Spoiled.grow (h : s.Spoiled) {s' : AttachStream} (hattached : s'.phase.attached = true)
    (hitems : (s.yielded ++ s.queue).IsPrefix (s'.yielded ++ s'.queue)) : s'.Spoiled := by
  obtain ⟨-, item, items, hfirst, hother⟩ := h
  obtain ⟨later, hlater⟩ := hitems
  exact ⟨hattached, item, items ++ later, by rw [← hlater, hfirst]; rfl, hother⟩

theorem attached_serve (h : s.phase.attached = true) : s.serve.phase.attached = true := by
  by_cases hphase : s.phase = .streaming
  · rcases serve_phase hphase with hnext | hnext | ⟨hnext, -⟩ <;> rw [hnext] <;> rfl
  · rw [serve_idle hphase]
    exact h

/-- The loop takes its items from the front. -/
theorem Spoiled.serve (h : s.Spoiled) : s.serve.Spoiled :=
  h.grow (attached_serve h.1) (by rw [(serve_items s).1])

theorem Spoiled.follow (h : s.Spoiled) (link : HostLink) : (s.follow link).Spoiled := by
  have hresume : (s.hear link).resume = s.hear link := by
    apply resume_idle
    change s.phase ≠ _
    intro hphase
    have hattached := h.1
    rw [hphase] at hattached
    cases hattached
  have hhear : (s.hear link).Spoiled := by
    refine h.grow h.1 ?_
    change (s.yielded ++ s.queue).IsPrefix (s.yielded ++ (s.queue ++ _))
    rw [← List.append_assoc]
    exact List.prefix_append _ _
  rw [AttachStream.follow, hresume]
  exact hhear.serve

theorem Spoiled.step (h : s.Spoiled) (event : StreamEvent) : (s.step event).Spoiled := by
  have hsame : ∀ s' : AttachStream, s'.phase = s.phase → s'.yielded = s.yielded → s'.queue = s.queue → s'.Spoiled := by
    intro s' hphase hyielded hqueue
    exact h.grow (hphase ▸ h.1) (by rw [hyielded, hqueue])
  have hconnecting : s.phase ≠ .connecting := by
    intro hphase
    have hattached := h.1
    rw [hphase] at hattached
    cases hattached
  cases event with
  | connected => rw [AttachStream.step, if_neg hconnecting]; exact h
  | connectFailed => rw [AttachStream.step, if_neg hconnecting]; exact h
  | pull =>
    rw [AttachStream.step]
    split_ifs
    · exact h
    · exact (hsame { s with pulls := s.pulls + 1 } rfl rfl rfl).serve
  | stop =>
    rw [AttachStream.step]
    split_ifs
    · exact h
    · exact (hsame { s with stopping := true } rfl rfl rfl).serve
  | answer f =>
    rw [AttachStream.step]
    split_ifs
    · exact h
    · exact h
    · exact (hsame { s with turn := (s.turn.follow f).getD s.turn } rfl rfl rfl).follow _
  | write f =>
    rw [AttachStream.step]
    split_ifs
    · exact h
    · exact (hsame { s with turn := (s.turn.follow f).getD s.turn } rfl rfl rfl).follow _
  | arrive n =>
    rw [AttachStream.step]
    split_ifs
    · exact h
    · exact h
    · exact h.follow _
  | renew =>
    rw [AttachStream.step]
    split_ifs
    · exact h
    · exact h.follow _
  | timeOut requestId =>
    rw [AttachStream.step]
    split_ifs
    · exact h
    · exact h.follow _
  | socketError message =>
    rw [AttachStream.step]
    split_ifs
    · exact h
    · exact (hsame { s with broken := true } rfl rfl rfl).follow _
  | socketClosed =>
    rw [AttachStream.step]
    split_ifs
    · exact h
    · exact h.follow _
  | detach =>
    rw [AttachStream.step]
    split_ifs
    · exact h
    · exact h.follow _
  | connectionClosed detaches =>
    rw [AttachStream.step]
    split_ifs
    · exact h
    · exact (hsame { s with closed := true, link := s.link.step .close } rfl rfl rfl).serve
    · exact (hsame { s with closed := true } rfl rfl rfl).serve
    · exact h

theorem emissionsOf_unasked {t : Sent} (hframe : t.frame.WellFormed) (hunasked : t.frame.isResponse = false) :
    ∃ emission item, emissionsOf t.frame = [emission] ∧ StreamItem.ofEmission emission = some item ∧
      item.isHello = false := by
  rcases unasked_decodes hframe hunasked with ⟨houtput, value, hdecode⟩ | ⟨houtput, hexit, code, hdecode⟩
  · exact ⟨.output value, _, by rw [emissionsOf, if_pos houtput, hdecode]; rfl, rfl, rfl⟩
  · exact ⟨.exit code, _, by rw [emissionsOf, if_neg houtput, if_pos hexit, hdecode]; rfl, rfl, rfl⟩

theorem acknowledged_of_unasked {turn turn' : HostTurn} {f f' : HostFrame} (h : HostTurn.follow .silent f = some turn)
    (h' : turn.follow f' = some turn') (hunasked : f'.isResponse = false) :
    f.type = HostType.helloAck ∧ ∃ hello, decodeHelloAck f.payload = .ok hello := by
  have hturn : turn ≠ .silent := by
    rintro rfl
    rw [follow_silent h'] at hunasked
    cases hunasked
  have hresponse := follow_silent h
  have houtput : f.type ≠ HostType.output := by
    intro htype
    simp [HostFrame.isResponse, htype] at hresponse
  have hexit : f.type ≠ HostType.exit := by
    intro htype
    simp [HostFrame.isResponse, htype] at hresponse
  unfold HostTurn.follow at h
  rw [if_neg houtput, if_neg hexit] at h
  by_cases hack : f.type = HostType.helloAck
  · refine ⟨hack, ?_⟩
    cases hdecode : decodeHelloAck f.payload with
    | ok hello => exact ⟨hello, rfl⟩
    | error message =>
      simp only [hack, if_true, hdecode, Option.some.injEq] at h
      exact absurd h.symm hturn
  · simp only [hack, if_false, Option.some.injEq] at h
    exact absurd h.symm hturn

theorem Attaching.spoil (hphase : s.phase = .attaching) (h : s.Attaching) (hsound : Sound s.link) (hlive : s.Live)
    {n : Nat} (hlate : ¬∀ t ∈ s.link.completes n, t.frame.isResponse = true) : (s.follow (s.link.arrive n)).Spoiled := by
  obtain ⟨hwaits, hqueue, hemitted, -⟩ := h.live hlive
  cases hcompletes : s.link.completes n with
  | nil => exact absurd (by simp [hcompletes]) hlate
  | cons t ts =>
    obtain ⟨rest, settlement, ha⟩ := h.answered hsound hlive hcompletes
    have hfollows := hwaits.follows
    rw [← ha.parts, List.map_cons] at hfollows
    obtain ⟨turn, hfirst, hlater⟩ := followAll_cons hfollows
    cases hts : ts with
    | nil =>
      refine absurd (fun t' ht' => ?_) hlate
      rw [hcompletes, hts] at ht'
      rw [List.mem_singleton.mp ht']
      exact follow_silent hfirst
    | cons t' ts' =>
      rw [hts, List.cons_append, List.map_cons] at hlater
      obtain ⟨turn', hsecond, -⟩ := followAll_cons hlater
      have hunasked := ha.unasked t' (hts ▸ List.mem_cons_self ..)
      have hmem : t' ∈ s.link.inFlight := by
        rw [← ha.parts, hts]
        exact List.mem_cons_of_mem _ (List.mem_cons_self ..)
      obtain ⟨hack, hello, hdecode⟩ := acknowledged_of_unasked hfirst hsecond hunasked
      obtain ⟨emission, item, hemission, hitem, hother⟩ :=
        emissionsOf_unasked (hsound.orderly.wellFormed t' hmem) hunasked
      have hqueued : (s.hear (s.link.arrive n)).queue =
          item :: (ts'.flatMap fun t => emissionsOf t.frame).filterMap StreamItem.ofEmission := by
        rw [hear_emitted (ts.flatMap fun t => emissionsOf t.frame) (by rw [ha.emitted, hemitted]; rfl),
          hqueue, hts, List.flatMap_cons, hemission, List.singleton_append, List.filterMap_cons_some hitem]
        rfl
      rw [AttachStream.follow, resume_acknowledged (s := s.hear (s.link.arrive n)) hphase
        (ha.settled.trans (congrArg some (ha.acknowledged hack))) hdecode]
      refine Spoiled.serve ⟨rfl, item, (ts'.flatMap fun t => emissionsOf t.frame).filterMap StreamItem.ofEmission ++
        [.ofHello hello], ?_, hother⟩
      change s.yielded ++ ((s.hear (s.link.arrive n)).queue ++ _) = _
      rw [h.yielded, hqueued]
      rfl

theorem spoiled_step (h : s.Stage) (hsound : Sound s.link) {event : StreamEvent} (hlate : ¬Prompt s event) :
    (s.step event).Spoiled := by
  cases event with
  | arrive n =>
    simp only [Prompt, Classical.not_imp] at hlate
    obtain ⟨hphase, hbroken, hsends, hlate⟩ := hlate
    rw [AttachStream.step, if_neg (by simp [started, hphase]), if_neg (by simp [hbroken]), HostLink.step, if_pos hsends]
    cases h with
    | attaching _ h => exact h.spoil hphase hsound ⟨hsends, hbroken⟩ hlate
    | _ => simp_all
  | _ => exact absurd trivial hlate

end AttachStream

end Kept

/-- The stream is one hello, then the output in order, then what closes it, in just those runs in which no output
or exit comes in a chunk with the acknowledgement. -/
theorem stream_delivers_iff (renewCapabilities : Bool) (events : List StreamEvent)
    (h : Trace.Meets AttachStream.step Speaks (AttachStream.initial renewCapabilities) events) :
    Delivered (Trace.run AttachStream.step (AttachStream.initial renewCapabilities) events) ↔
      Trace.Meets AttachStream.step Prompt (AttachStream.initial renewCapabilities) events := by
  have hrun : ∀ (events : List StreamEvent) (s : AttachStream), s.Stage → AttachStream.Sound s.link →
      Trace.Meets AttachStream.step Speaks s events →
      (Delivered (Trace.run AttachStream.step s events) ↔ Trace.Meets AttachStream.step Prompt s events) := by
    intro events
    induction events with
    | nil => exact fun s hs _ _ => iff_of_true hs.delivered trivial
    | cons event events ih =>
      intro s hs hsound hmeets
      have hnext := AttachStream.sound_step hsound hmeets.1
      by_cases hprompt : Prompt s event
      · rw [Trace.run_cons, Trace.meets_cons,
          ih _ (AttachStream.stage_step hs hsound hmeets.1 hprompt) hnext hmeets.2, and_iff_right hprompt]
      · have hspoiled : (Trace.run AttachStream.step (s.step event) events).Spoiled :=
          Trace.invariant_of_step (fun _ event hs => hs.step event) (AttachStream.spoiled_step hs hsound hprompt) events
        exact iff_of_false hspoiled.not_delivered fun hall => hprompt hall.1
  exact hrun events _ (AttachStream.stage_initial renewCapabilities) (AttachStream.sound_initial renewCapabilities) h

/-- The acknowledgement of a host that has produced two bytes. -/
def greeting : HostFrame :=
  ⟨HostType.helloAck, [0, 1, 0, 0, 0, 1, 0, 0, 0, 0, 0, 0, 0, 0, 0, 0, 0, 0, 0, 0, 0, 2, 0]⟩

def replayed : HostFrame := ⟨HostType.output, [0, 0, 0, 0, 0, 0, 0, 0, 0x68, 0x69]⟩

/-- The host acknowledges, replays its two bytes and exits. -/
def attachment : List StreamEvent := [.connected, .answer greeting, .write replayed, .write ⟨HostType.exit, [0, 0, 0, 0]⟩]

/-- The acknowledgement is a chunk of its own. -/
def acknowledgedApart : List StreamEvent :=
  attachment ++ [.arrive 28, .arrive 20, .arrive 4, .pull, .pull, .socketClosed, .pull]

/-- All three frames come as one chunk. -/
def acknowledgedTogether : List StreamEvent := attachment ++ [.arrive 52, .pull, .pull, .socketClosed, .pull]

theorem stream_delivers_apart :
    Delivered (Trace.run AttachStream.step (AttachStream.initial true) acknowledgedApart) :=
  (stream_delivers_iff true acknowledgedApart (by decide +kernel)).mpr (by decide +kernel)

/-- The consumer is given the output and the exit before the hello. -/
theorem hello_overtaken : ¬ ∀ renewCapabilities events,
    Trace.Meets AttachStream.step Speaks (AttachStream.initial renewCapabilities) events →
      Delivered (Trace.run AttachStream.step (AttachStream.initial renewCapabilities) events) := by
  intro hall
  have hdelivered := hall true acknowledgedTogether (by decide +kernel)
  obtain ⟨hello, closing, hsequence⟩ := hdelivered.sequence (by decide +kernel)
  have hyielded : (Trace.run AttachStream.step (AttachStream.initial true) acknowledgedTogether).yielded.map
      StreamItem.isHello = [false, false, true] := by decide +kernel
  have hqueue : (Trace.run AttachStream.step (AttachStream.initial true) acknowledgedTogether).queue = [] := by
    decide +kernel
  have hfirst := congrArg (List.map StreamItem.isHello) hsequence.items
  rw [hqueue, List.append_nil, hyielded, List.map_cons] at hfirst
  cases hfirst

end Wardroom.Runtime.Native
