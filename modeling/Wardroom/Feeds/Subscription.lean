import Wardroom.Library.Trace
import Wardroom.Storage.Readers

/-! # Subscriptions

A subscription queues what its source hands over and gives it out item by item.
It keeps the position of what it has delivered, of what was acknowledged, and
whether it is closed. Cursors are numbers here: their texts are numerals.
-/

namespace Wardroom.Feeds
open Wardroom.Library Wardroom.Domain Wardroom.Storage

def defaultMaxBufferedDeltaBatches : Nat := 128

/-- An absent filter lets every change pass. -/
structure SubscriptionInput where
  channelId : String
  afterCursor : Option Nat
  filter : Change → Bool
  maxBuffered : Nat
  positive : 1 ≤ maxBuffered

/-- A source throws where there is no answer. -/
structure SubscriptionSource where
  snapshot : String → Option Snapshot
  replay : Nat → String → Option (List Change)

inductive SnapshotOrDelta where
  | snapshot (value : Snapshot)
  | delta (changes : List Change) (cursor : Nat)

inductive StreamEnd where
  | done
  | failed (code : String)

/-- The fields of the source's session, and below them what has happened so far: the items the
consumer has received, the changes the source has handed over, the cursor the subscription started
after, and whether a push went over the bound. -/
structure Subscription where
  queue : List SnapshotOrDelta
  waiting : Bool
  ended : Option StreamEnd
  delivered : Option Nat
  acknowledged : Option Nat
  received : List SnapshotOrDelta
  emitted : List Change
  base : Nat
  overflowed : Bool

namespace Subscription

def closed (s : Subscription) : Bool := s.ended.isSome

/-- `close()`: what is queued is dropped. -/
def close (s : Subscription) : Subscription :=
  if s.closed then s else { s with queue := [], waiting := false, ended := some .done }

def itemCursor : SnapshotOrDelta → Nat
  | .snapshot value => value.cursor
  | .delta _ cursor => cursor

/-- Hand the first queued item to the consumer. -/
def shift (s : Subscription) (item : SnapshotOrDelta) (queue : List SnapshotOrDelta) : Subscription :=
  { s with
    queue := queue
    received := s.received ++ [item]
    delivered := match item with
      | .delta _ cursor => some cursor
      | .snapshot _ => s.delivered }

/-- `next()`. -/
def next (s : Subscription) : Subscription :=
  match s.queue with
  | item :: queue => s.shift item queue
  | [] => if s.closed then s else { s with waiting := true }

end Subscription

def firstOfEach : List Change → List Change
  | [] => []
  | change :: rest => change :: (firstOfEach rest).filter fun c => c.cursor ≠ change.cursor

def SubscriptionInput.wants (input : SubscriptionInput) (change : Change) : Bool :=
  (change.channelId = some input.channelId || change.channelId = none) && input.filter change

def byCursor (a b : Change) : Prop := a.cursor ≤ b.cursor

instance : DecidableRel byCursor := fun _ _ => inferInstanceAs (Decidable (_ ≤ _))

instance : Std.Total byCursor := ⟨fun a b => le_total a.cursor b.cursor⟩

instance : IsTrans Change byCursor := ⟨fun _ _ _ hab hbc => le_trans hab hbc⟩

/-- The position that new changes have to be past. -/
def Subscription.after (input : SubscriptionInput) (s : Subscription) : Nat :=
  (input.afterCursor.or s.delivered).getD 0

def Subscription.fresh (input : SubscriptionInput) (s : Subscription) (changes : List Change) :
    List Change :=
  (firstOfEach ((changes.filter input.wants).filter fun c => s.after input < c.cursor)).insertionSort
    byCursor

namespace Subscription

def enqueueChanges (input : SubscriptionInput) (changes : List Change) (s : Subscription) :
    Subscription :=
  if s.closed then s
  else
    let s' := { s with emitted := s.emitted ++ changes }
    match (s.fresh input changes).getLast? with
    | none => s'
    | some last =>
      let pushed := { s' with queue := s.queue ++ [.delta (s.fresh input changes) last.cursor] }
      if input.maxBuffered < pushed.queue.length then { close pushed with overflowed := true }
      else if s.waiting then next { pushed with waiting := false }
      else pushed

def unstarted : Subscription := ⟨[], false, none, none, none, [], [], 0, false⟩

/-- `subscribe` and `start`; a source that throws closes the subscription. -/
def start (input : SubscriptionInput) (source : SubscriptionSource) : Subscription :=
  match input.afterCursor with
  | some after =>
    match source.replay after input.channelId with
    | none => close unstarted
    | some changes => enqueueChanges input changes { unstarted with base := after }
  | none =>
    match source.snapshot input.channelId with
    | none => close unstarted
    | some value =>
      { unstarted with
        delivered := some value.cursor, queue := [.snapshot value], base := value.cursor }

def acknowledge (cursor : Nat) (s : Subscription) : Except String Subscription :=
  if s.closed then .error "closed"
  else if s.delivered.any fun d => d < cursor then .error "closed"
  else if s.acknowledged.all fun a => a < cursor then .ok { s with acknowledged := some cursor }
  else .ok s

end Subscription

inductive SubscriptionEvent where
  | commit (changes : List Change)
  | next
  | acknowledge (cursor : Nat)
  | close

def subscriptionStep (input : SubscriptionInput) (s : Subscription) :
    SubscriptionEvent → Subscription
  | .commit changes => s.enqueueChanges input changes
  | .next => s.next
  | .acknowledge cursor => (s.acknowledge cursor).toOption.getD s
  | .close => s.close

section Fresh

theorem mem_firstOfEach {changes : List Change} {c : Change} (h : c ∈ firstOfEach changes) :
    c ∈ changes := by
  induction changes with
  | nil => exact h
  | cons d rest ih =>
    rcases List.mem_cons.mp h with rfl | h
    · exact List.mem_cons_self
    · exact List.mem_cons_of_mem _ (ih (List.mem_filter.mp h).1)

theorem exists_firstOfEach {changes : List Change} {c : Change} (h : c ∈ changes) :
    ∃ d ∈ firstOfEach changes, d.cursor = c.cursor := by
  induction changes with
  | nil => cases h
  | cons d rest ih =>
    by_cases hd : d.cursor = c.cursor
    · exact ⟨d, List.mem_cons_self, hd⟩
    · rcases List.mem_cons.mp h with rfl | h
      · exact absurd rfl hd
      · obtain ⟨e, he, hcursor⟩ := ih h
        refine ⟨e, List.mem_cons_of_mem _ (List.mem_filter.mpr ⟨he, ?_⟩), hcursor⟩
        simpa [hcursor] using Ne.symm hd

theorem firstOfEach_pairwise (changes : List Change) :
    (firstOfEach changes).Pairwise fun a b => a.cursor ≠ b.cursor := by
  induction changes with
  | nil => exact .nil
  | cons d rest ih =>
    refine List.pairwise_cons.mpr ⟨fun c hc => ?_, ih.filter _⟩
    simpa using Ne.symm (of_decide_eq_true (List.mem_filter.mp hc).2)

variable {input : SubscriptionInput} {s : Subscription} {changes : List Change}

theorem mem_fresh {c : Change} (h : c ∈ s.fresh input changes) :
    c ∈ changes ∧ input.wants c = true ∧ s.after input < c.cursor := by
  unfold Subscription.fresh at h
  rw [List.mem_insertionSort] at h
  obtain ⟨hmem, hafter⟩ := List.mem_filter.mp (mem_firstOfEach h)
  obtain ⟨hmem, hwants⟩ := List.mem_filter.mp hmem
  exact ⟨hmem, hwants, of_decide_eq_true hafter⟩

theorem exists_fresh {c : Change} (hmem : c ∈ changes) (hwants : input.wants c = true)
    (hafter : s.after input < c.cursor) : ∃ d ∈ s.fresh input changes, d.cursor = c.cursor := by
  have hfiltered : c ∈ (changes.filter input.wants).filter fun c => s.after input < c.cursor :=
    List.mem_filter.mpr ⟨List.mem_filter.mpr ⟨hmem, hwants⟩, decide_eq_true hafter⟩
  obtain ⟨d, hd, hcursor⟩ := exists_firstOfEach hfiltered
  exact ⟨d, (List.mem_insertionSort _).mpr hd, hcursor⟩

theorem fresh_increasing : (s.fresh input changes).Pairwise fun a b => a.cursor < b.cursor := by
  unfold Subscription.fresh
  have hsorted := List.pairwise_insertionSort byCursor
    (firstOfEach ((changes.filter input.wants).filter fun c => s.after input < c.cursor))
  have hdistinct := (List.perm_insertionSort byCursor
    (firstOfEach ((changes.filter input.wants).filter fun c => s.after input < c.cursor))).pairwise_iff
    (fun {a b} (h : a.cursor ≠ b.cursor) => h.symm) |>.mpr (firstOfEach_pairwise _)
  exact (hsorted.and hdistinct).imp fun h => lt_of_le_of_ne h.1 h.2

end Fresh

def itemChanges : SnapshotOrDelta → List Change
  | .snapshot _ => []
  | .delta changes _ => changes

namespace Subscription

def deliveredChanges (s : Subscription) : List Change := s.received.flatMap itemChanges

/-- The changes delivered or queued, in the order in which the consumer gets them. -/
def handled (s : Subscription) : List Change := s.deliveredChanges ++ s.queue.flatMap itemChanges

/-- The position of the last item that the consumer received. -/
def receivedCursor (s : Subscription) : Option Nat := s.received.getLast?.map itemCursor

end Subscription

/-- A wanted change past the start of the subscription. -/
def SubscriptionInput.due (input : SubscriptionInput) (s : Subscription) (c : Change) : Prop :=
  input.wants c = true ∧ s.base < c.cursor

/-- A batch fits the buffer, and each of its due changes is either past everything handled or was
handled before and is recognised as such. An acknowledgement comes after a first item, unless the
position it names is refused anyway. -/
def Orderly (input : SubscriptionInput) (s : Subscription) : SubscriptionEvent → Prop
  | .commit changes => s.closed = false →
    (s.fresh input changes ≠ [] → s.queue.length + 1 ≤ input.maxBuffered) ∧
      ∀ c ∈ changes, input.due s c →
        if s.after input < c.cursor then ∀ d ∈ s.handled, d.cursor < c.cursor
        else ∃ d ∈ s.handled, d.cursor = c.cursor
  | .acknowledge cursor => s.closed = false → s.received = [] →
    ∃ position, s.delivered = some position ∧ position < cursor
  | _ => True

structure Intact (input : SubscriptionInput) (s : Subscription) : Prop where
  increasing : s.handled.Pairwise fun a b => a.cursor < b.cursor
  past : ∀ c ∈ s.handled, s.base < c.cursor
  /-- while it is open, the subscription has or had every due change -/
  covered : s.closed = false → ∀ c ∈ s.emitted, input.due s c →
    ∃ d ∈ s.handled, d.cursor = c.cursor
  unskipped : ∀ c ∈ s.emitted, input.due s c → ∀ d ∈ s.deliveredChanges, c.cursor ≤ d.cursor →
    ∃ e ∈ s.deliveredChanges, e.cursor = c.cursor
  position : s.received ≠ [] → s.delivered = s.receivedCursor
  base : s.closed = false →
    input.afterCursor = some s.base ∨
      input.afterCursor = none ∧ ∃ position, s.delivered = some position ∧ s.base ≤ position
  /-- a snapshot is only ever the first item, and its position is known from the start -/
  opening : ∀ value queue, s.queue = .snapshot value :: queue → s.delivered = some value.cursor
  deltas : ∀ item ∈ s.queue.tail, ∃ changes cursor, item = .delta changes cursor
  labelled : ∀ changes cursor, .delta changes cursor ∈ s.queue → ∃ c ∈ changes, c.cursor = cursor
  drained : s.closed = true → s.queue = []
  fits : s.overflowed = false

section Invariant

variable {input : SubscriptionInput} {s : Subscription}

theorem unskipped_of_covered (hincreasing : s.handled.Pairwise fun a b => a.cursor < b.cursor)
    {c : Change} (hcovered : ∃ d ∈ s.handled, d.cursor = c.cursor) {d : Change}
    (hd : d ∈ s.deliveredChanges) (hle : c.cursor ≤ d.cursor) :
    ∃ e ∈ s.deliveredChanges, e.cursor = c.cursor := by
  obtain ⟨e, he, hcursor⟩ := hcovered
  rcases List.mem_append.mp he with he | he
  · exact ⟨e, he, hcursor⟩
  · have hlt := (List.pairwise_append.mp hincreasing).2.2 d hd e he
    omega

theorem base_le_after (h : Intact input s) (hopen : s.closed = false) : s.base ≤ s.after input := by
  unfold Subscription.after
  rcases h.base hopen with hafter | ⟨hafter, position, hdelivered, hle⟩
  · rw [hafter]
    exact le_refl _
  · rw [hafter, hdelivered]
    exact hle

theorem Intact.close (h : Intact input s) : Intact input s.close := by
  unfold Subscription.close
  by_cases hclosed : s.closed = true
  · rwa [if_pos hclosed]
  · rw [if_neg hclosed]
    have hsub (c : Change) (hc : c ∈ s.deliveredChanges ++ []) : c ∈ s.handled := by
      rw [List.append_nil] at hc
      exact List.mem_append_left _ hc
    exact {
      increasing := by
        change (s.deliveredChanges ++ []).Pairwise _
        rw [List.append_nil]
        exact (List.pairwise_append.mp h.increasing).1
      past := fun c hc => h.past c (hsub c hc)
      covered := fun hopen => by cases hopen
      unskipped := h.unskipped
      position := h.position
      base := fun hopen => by cases hopen
      opening := fun value queue hqueue => by cases hqueue
      deltas := fun item hitem => by cases hitem
      labelled := fun changes cursor hmem => by cases hmem
      drained := fun _ => rfl
      fits := h.fits }

theorem Intact.shift (h : Intact input s) {item : SnapshotOrDelta} {queue : List SnapshotOrDelta}
    (hqueue : s.queue = item :: queue) : Intact input (s.shift item queue) := by
  have hopen : s.closed = false := by
    by_contra hclosed
    rw [h.drained (by simpa using hclosed)] at hqueue
    cases hqueue
  have hhandled : (s.shift item queue).handled = s.handled := by
    unfold Subscription.handled Subscription.deliveredChanges
    simp [Subscription.shift, hqueue]
  have hdelivered : (s.shift item queue).delivered = some (Subscription.itemCursor item) := by
    cases item with
    | snapshot value => exact h.opening value queue hqueue
    | delta changes cursor => rfl
  refine {
    increasing := hhandled ▸ h.increasing
    past := hhandled ▸ h.past
    covered := fun _ => hhandled ▸ h.covered hopen
    unskipped := fun c hc hdue d hd hle => unskipped_of_covered (hhandled ▸ h.increasing)
      (hhandled ▸ h.covered hopen c hc hdue) hd hle
    position := fun _ => ?_
    base := fun _ => ?_
    opening := fun value rest hrest => ?_
    deltas := fun i hi => h.deltas i (by rw [hqueue]; exact List.mem_of_mem_tail hi)
    labelled := fun changes cursor hmem => h.labelled changes cursor (by
      rw [hqueue]
      exact List.mem_cons_of_mem _ hmem)
    drained := fun hclosed => absurd (hopen.symm.trans hclosed) (by decide)
    fits := h.fits }
  · rw [hdelivered]
    simp [Subscription.receivedCursor, Subscription.shift]
  · rcases h.base hopen with hafter | ⟨hafter, position, hposition, hle⟩
    · exact .inl hafter
    · refine .inr ⟨hafter, _, hdelivered, ?_⟩
      cases item with
      | snapshot value =>
        have hvalue := h.opening value queue hqueue
        rw [hposition, Option.some.injEq] at hvalue
        exact hle.trans_eq hvalue
      | delta changes cursor =>
        obtain ⟨c, hc, hcursor⟩ := h.labelled changes cursor (by rw [hqueue]; exact List.mem_cons_self)
        have hlt := h.past c (List.mem_append_right _ (by
          rw [hqueue]
          exact List.mem_append_left _ hc))
        exact (hcursor ▸ hlt).le
  · have hdelta := h.deltas (.snapshot value) (by
      rw [hqueue]
      change _ ∈ queue
      rw [show queue = .snapshot value :: rest from hrest]
      exact List.mem_cons_self)
    obtain ⟨changes, cursor, hitem⟩ := hdelta
    cases hitem

theorem Intact.waits (h : Intact input s) (waiting : Bool) :
    Intact input { s with waiting := waiting } :=
  ⟨h.increasing, h.past, h.covered, h.unskipped, h.position, h.base, h.opening, h.deltas, h.labelled,
    h.drained, h.fits⟩

theorem Intact.next (h : Intact input s) : Intact input s.next := by
  unfold Subscription.next
  cases hqueue : s.queue with
  | nil =>
    by_cases hclosed : s.closed = true
    · simp only [if_pos hclosed]
      exact h
    · simp only [if_neg hclosed]
      exact hqueue ▸ h.waits true
  | cons item queue => exact h.shift hqueue

/-- A batch joins the history, and its fresh changes, if any, the queue. -/
theorem Intact.push (h : Intact input s) (hopen : s.closed = false) {changes : List Change}
    (horder : ∀ c ∈ changes, input.due s c →
      if s.after input < c.cursor then ∀ d ∈ s.handled, d.cursor < c.cursor
      else ∃ d ∈ s.handled, d.cursor = c.cursor)
    (items : List SnapshotOrDelta) (hitems : items.flatMap itemChanges = s.fresh input changes)
    (hdelta : ∀ item ∈ items, ∃ cs cursor, item = .delta cs cursor ∧ ∃ c ∈ cs, c.cursor = cursor) :
    Intact input { s with emitted := s.emitted ++ changes, queue := s.queue ++ items } := by
  have hhandled : Subscription.handled { s with
      emitted := s.emitted ++ changes, queue := s.queue ++ items } =
      s.handled ++ s.fresh input changes := by
    simp [Subscription.handled, Subscription.deliveredChanges, hitems]
  have hincreasing : (s.handled ++ s.fresh input changes).Pairwise fun a b => a.cursor < b.cursor := by
    refine List.pairwise_append.mpr ⟨h.increasing, fresh_increasing, fun d hd c hc => ?_⟩
    obtain ⟨hmem, hwants, hafter⟩ := mem_fresh hc
    have hdue := horder c hmem ⟨hwants, (base_le_after h hopen).trans_lt hafter⟩
    rw [if_pos hafter] at hdue
    exact hdue d hd
  have hcovered (c : Change) (hc : c ∈ s.emitted ++ changes) (hdue : input.due s c) :
      ∃ d ∈ s.handled ++ s.fresh input changes, d.cursor = c.cursor := by
    rcases List.mem_append.mp hc with hc | hc
    · obtain ⟨d, hd, hcursor⟩ := h.covered hopen c hc hdue
      exact ⟨d, List.mem_append_left _ hd, hcursor⟩
    · by_cases hafter : s.after input < c.cursor
      · obtain ⟨d, hd, hcursor⟩ := exists_fresh hc hdue.1 hafter
        exact ⟨d, List.mem_append_right _ hd, hcursor⟩
      · have hknown := horder c hc hdue
        rw [if_neg hafter] at hknown
        obtain ⟨d, hd, hcursor⟩ := hknown
        exact ⟨d, List.mem_append_left _ hd, hcursor⟩
  have hnoSnapshot {value : Snapshot} (hmem : SnapshotOrDelta.snapshot value ∈ items) : False := by
    obtain ⟨_, _, hitem, _⟩ := hdelta _ hmem
    cases hitem
  refine {
    increasing := hhandled ▸ hincreasing
    past := fun c hc => ?_
    covered := fun _ c hc hdue => hhandled ▸ hcovered c hc hdue
    unskipped := fun c hc hdue d hd hle =>
      unskipped_of_covered (hhandled ▸ hincreasing) (hhandled ▸ hcovered c hc hdue) hd hle
    position := h.position
    base := h.base
    opening := fun value queue hqueue => ?_
    deltas := fun item hitem => ?_
    labelled := fun cs cursor hmem => ?_
    drained := fun hclosed => absurd (hopen.symm.trans hclosed) (by decide)
    fits := h.fits }
  · rw [hhandled] at hc
    rcases List.mem_append.mp hc with hc | hc
    · exact h.past c hc
    · exact (base_le_after h hopen).trans_lt (mem_fresh hc).2.2
  · cases hold : s.queue with
    | nil =>
      simp only [hold, List.nil_append] at hqueue
      exact (hnoSnapshot (hqueue ▸ List.mem_cons_self)).elim
    | cons first rest =>
      simp only [hold, List.cons_append, List.cons.injEq] at hqueue
      exact h.opening value rest (hqueue.1 ▸ hold)
  · have hnew (item : SnapshotOrDelta) (hmem : item ∈ items) :
        ∃ cs cursor, item = .delta cs cursor := by
      obtain ⟨cs, cursor, hitem, _⟩ := hdelta item hmem
      exact ⟨cs, cursor, hitem⟩
    cases hold : s.queue with
    | nil =>
      simp only [hold, List.nil_append] at hitem
      exact hnew item (List.mem_of_mem_tail hitem)
    | cons first rest =>
      simp only [hold, List.cons_append, List.tail_cons] at hitem
      rcases List.mem_append.mp hitem with hmem | hmem
      · exact h.deltas item (by rw [hold]; exact hmem)
      · exact hnew item hmem
  · rcases List.mem_append.mp hmem with hmem | hmem
    · exact h.labelled cs cursor hmem
    · obtain ⟨cs', cursor', hitem, hlabel⟩ := hdelta _ hmem
      cases hitem
      exact hlabel

theorem Intact.enqueueChanges (h : Intact input s) {changes : List Change}
    (horderly : Orderly input s (.commit changes)) :
    Intact input (s.enqueueChanges input changes) := by
  unfold Subscription.enqueueChanges
  by_cases hclosed : s.closed = true
  · rwa [if_pos hclosed]
  · rw [if_neg hclosed]
    have hopen : s.closed = false := by simpa using hclosed
    obtain ⟨hbound, horder⟩ := horderly hopen
    cases hlast : (s.fresh input changes).getLast? with
    | none =>
      have hnone : s.fresh input changes = [] := List.getLast?_eq_none_iff.mp hlast
      have hpushed := h.push hopen horder [] (by rw [hnone]; rfl) fun item hitem => by
        cases hitem
      simpa using hpushed
    | some last =>
      have hmem : last ∈ s.fresh input changes := List.mem_of_getLast? hlast
      have hpushed := h.push hopen horder [.delta (s.fresh input changes) last.cursor]
        (by simp [itemChanges])
        fun item hitem => ⟨_, _, List.mem_singleton.mp hitem, last, hmem, rfl⟩
      have hfits : ¬input.maxBuffered <
          (s.queue ++ [SnapshotOrDelta.delta (s.fresh input changes) last.cursor]).length := by
        rw [List.length_append, List.length_singleton, not_lt]
        exact hbound (List.ne_nil_of_mem hmem)
      simp only [if_neg hfits]
      by_cases hwaiting : s.waiting = true
      · rw [if_pos hwaiting]
        exact (hpushed.waits false).next
      · rw [if_neg hwaiting]
        exact hpushed

theorem unstarted_intact (after : Nat) (hinput : input.afterCursor = some after) :
    Intact input { Subscription.unstarted with base := after } where
  increasing := .nil
  past := fun c hc => by cases hc
  covered := fun _ c hc => by cases hc
  unskipped := fun c hc => by cases hc
  position := fun hnone => absurd rfl hnone
  base := fun _ => .inl hinput
  opening := fun value queue hqueue => by cases hqueue
  deltas := fun item hitem => by cases hitem
  labelled := fun changes cursor hmem => by cases hmem
  drained := fun _ => rfl
  fits := rfl

theorem failed_intact (input : SubscriptionInput) : Intact input Subscription.unstarted.close where
  increasing := .nil
  past := fun c hc => by cases hc
  covered := fun _ c hc => by cases hc
  unskipped := fun c hc => by cases hc
  position := fun hnone => absurd rfl hnone
  base := fun hopen => by cases hopen
  opening := fun value queue hqueue => by cases hqueue
  deltas := fun item hitem => by cases hitem
  labelled := fun changes cursor hmem => by cases hmem
  drained := fun _ => rfl
  fits := rfl

theorem start_intact (input : SubscriptionInput) (source : SubscriptionSource) :
    Intact input (Subscription.start input source) := by
  unfold Subscription.start
  cases hafter : input.afterCursor with
  | some after =>
    dsimp only
    cases source.replay after input.channelId with
    | none => exact failed_intact input
    | some changes =>
      refine (unstarted_intact after hafter).enqueueChanges fun _ => ⟨fun _ => input.positive, ?_⟩
      intro c _ hdue
      have hposition : Subscription.after input { Subscription.unstarted with base := after } =
          after := by
        simp [Subscription.after, hafter]
      rw [hposition, if_pos hdue.2]
      intro d hd
      cases hd
  | none =>
    dsimp only
    cases source.snapshot input.channelId with
    | none => exact failed_intact input
    | some value =>
      exact {
        increasing := .nil
        past := fun c hc => by cases hc
        covered := fun _ c hc => by cases hc
        unskipped := fun c hc => by cases hc
        position := fun hnone => absurd rfl hnone
        base := fun _ => .inr ⟨hafter, value.cursor, rfl, le_refl _⟩
        opening := fun v queue hqueue => by cases hqueue; rfl
        deltas := fun item hitem => by cases hitem
        labelled := fun changes cursor hmem => by
          cases List.mem_singleton.mp hmem
        drained := fun hclosed => by cases hclosed
        fits := rfl }

theorem Intact.acknowledge (h : Intact input s) (cursor : Nat) :
    Intact input ((s.acknowledge cursor).toOption.getD s) := by
  unfold Subscription.acknowledge
  split
  · exact h
  · split
    · exact h
    · split
      · exact ⟨h.increasing, h.past, h.covered, h.unskipped, h.position, h.base, h.opening, h.deltas,
          h.labelled, h.drained, h.fits⟩
      · exact h

theorem subscriptionStep_intact (h : Intact input s) {event : SubscriptionEvent}
    (horderly : Orderly input s event) : Intact input (subscriptionStep input s event) := by
  cases event with
  | commit changes => exact h.enqueueChanges horderly
  | next => exact h.next
  | acknowledge cursor => exact h.acknowledge cursor
  | close => exact h.close

/-- An acknowledged position is one that the consumer has been given. -/
theorem Intact.acknowledged (h : Intact input s) {cursor : Nat}
    (horderly : Orderly input s (.acknowledge cursor)) {s' : Subscription}
    (hok : s.acknowledge cursor = .ok s') :
    ∃ position, s.receivedCursor = some position ∧ cursor ≤ position := by
  unfold Subscription.acknowledge at hok
  by_cases hclosed : s.closed = true
  · rw [if_pos hclosed] at hok
    cases hok
  · rw [if_neg hclosed] at hok
    cases hpast : s.delivered.any fun d => d < cursor with
    | true =>
      rw [hpast] at hok
      cases hok
    | false =>
      have hreceived : s.received ≠ [] := by
        intro hnone
        obtain ⟨position, hdelivered, hlt⟩ := horderly (by simpa using hclosed) hnone
        simp [hdelivered, hlt] at hpast
      have hposition := h.position hreceived
      obtain ⟨item, hitem⟩ := List.getLast?_isSome.mpr hreceived |> Option.isSome_iff_exists.mp
      have hcursor : s.receivedCursor = some (Subscription.itemCursor item) := by
        unfold Subscription.receivedCursor
        rw [hitem]
        rfl
      refine ⟨_, hcursor, ?_⟩
      rw [hposition, hcursor] at hpast
      simpa using hpast

end Invariant

/-- In every run whose batches come in order and fit the buffer, and whose acknowledgements wait for
a first item, deliveries are in order and skip nothing, acknowledgements stay behind them, and an
overflow ends in the backpressure error. -/
theorem subscription_safe (input : SubscriptionInput) (source : SubscriptionSource)
    (events : List SubscriptionEvent)
    (hmeets : Trace.Meets (subscriptionStep input) (Orderly input) (.start input source) events) :
    let s := Trace.run (subscriptionStep input) (.start input source) events
    (s.deliveredChanges.Pairwise fun a b => a.cursor < b.cursor) ∧
      (∀ c ∈ s.emitted, input.due s c →
        (s.closed = false → ∃ d ∈ s.handled, d.cursor = c.cursor) ∧
          ∀ d ∈ s.deliveredChanges, c.cursor ≤ d.cursor →
            ∃ e ∈ s.deliveredChanges, e.cursor = c.cursor) ∧
      (∀ cursor s', Orderly input s (.acknowledge cursor) → s.acknowledge cursor = .ok s' →
        ∃ position, s.receivedCursor = some position ∧ cursor ≤ position) ∧
      (s.overflowed = true → s.ended = some (.failed "backpressure")) := by
  have hrun := Trace.invariant_run (I := Intact input)
    (fun s event hI (hop : Orderly input s event) => subscriptionStep_intact hI hop)
    (start_intact input source) hmeets
  refine ⟨(List.pairwise_append.mp hrun.increasing).1,
    fun c hc hdue => ⟨fun hopen => hrun.covered hopen c hc hdue, hrun.unskipped c hc hdue⟩,
    fun cursor s' horderly hok => hrun.acknowledged horderly hok, fun hoverflow => ?_⟩
  exact absurd (hrun.fits.symm.trans hoverflow) (by decide)

def watcher (afterCursor : Option Nat) (maxBuffered : Nat) (positive : 1 ≤ maxBuffered) :
    SubscriptionInput :=
  ⟨"harbour", afterCursor, fun _ => true, maxBuffered, positive⟩

/-- A change of the channel's label. -/
def labelled (cursor : Nat) : Change :=
  ⟨cursor, some "harbour", .channelLabelUpdated "harbour" none, "noon", none⟩

/-- A channel with one change, and a replay of two more. -/
def labelSource : SubscriptionSource where
  snapshot id := some ⟨1, ⟨id, none, "dawn", none, .active, none, .all, .open⟩, [], [], []⟩
  replay _ _ := some [labelled 2]

theorem subscription_safe_acknowledged :
    ((Trace.run (subscriptionStep (watcher none 128 (by decide)))
      (.start (watcher none 128 (by decide)) labelSource)
      [.next, .commit [labelled 3, labelled 2], .next, .acknowledge 3]).deliveredChanges.Pairwise
        fun a b => a.cursor < b.cursor) := by
  have hmeets : Trace.Meets (subscriptionStep (watcher none 128 (by decide)))
      (Orderly (watcher none 128 (by decide)))
      (.start (watcher none 128 (by decide)) labelSource)
      [.next, .commit [labelled 3, labelled 2], .next, .acknowledge 3] := by
    refine ⟨trivial, fun _ => ⟨fun _ => by decide, fun c hc _ => ?_⟩, trivial, fun _ hnone => ?_, trivial⟩
    · rw [if_pos]
      · intro d hd
        cases hd
      · rcases List.mem_cons.mp hc with rfl | hc
        · decide
        · rw [List.mem_singleton.mp hc]
          decide
    · cases hnone
  exact (subscription_safe _ labelSource _ hmeets).1

/-- A batch that overlaps the replay is delivered twice; before the first delivery any position is
acknowledged; and an overflow ends the stream as if it were done. -/
theorem subscription_repeats_and_overflows :
    let resumed := Trace.run (subscriptionStep (watcher (some 1) 128 (by decide)))
      (.start (watcher (some 1) 128 (by decide)) labelSource)
      [.commit [labelled 2, labelled 3], .next, .next]
    let acknowledged := (Subscription.start (watcher (some 1) 128 (by decide))
      labelSource).acknowledge 100
    let slow := Trace.run (subscriptionStep (watcher none 1 (by decide)))
      (.start (watcher none 1 (by decide)) labelSource) [.commit [labelled 2]]
    resumed.deliveredChanges.map Change.cursor = [2, 2, 3] ∧
      (∃ s, acknowledged = .ok s ∧ s.receivedCursor = none) ∧
      slow.overflowed = true ∧ slow.ended = some .done :=
  ⟨rfl, ⟨_, rfl, rfl⟩, rfl, rfl⟩

end Wardroom.Feeds
