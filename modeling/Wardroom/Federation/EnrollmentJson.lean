import Wardroom.Federation.StrictTexts

/-! # Objects the strict parser builds

The parser assigns each member to a plain object. Assigning `__proto__` calls the
setter that the object inherits and makes no own member, so that a later check for
repeats does not see it. Once the prototype is `null` the setter is out of reach
and the next assignment does make one.
-/

namespace Wardroom.Federation
open Wardroom.Library Wardroom.Library.JsonText

/-- A value with the prototype of each object. -/
inductive JsValue (ν : Type) where
  | null
  | bool (b : Bool)
  | number (n : ν)
  | string (s : JsString)
  | array (elements : List (JsValue ν))
  | objectPrototype
  | object (own : List (JsString × JsValue ν)) (proto : JsValue ν)

def protoKey : JsString := JsString.ofString "__proto__"

/-- What looking up `__proto__` finds first along a chain of prototypes. -/
inductive Lookup where
  | setter
  | member
  | nothing
  deriving DecidableEq

def hasOwn {ν : Type} (own : List (JsString × JsValue ν)) (key : JsString) : Bool :=
  decide (key ∈ own.map Prod.fst)

namespace JsValue
variable {ν : Type}

def lookup : JsValue ν → Lookup
  | .objectPrototype => .setter
  | .array _ => .setter
  | .object own proto => if hasOwn own protoKey then .member else proto.lookup
  | _ => .nothing

/-- The setter ignores every other value. -/
def isPrototype : JsValue ν → Bool
  | .null => true
  | .array _ => true
  | .objectPrototype => true
  | .object _ _ => true
  | _ => false

end JsValue

/-- An object that is being built. -/
structure Plain (ν : Type) where
  own : List (JsString × JsValue ν)
  proto : JsValue ν

namespace Plain
variable {ν : Type}

/-- `result[key] = value` for a key that is not an own member. -/
def assign (o : Plain ν) (key : JsString) (value : JsValue ν) : Plain ν :=
  if key = protoKey ∧ o.proto.lookup = .setter then
    if value.isPrototype then { o with proto := value } else o
  else { o with own := o.own ++ [(key, value)] }

end Plain

/-- Creating a member overwrites one of the same name. -/
def create {ν : Type} (key : JsString) (value : JsValue ν) :
    List (JsString × JsValue ν) → List (JsString × JsValue ν)
  | [] => [(key, value)]
  | member :: own => if member.1 = key then (key, value) :: own else member :: create key value own

section Readers
variable {ν : Type} (number : JsString → ν)

/-- The objects of `parseEnrollmentArtifactJson`. -/
def assigned : Builder (JsValue ν) (Plain ν) where
  null := .null
  bool := .bool
  number text := .number (number text)
  string := .string
  array := .array
  empty := ⟨[], .objectPrototype⟩
  member o key value := if hasOwn o.own key then none else some (o.assign key value)
  object o := .object o.own o.proto

/-- The objects of `JSON.parse`. -/
def created : Builder (JsValue ν) (Plain ν) where
  null := .null
  bool := .bool
  number text := .number (number text)
  string := .string
  array := .array
  empty := ⟨[], .objectPrototype⟩
  member o key value := some { o with own := create key value o.own }
  object o := .object o.own o.proto

def parseEnrollmentArtifactJson (text : JsString) : Except Failure (JsValue ν) :=
  parseText (assigned number) text

end Readers

def WithoutProto : Tree → Prop := EveryObject fun members => protoKey ∉ keys members

mutual

/-- A prototype that puts the setter out of reach: `null`, or an object with such a prototype. -/
def cuts : Tree → Bool
  | .null => true
  | .object members => cutsMembers members
  | _ => false

def cutsMembers : List (JsString × Tree) → Bool
  | [] => false
  | (key, tree) :: members => (decide (key = protoKey) && cuts tree) || cutsMembers members

end

def protos (members : List (JsString × Tree)) : List Tree :=
  (members.filter fun member => member.1 = protoKey).map Prod.snd

def others (members : List (JsString × Tree)) : List JsString :=
  (keys members).filter fun key => key ≠ protoKey

/-- The object repeats no other key, and `__proto__` at most once after a value that cuts. -/
def Unnoticed (members : List (JsString × Tree)) : Prop :=
  (others members).Nodup ∧ ((protos members).dropWhile fun tree => !cuts tree).length ≤ 2

/-- The text is read exactly when it is JSON in which no object repeats a key, and as `JSON.parse`
reads it. -/
def ReadsStrictly {ν : Type} (number : JsString → ν) (text : JsString) : Prop :=
  (∀ value, parseEnrollmentArtifactJson number text = .ok value →
    ∃ tree, JsonText tree text ∧ Unrepeated tree ∧ tree.fold (created number) = some value) ∧
  ∀ tree, JsonText tree text → Unrepeated tree →
    ∃ value, parseEnrollmentArtifactJson number text = .ok value

/-- It calls the setter, makes an own member, or is noticed. -/
inductive Stage where
  | setter
  | free
  | own
  deriving DecidableEq

namespace Stage

def next : Stage → Tree → Stage
  | .setter, tree => if cuts tree then .free else .setter
  | _, _ => .own

/-- The values of `__proto__` that are still read. -/
def Admits : Stage → List Tree → Prop
  | .setter, trees => (trees.dropWhile fun tree => !cuts tree).length ≤ 2
  | .free, trees => trees.length ≤ 1
  | .own, trees => trees = []

theorem admits_cons (s : Stage) (tree : Tree) (trees : List Tree) :
    s.Admits (tree :: trees) ↔ s ≠ .own ∧ (s.next tree).Admits trees := by
  cases s with
  | setter =>
    by_cases hcuts : cuts tree = true
    · simp [Admits, next, hcuts]
    · simp [Admits, next, hcuts]
  | free => simp [Admits, next]
  | own => simp [Admits]

theorem next_eq_setter (s : Stage) (tree : Tree) :
    s.next tree = .setter ↔ s = .setter ∧ cuts tree = false := by
  cases s with
  | setter =>
    by_cases hcuts : cuts tree = true
    · simp [next, hcuts]
    · simp [next, hcuts]
  | free => simp [next]
  | own => simp [next]

end Stage

section Notice
variable {ν : Type} {number : JsString → ν}

def Plain.stage (o : Plain ν) : Stage :=
  if hasOwn o.own protoKey then .own else if o.proto.lookup = .setter then .setter else .free

def Plain.keys (o : Plain ν) : List JsString := o.own.map Prod.fst

/-- The prototype that a value makes. -/
def JsValue.Cuts (value : JsValue ν) : Prop := value.isPrototype = true ∧ value.lookup ≠ .setter

theorem Plain.cuts_object (o : Plain ν) :
    (JsValue.object o.own o.proto).Cuts ↔ o.stage ≠ .setter := by
  unfold JsValue.Cuts Plain.stage
  rw [JsValue.lookup]
  split_ifs with hown hsetter
  · simp [JsValue.isPrototype]
  · simp [JsValue.isPrototype, hsetter]
  · simp [JsValue.isPrototype, hsetter]

theorem Plain.stage_own (o : Plain ν) : o.stage = .own ↔ protoKey ∈ o.keys := by
  unfold Plain.stage hasOwn Plain.keys
  split_ifs with hown hsetter
  · simpa using hown
  · simpa using hown
  · simpa using hown

variable {o : Plain ν} {key : JsString} {value : JsValue ν}

theorem Plain.keys_assign (hkey : key ≠ protoKey) :
    (o.assign key value).keys = o.keys ++ [key] := by
  have hplain : ¬(key = protoKey ∧ o.proto.lookup = .setter) := fun h => hkey h.1
  unfold Plain.assign Plain.keys
  rw [if_neg hplain, List.map_append]
  rfl

theorem Plain.stage_assign (hkey : key ≠ protoKey) :
    (o.assign key value).stage = o.stage := by
  have hplain : ¬(key = protoKey ∧ o.proto.lookup = .setter) := fun h => hkey h.1
  have hown : hasOwn (o.own ++ [(key, value)]) protoKey = hasOwn o.own protoKey := by
    simp [hasOwn, Ne.symm hkey]
  unfold Plain.assign Plain.stage
  rw [if_neg hplain, hown]

theorem Plain.stage_proto {tree : Tree} (hstage : o.stage ≠ .own)
    (hcuts : cuts tree = true ↔ value.Cuts) : (o.assign protoKey value).stage = o.stage.next tree := by
  have hown : hasOwn o.own protoKey = false := by
    by_contra h
    exact hstage (if_pos (by simpa using h))
  by_cases hsetter : o.proto.lookup = .setter
  · have hopen : o.stage = .setter := by
      unfold Plain.stage
      rw [hown, if_neg Bool.false_ne_true, if_pos hsetter]
    rw [hopen, Plain.assign, if_pos ⟨rfl, hsetter⟩, Stage.next]
    by_cases hproto : value.isPrototype = true
    · have hlookup : cuts tree = true ↔ value.lookup ≠ .setter := hcuts.trans (and_iff_right hproto)
      rw [if_pos hproto]
      unfold Plain.stage
      rw [hown, if_neg Bool.false_ne_true]
      by_cases hvalue : value.lookup = .setter
      · rw [if_pos hvalue, if_neg fun h => hlookup.mp h hvalue]
      · rw [if_neg hvalue, if_pos (hlookup.mpr hvalue)]
    · rw [if_neg hproto, if_neg fun h => hproto (hcuts.mp h).1, hopen]
  · have hfree : o.stage = .free := by
      unfold Plain.stage
      rw [hown, if_neg Bool.false_ne_true, if_neg hsetter]
    rw [hfree, Plain.assign, if_neg fun h => hsetter h.2, Stage.next, Plain.stage_own]
    · simp [Plain.keys]
    · intro h
      cases h

theorem Plain.others_proto (o : Plain ν) (value : JsValue ν) :
    (o.assign protoKey value).keys.filter (fun key => key ≠ protoKey) =
      o.keys.filter fun key => key ≠ protoKey := by
  unfold Plain.assign Plain.keys
  split_ifs
  · rfl
  · rfl
  · simp

variable (number) in
/-- What is known of a tree that the parser has read. -/
def Read (tree : Tree) : Prop :=
  ((∃ value, tree.fold (assigned number) = some value) ↔ EveryObject Unnoticed tree) ∧
    ∀ value, tree.fold (assigned number) = some value → (cuts tree = true ↔ value.Cuts)

theorem member_assigned_own (hkey : key ∈ o.keys) (value : JsValue ν) :
    (assigned number).member o key value = none := if_pos (decide_eq_true hkey)

theorem member_assigned (hkey : key ∉ o.keys) (value : JsValue ν) :
    (assigned number).member o key value = some (o.assign key value) :=
  if_neg fun h => hkey (of_decide_eq_true h)

theorem foldMembers_cons (o : Plain ν) (key : JsString) (tree : Tree) (members : List (JsString × Tree)) :
    foldMembers (assigned number) o ((key, tree) :: members) =
      (tree.fold (assigned number)).bind fun value =>
        if key ∈ o.keys then none
        else foldMembers (assigned number) (o.assign key value) members := by
  rw [foldMembers]
  cases tree.fold (assigned number) with
  | none => rfl
  | some value =>
    change ((assigned number).member o key value).bind _ = ite _ _ _
    by_cases hkey : key ∈ o.keys
    · rw [if_pos hkey, member_assigned_own hkey]
      rfl
    · rw [if_neg hkey, member_assigned hkey]
      rfl

theorem others_cons (key : JsString) (tree : Tree) (members : List (JsString × Tree)) :
    others ((key, tree) :: members) = if key = protoKey then others members else key :: others members := by
  unfold others keys
  rw [List.map_cons, List.filter_cons]
  by_cases hkey : key = protoKey
  · simp [hkey]
  · simp [hkey]

theorem protos_cons (key : JsString) (tree : Tree) (members : List (JsString × Tree)) :
    protos ((key, tree) :: members) = if key = protoKey then tree :: protos members else protos members := by
  unfold protos
  rw [List.filter_cons]
  by_cases hkey : key = protoKey
  · simp [hkey]
  · simp [hkey]

/-- What is left of an object is read when none of its other keys repeats and `__proto__` is not
noticed. -/
structure Readable (o : Plain ν) (members : List (JsString × Tree)) : Prop where
  values : EveryMember Unnoticed members
  nodup : (others members).Nodup
  fresh : ∀ key ∈ others members, key ∉ o.keys
  admits : o.stage.Admits (protos members)

theorem Plain.mem_others_proto
    (hkey : key ≠ protoKey) : key ∈ (o.assign protoKey value).keys ↔ key ∈ o.keys := by
  have hmem (l : List JsString) : key ∈ l ↔ key ∈ l.filter fun k => k ≠ protoKey := by simp [hkey]
  rw [hmem, Plain.others_proto, ← hmem]

variable {members : List (JsString × Tree)}

theorem ne_of_mem_others (h : key ∈ others members) :
    key ≠ protoKey := by
  unfold others at h
  simpa using (List.mem_filter.mp h).2

theorem readable_cons_proto {tree : Tree}
    (hcuts : cuts tree = true ↔ value.Cuts) (hown : protoKey ∉ o.keys) :
    Readable o ((protoKey, tree) :: members) ↔
      EveryObject Unnoticed tree ∧ Readable (o.assign protoKey value) members := by
  have hstage : o.stage ≠ .own := fun h => hown (o.stage_own.mp h)
  have hnext := Plain.stage_proto hstage hcuts
  constructor
  · rintro ⟨⟨htree, hvalues⟩, hnodup, hfresh, hadmits⟩
    rw [others_cons, if_pos rfl] at hnodup hfresh
    rw [protos_cons, if_pos rfl, Stage.admits_cons] at hadmits
    refine ⟨htree, hvalues, hnodup, fun key hkey hmem => ?_, ?_⟩
    · exact hfresh key hkey ((Plain.mem_others_proto (ne_of_mem_others hkey)).mp hmem)
    · rw [hnext]
      exact hadmits.2
  · rintro ⟨htree, hvalues, hnodup, hfresh, hadmits⟩
    rw [hnext] at hadmits
    refine ⟨⟨htree, hvalues⟩, ?_, ?_, ?_⟩
    · rw [others_cons, if_pos rfl]
      exact hnodup
    · rw [others_cons, if_pos rfl]
      intro key hkey hmem
      exact hfresh key hkey ((Plain.mem_others_proto (ne_of_mem_others hkey)).mpr hmem)
    · rw [protos_cons, if_pos rfl, Stage.admits_cons]
      exact ⟨hstage, hadmits⟩

theorem readable_cons_other {tree : Tree}
    (hkey : key ≠ protoKey) (hfresh : key ∉ o.keys) :
    Readable o ((key, tree) :: members) ↔
      EveryObject Unnoticed tree ∧ Readable (o.assign key value) members := by
  constructor
  · rintro ⟨⟨htree, hvalues⟩, hnodup, hkeys, hadmits⟩
    rw [others_cons, if_neg hkey] at hnodup hkeys
    rw [protos_cons, if_neg hkey] at hadmits
    rw [List.nodup_cons] at hnodup
    refine ⟨htree, hvalues, hnodup.2, fun other hother hmem => ?_, ?_⟩
    · rw [Plain.keys_assign hkey, List.mem_append, List.mem_singleton] at hmem
      rcases hmem with hmem | rfl
      · exact hkeys other (List.mem_cons_of_mem key hother) hmem
      · exact hnodup.1 hother
    · rw [Plain.stage_assign hkey]
      exact hadmits
  · rintro ⟨htree, hvalues, hnodup, hkeys, hadmits⟩
    rw [Plain.keys_assign hkey] at hkeys
    rw [Plain.stage_assign hkey] at hadmits
    refine ⟨⟨htree, hvalues⟩, ?_, ?_, ?_⟩
    · rw [others_cons, if_neg hkey, List.nodup_cons]
      exact ⟨fun hmem => hkeys key hmem (List.mem_append_right _ List.mem_cons_self), hnodup⟩
    · rw [others_cons, if_neg hkey, List.forall_mem_cons]
      exact ⟨hfresh, fun other hother hmem => hkeys other hother (List.mem_append_left _ hmem)⟩
    · rw [protos_cons, if_neg hkey]
      exact hadmits

theorem not_readable_of_own {tree : Tree}
    (hown : key ∈ o.keys) : ¬Readable o ((key, tree) :: members) := by
  rintro ⟨-, -, hfresh, hadmits⟩
  by_cases hkey : key = protoKey
  · subst hkey
    rw [protos_cons, if_pos rfl, Stage.admits_cons] at hadmits
    exact hadmits.1 (o.stage_own.mpr hown)
  · rw [others_cons, if_neg hkey] at hfresh
    exact hfresh key List.mem_cons_self hown

mutual

theorem read_tree (tree : Tree) : Read number tree := by
  cases tree with
  | null =>
    refine ⟨iff_of_true ⟨_, rfl⟩ trivial, fun value h => ?_⟩
    cases h
    exact iff_of_true rfl ⟨rfl, fun h => (nomatch (show Lookup.nothing = .setter from h))⟩
  | bool b =>
    refine ⟨iff_of_true ⟨_, rfl⟩ trivial, fun value h => ?_⟩
    cases h
    exact iff_of_false Bool.false_ne_true fun h => Bool.false_ne_true h.1
  | number text =>
    refine ⟨iff_of_true ⟨_, rfl⟩ trivial, fun value h => ?_⟩
    cases h
    exact iff_of_false Bool.false_ne_true fun h => Bool.false_ne_true h.1
  | string s =>
    refine ⟨iff_of_true ⟨_, rfl⟩ trivial, fun value h => ?_⟩
    cases h
    exact iff_of_false Bool.false_ne_true fun h => Bool.false_ne_true h.1
  | array elements =>
    have hread := read_elements elements
    rw [Read, Tree.fold, EveryObject, ← hread]
    constructor
    · simp only [Option.map_eq_some_iff]
      exact ⟨fun ⟨_, values, h, _⟩ => ⟨values, h⟩, fun ⟨values, h⟩ => ⟨_, values, h, rfl⟩⟩
    · intro value h
      obtain ⟨values, -, rfl⟩ := Option.map_eq_some_iff.mp h
      exact iff_of_false (by simp [cuts]) fun hvalue => hvalue.2 rfl
  | object members =>
    obtain ⟨hread, hstage⟩ := read_members members ⟨[], .objectPrototype⟩
    rw [Read, Tree.fold, EveryObject]
    constructor
    · simp only [Option.map_eq_some_iff]
      constructor
      · rintro ⟨_, result, h, _⟩
        have hreadable := hread.mp ⟨result, h⟩
        exact ⟨⟨hreadable.nodup, hreadable.admits⟩, hreadable.values⟩
      · rintro ⟨⟨hnodup, hadmits⟩, hvalues⟩
        obtain ⟨result, h⟩ := hread.mpr ⟨hvalues, hnodup, fun _ _ => List.not_mem_nil, hadmits⟩
        exact ⟨_, result, h, rfl⟩
    · intro value h
      obtain ⟨result, hresult, rfl⟩ := Option.map_eq_some_iff.mp h
      change cutsMembers members = true ↔ (JsValue.object result.own result.proto).Cuts
      rw [Plain.cuts_object, ne_eq, hstage result hresult]
      have hopen : (⟨[], .objectPrototype⟩ : Plain ν).stage = .setter := rfl
      simp [hopen]

theorem read_elements (elements : List Tree) :
    (∃ values, foldElements (assigned number) elements = some values) ↔ EveryElement Unnoticed elements := by
  cases elements with
  | nil => exact iff_of_true ⟨[], rfl⟩ trivial
  | cons tree elements =>
    have htree := (read_tree tree).1
    have hread := read_elements elements
    rw [EveryElement, ← htree, ← hread, foldElements]
    constructor
    · rintro ⟨values, h⟩
      obtain ⟨value, hvalue, h⟩ := Option.bind_eq_some_iff.mp h
      obtain ⟨more, hmore, -⟩ := Option.bind_eq_some_iff.mp h
      exact ⟨⟨value, hvalue⟩, more, hmore⟩
    · rintro ⟨⟨value, hvalue⟩, more, hmore⟩
      rw [hvalue, hmore]
      exact ⟨value :: more, rfl⟩

theorem read_members (members : List (JsString × Tree)) (o : Plain ν) :
    ((∃ result, foldMembers (assigned number) o members = some result) ↔ Readable o members) ∧
      ∀ result, foldMembers (assigned number) o members = some result →
        (result.stage = .setter ↔ o.stage = .setter ∧ cutsMembers members = false) := by
  cases members with
  | nil =>
    refine ⟨iff_of_true ⟨o, rfl⟩ ⟨trivial, List.nodup_nil, fun _ hkey => (nomatch hkey), ?_⟩, ?_⟩
    · cases o.stage with
      | setter => exact Nat.zero_le _
      | free => exact Nat.zero_le _
      | own => rfl
    · intro result h
      cases h
      exact (and_iff_left rfl).symm
  | cons member members =>
    obtain ⟨key, tree⟩ := member
    obtain ⟨htree, hcuts⟩ := read_tree tree
    have hread := fun o => read_members members o
    rw [foldMembers_cons]
    cases hvalue : tree.fold (assigned number) with
    | none =>
      refine ⟨iff_of_false ?_ ?_, ?_⟩
      · rintro ⟨result, h⟩
        cases h
      · rintro ⟨⟨hevery, -⟩, -, -, -⟩
        obtain ⟨value, h⟩ := htree.mpr hevery
        rw [hvalue] at h
        cases h
      · intro result h
        cases h
    | some value =>
      have hevery := htree.mp ⟨value, hvalue⟩
      by_cases hown : key ∈ o.keys
      · simp only [Option.bind_some, if_pos hown]
        refine ⟨iff_of_false ?_ (not_readable_of_own hown), ?_⟩
        · rintro ⟨result, h⟩
          cases h
        · intro result h
          cases h
      · simp only [Option.bind_some, if_neg hown]
        obtain ⟨hiff, hstage⟩ := hread (o.assign key value)
        by_cases hkey : key = protoKey
        · subst hkey
          have hopen : o.stage ≠ .own := fun h => hown (o.stage_own.mp h)
          refine ⟨?_, fun result h => ?_⟩
          · rw [hiff, readable_cons_proto (hcuts value hvalue) hown]
            exact (and_iff_right hevery).symm
          · rw [hstage result h, Plain.stage_proto hopen (hcuts value hvalue), Stage.next_eq_setter,
              and_assoc, cutsMembers]
            simp
        · refine ⟨?_, fun result h => ?_⟩
          · rw [hiff, readable_cons_other hkey hown]
            exact (and_iff_right hevery).symm
          · rw [hstage result h, Plain.stage_assign hkey, cutsMembers]
            simp [hkey]

end

end Notice

theorem length_protos (members : List (JsString × Tree)) :
    (protos members).length = (keys members).count protoKey := by
  induction members with
  | nil => rfl
  | cons member members ih =>
    obtain ⟨key, tree⟩ := member
    rw [protos_cons, keys, List.map_cons, List.count_cons]
    by_cases hkey : key = protoKey
    · simp [hkey, ih, keys]
    · simp [hkey, ih, keys]

theorem unnoticed_of_nodup {members : List (JsString × Tree)} (h : (keys members).Nodup) :
    Unnoticed members := by
  refine ⟨h.filter _, ?_⟩
  have hdrop := (List.dropWhile_sublist (fun tree => !cuts tree) (l := protos members)).length_le
  have honce := List.nodup_iff_count_le_one.mp h protoKey
  rw [← length_protos] at honce
  omega

theorem nodup_of_unnoticed {members : List (JsString × Tree)} (hproto : protoKey ∉ keys members)
    (h : Unnoticed members) : (keys members).Nodup := by
  have hothers : others members = keys members := by
    refine List.filter_eq_self.mpr fun key hkey => ?_
    have hne : key ≠ protoKey := by
      rintro rfl
      exact hproto hkey
    simpa using hne
  rw [← hothers]
  exact h.1

theorem unnoticed_of_unrepeated {tree : Tree} (h : Unrepeated tree) : EveryObject Unnoticed tree :=
  every_imp (fun _ hnodup _ => unnoticed_of_nodup hnodup) tree h h

theorem WithoutProto.unrepeated {tree : Tree} (hproto : WithoutProto tree)
    (h : EveryObject Unnoticed tree) : Unrepeated tree :=
  every_imp (fun _ => nodup_of_unnoticed) tree hproto h

section Compare
variable {ν : Type} {number : JsString → ν}

theorem create_of_fresh {own : List (JsString × JsValue ν)} {key : JsString} (value : JsValue ν)
    (h : key ∉ own.map Prod.fst) : create key value own = own ++ [(key, value)] := by
  induction own with
  | nil => rfl
  | cons member own ih =>
    rw [List.map_cons, List.mem_cons, not_or] at h
    rw [create, if_neg (Ne.symm h.1), ih h.2]
    rfl

theorem assign_of_ne (o : Plain ν) {key : JsString} (value : JsValue ν) (hkey : key ≠ protoKey) :
    o.assign key value = { o with own := o.own ++ [(key, value)] } :=
  if_neg fun h => hkey h.1

theorem member_created {o : Plain ν} {key : JsString} (hkey : key ∉ o.keys) (value : JsValue ν) :
    (created number).member o key value = some { o with own := o.own ++ [(key, value)] } := by
  change some { o with own := create key value o.own } = _
  rw [create_of_fresh value hkey]

mutual

theorem fold_eq : ∀ tree : Tree, WithoutProto tree → Unrepeated tree →
    tree.fold (assigned number) = tree.fold (created number)
  | .null, _, _ => rfl
  | .bool _, _, _ => rfl
  | .number _, _, _ => rfl
  | .string _, _, _ => rfl
  | .array elements, hproto, hnodup => by
    rw [Tree.fold, Tree.fold, foldElements_eq elements hproto hnodup]
    rfl
  | .object members, hproto, hnodup => by
    rw [Tree.fold, Tree.fold]
    have hmembers := foldMembers_eq members ⟨[], .objectPrototype⟩ hproto.1 hproto.2 hnodup.1 hnodup.2
      fun _ _ => List.not_mem_nil
    exact congrArg (Option.map _) hmembers

theorem foldElements_eq : ∀ elements : List Tree,
    EveryElement (fun members => protoKey ∉ keys members) elements →
    EveryElement (fun members => (keys members).Nodup) elements →
    foldElements (assigned number) elements = foldElements (created number) elements
  | [], _, _ => rfl
  | tree :: elements, hproto, hnodup => by
    rw [foldElements, foldElements, fold_eq tree hproto.1 hnodup.1,
      foldElements_eq elements hproto.2 hnodup.2]

theorem foldMembers_eq : ∀ (members : List (JsString × Tree)) (o : Plain ν), protoKey ∉ keys members →
    EveryMember (fun members => protoKey ∉ keys members) members → (keys members).Nodup →
    EveryMember (fun members => (keys members).Nodup) members →
    (∀ key ∈ keys members, key ∉ o.keys) →
    foldMembers (assigned number) o members = foldMembers (created number) o members
  | [], _, _, _, _, _, _ => rfl
  | (key, tree) :: members, o, hkey, hproto, hnodup, hvalues, hfresh => by
    rw [keys, List.map_cons, List.mem_cons, not_or] at hkey
    rw [keys, List.map_cons, List.nodup_cons] at hnodup
    rw [keys, List.map_cons, List.forall_mem_cons] at hfresh
    rw [foldMembers, foldMembers, fold_eq tree hproto.1 hvalues.1]
    cases tree.fold (created number) with
    | none => rfl
    | some value =>
      simp only [Option.bind_eq_bind, Option.bind_some]
      rw [member_assigned hfresh.1, member_created hfresh.1, assign_of_ne o value (Ne.symm hkey.1)]
      simp only [Option.bind_some]
      refine foldMembers_eq members _ hkey.2 hproto.2 hnodup.2 hvalues.2 fun other hother hmem => ?_
      change other ∈ (o.own ++ [(key, value)]).map Prod.fst at hmem
      rw [List.map_append, List.mem_append] at hmem
      rcases hmem with hmem | hmem
      · exact hfresh.2 other hother hmem
      · obtain rfl : other = key := List.mem_singleton.mp hmem
        exact hnodup.1 hother

end

mutual

/-- No object has an own member of the name `__proto__`. -/
def OwnFree : JsValue ν → Prop
  | .array elements => OwnFreeElements elements
  | .object own _ => protoKey ∉ own.map Prod.fst ∧ OwnFreeMembers own
  | _ => True

def OwnFreeElements : List (JsValue ν) → Prop
  | [] => True
  | value :: elements => OwnFree value ∧ OwnFreeElements elements

def OwnFreeMembers : List (JsString × JsValue ν) → Prop
  | [] => True
  | (_, value) :: own => OwnFree value ∧ OwnFreeMembers own

end

theorem ownFreeMembers_append {a b : List (JsString × JsValue ν)} :
    OwnFreeMembers (a ++ b) ↔ OwnFreeMembers a ∧ OwnFreeMembers b := by
  induction a with
  | nil => exact (and_iff_right trivial).symm
  | cons member a ih =>
    rw [List.cons_append, OwnFreeMembers, OwnFreeMembers, ih, and_assoc]

mutual

theorem ownFree_assigned : ∀ (tree : Tree) {value : JsValue ν}, Unrepeated tree →
    tree.fold (assigned number) = some value → OwnFree value
  | .null, _, _, h => by
    cases h
    trivial
  | .bool _, _, _, h => by
    cases h
    trivial
  | .number _, _, _, h => by
    cases h
    trivial
  | .string _, _, _, h => by
    cases h
    trivial
  | .array elements, value, hnodup, h => by
    obtain ⟨values, hvalues, rfl⟩ := Option.map_eq_some_iff.mp h
    exact ownFreeElements_assigned elements hnodup hvalues
  | .object members, value, hnodup, h => by
    obtain ⟨result, hresult, rfl⟩ := Option.map_eq_some_iff.mp h
    exact ownFreeMembers_assigned members ⟨[], .objectPrototype⟩ hnodup.1 hnodup.2 List.not_mem_nil trivial
      (fun _ => rfl) hresult

theorem ownFreeElements_assigned : ∀ (elements : List Tree) {values : List (JsValue ν)},
    EveryElement (fun members => (keys members).Nodup) elements →
    foldElements (assigned number) elements = some values → OwnFreeElements values
  | [], _, _, h => by
    cases h
    trivial
  | tree :: elements, values, hnodup, h => by
    obtain ⟨value, hvalue, h⟩ := Option.bind_eq_some_iff.mp h
    obtain ⟨more, hmore, h⟩ := Option.bind_eq_some_iff.mp h
    cases h
    exact ⟨ownFree_assigned tree hnodup.1 hvalue, ownFreeElements_assigned elements hnodup.2 hmore⟩

theorem ownFreeMembers_assigned : ∀ (members : List (JsString × Tree)) (o : Plain ν) {result : Plain ν},
    (keys members).Nodup → EveryMember (fun members => (keys members).Nodup) members →
    protoKey ∉ o.keys → OwnFreeMembers o.own → (protoKey ∈ keys members → o.proto.lookup = .setter) →
    foldMembers (assigned number) o members = some result →
    protoKey ∉ result.own.map Prod.fst ∧ OwnFreeMembers result.own
  | [], o, result, _, _, hown, hfree, _, h => by
    cases h
    exact ⟨hown, hfree⟩
  | (key, tree) :: members, o, result, hnodup, hvalues, hown, hfree, hsetter, h => by
    rw [keys, List.map_cons, List.nodup_cons] at hnodup
    rw [foldMembers_cons] at h
    obtain ⟨value, hvalue, h⟩ := Option.bind_eq_some_iff.mp h
    split_ifs at h with hfresh
    by_cases hkey : key = protoKey
    · subst hkey
      have hassign : (o.assign protoKey value).own = o.own := by
        rw [Plain.assign, if_pos ⟨rfl, hsetter List.mem_cons_self⟩]
        split_ifs
        · rfl
        · rfl
      refine ownFreeMembers_assigned members _ hnodup.2 hvalues.2 ?_ ?_ (fun h => absurd h hnodup.1) h
      · rw [Plain.keys, hassign]
        exact hown
      · rw [hassign]
        exact hfree
    · rw [assign_of_ne o value hkey] at h
      have hkeep : protoKey ∈ keys members → o.proto.lookup = .setter :=
        fun hmem => hsetter (List.mem_cons_of_mem key hmem)
      refine ownFreeMembers_assigned members ⟨o.own ++ [(key, value)], o.proto⟩ hnodup.2 hvalues.2 ?_ ?_ hkeep h
      · simpa [Plain.keys, Ne.symm hkey] using hown
      · exact ownFreeMembers_append.mpr ⟨hfree, ownFree_assigned tree hvalues.1 hvalue, trivial⟩

end

mutual

theorem withoutProto_created : ∀ (tree : Tree) {value : JsValue ν}, Unrepeated tree →
    tree.fold (created number) = some value → OwnFree value → WithoutProto tree
  | .null, _, _, _, _ => trivial
  | .bool _, _, _, _, _ => trivial
  | .number _, _, _, _, _ => trivial
  | .string _, _, _, _, _ => trivial
  | .array elements, value, hnodup, h, hfree => by
    obtain ⟨values, hvalues, rfl⟩ := Option.map_eq_some_iff.mp h
    exact withoutProtoElements_created elements hnodup hvalues hfree
  | .object members, value, hnodup, h, hfree => by
    obtain ⟨result, hresult, rfl⟩ := Option.map_eq_some_iff.mp h
    obtain ⟨added, hadded, hnone⟩ := withoutProtoMembers_created members hnodup.1 hnodup.2
      (fun _ _ => List.not_mem_nil) hresult
    have hresultFree : protoKey ∉ result.own.map Prod.fst ∧ OwnFreeMembers result.own := hfree
    rw [hadded] at hresultFree
    exact hnone hresultFree.1 hresultFree.2

theorem withoutProtoElements_created : ∀ (elements : List Tree) {values : List (JsValue ν)},
    EveryElement (fun members => (keys members).Nodup) elements →
    foldElements (created number) elements = some values → OwnFreeElements values →
    EveryElement (fun members => protoKey ∉ keys members) elements
  | [], _, _, _, _ => trivial
  | tree :: elements, values, hnodup, h, hfree => by
    obtain ⟨value, hvalue, h⟩ := Option.bind_eq_some_iff.mp h
    obtain ⟨more, hmore, h⟩ := Option.bind_eq_some_iff.mp h
    cases h
    exact ⟨withoutProto_created tree hnodup.1 hvalue hfree.1,
      withoutProtoElements_created elements hnodup.2 hmore hfree.2⟩

theorem withoutProtoMembers_created : ∀ (members : List (JsString × Tree)) {o result : Plain ν},
    (keys members).Nodup → EveryMember (fun members => (keys members).Nodup) members →
    (∀ key ∈ keys members, key ∉ o.keys) → foldMembers (created number) o members = some result →
    ∃ added, result.own = o.own ++ added ∧ (protoKey ∉ added.map Prod.fst → OwnFreeMembers added →
      protoKey ∉ keys members ∧ EveryMember (fun members => protoKey ∉ keys members) members)
  | [], o, result, _, _, _, h => by
    cases h
    exact ⟨[], (List.append_nil _).symm, fun _ _ => ⟨List.not_mem_nil, trivial⟩⟩
  | (key, tree) :: members, o, result, hnodup, hvalues, hfresh, h => by
    rw [keys, List.map_cons, List.nodup_cons] at hnodup
    rw [keys, List.map_cons, List.forall_mem_cons] at hfresh
    rw [foldMembers] at h
    obtain ⟨value, hvalue, h⟩ := Option.bind_eq_some_iff.mp h
    rw [member_created hfresh.1] at h
    have hrest : ∀ other ∈ keys members,
        other ∉ Plain.keys { o with own := o.own ++ [(key, value)] } := by
      intro other hother hmem
      change other ∈ (o.own ++ [(key, value)]).map Prod.fst at hmem
      rw [List.map_append, List.mem_append] at hmem
      rcases hmem with hmem | hmem
      · exact hfresh.2 other hother hmem
      · obtain rfl : other = key := List.mem_singleton.mp hmem
        exact hnodup.1 hother
    obtain ⟨added, hadded, hnone⟩ := withoutProtoMembers_created members hnodup.2 hvalues.2 hrest h
    refine ⟨(key, value) :: added, by rw [hadded, List.append_assoc]; rfl, fun hkeys hfree => ?_⟩
    rw [List.map_cons, List.mem_cons, not_or] at hkeys
    obtain ⟨hmembers, hevery⟩ := hnone hkeys.2 hfree.2
    refine ⟨?_, withoutProto_created tree hvalues.1 hvalue hfree.1, hevery⟩
    rw [keys, List.map_cons, List.mem_cons, not_or]
    exact ⟨hkeys.1, hmembers⟩

end
end Compare

section Strict
variable {ν : Type} (number : JsString → ν)

theorem ok_of_fold {tree : Tree} {text : JsString} {value : JsValue ν} (htext : JsonText tree text)
    (h : tree.fold (assigned number) = some value) :
    parseEnrollmentArtifactJson number text = .ok value := by
  have hparse := (parseText_complete (assigned number) htext).trans h
  unfold parseEnrollmentArtifactJson
  cases hresult : parseText (assigned number) text with
  | error failure =>
    rw [hresult] at hparse
    cases hparse
  | ok result =>
    rw [hresult] at hparse
    cases hparse
    rfl

/-- The parser is strict exactly on the texts that are no JSON, that have no key `__proto__`, or that
have a repeat it notices. -/
theorem readsStrictly_iff (text : JsString) :
    ReadsStrictly number text ↔
      ∀ tree, JsonText tree text → WithoutProto tree ∨ ¬EveryObject Unnoticed tree := by
  constructor
  · rintro ⟨hsound, -⟩ tree htree
    by_contra h
    rw [not_or, not_not] at h
    obtain ⟨value, hvalue⟩ := (read_tree tree : Read number tree).1.mpr h.2
    obtain ⟨other, hother, hunrepeated, hcreated⟩ := hsound value (ok_of_fold number htree hvalue)
    obtain rfl := jsonText_unique hother htree
    have hfree := ownFree_assigned other hunrepeated hvalue
    exact h.1 (withoutProto_created other hunrepeated hcreated hfree)
  · intro h
    constructor
    · intro value hvalue
      obtain ⟨tree, htree, hfold⟩ := parseText_sound (assigned number) hvalue
      have hunnoticed := (read_tree tree : Read number tree).1.mp ⟨value, hfold⟩
      have hproto := (h tree htree).resolve_right (not_not.mpr hunnoticed)
      have hunrepeated := WithoutProto.unrepeated hproto hunnoticed
      exact ⟨tree, htree, hunrepeated, (fold_eq tree hproto hunrepeated).symm.trans hfold⟩
    · intro tree htree hunrepeated
      obtain ⟨value, hvalue⟩ := (read_tree tree : Read number tree).1.mpr (unnoticed_of_unrepeated hunrepeated)
      exact ⟨value, ok_of_fold number htree hvalue⟩

end Strict

theorem chars_plain {s : JsString} (h : ∀ c ∈ s, c ≠ quote ∧ c ≠ backslash ∧ ¬c < 0x20)
    (rest : JsString) : Chars s (s ++ quote :: rest) rest := by
  induction s with
  | nil => exact .close
  | cons c s ih =>
    rw [List.forall_mem_cons] at h
    exact .plain h.1.1 h.1.2.1 h.1.2.2 (ih h.2)

/-- Two members `__proto__`. -/
def repeatedProto : JsString :=
  JsString.ofString "\x7b\u0022__proto__\u0022:true,\u0022__proto__\u0022:false\x7d"

def repeatedProtoTree : Tree := .object [(protoKey, .bool true), (protoKey, .bool false)]

theorem repeatedProto_tree : JsonText repeatedProtoTree repeatedProto := by
  have hall : protoKey.all (fun c => decide (c ≠ quote ∧ c ≠ backslash ∧ ¬c < 0x20)) = true := by
    decide
  have hplain : ∀ c ∈ protoKey, c ≠ quote ∧ c ≠ backslash ∧ ¬c < 0x20 := fun c hc =>
    of_decide_eq_true (List.all_eq_true.mp hall c hc)
  have hkey (rest : JsString) : Key protoKey (quote :: (protoKey ++ quote :: colon :: rest)) rest :=
    .mk .nil (chars_plain hplain _) .nil
  have htext : repeatedProto = openBrace :: quote :: (protoKey ++ quote :: colon ::
      (JsString.ofString "true" ++ comma :: quote :: (protoKey ++ quote :: colon ::
        (JsString.ofString "false" ++ [closeBrace])))) := by decide
  rw [htext]
  exact ⟨_, [], .nil, .object (.more (hkey _) .nil .true .nil (.one (hkey _) .nil .false .nil)), .nil⟩

/-- A repeated `__proto__` is read as an object without members. -/
theorem repeatedProto_accepted :
    parseEnrollmentArtifactJson (fun _ => ()) repeatedProto = .ok (.object [] .objectPrototype) ∧
      ¬ReadsStrictly (fun _ => ()) repeatedProto := by
  have hparse : parseEnrollmentArtifactJson (fun _ => ()) repeatedProto =
      .ok (.object [] .objectPrototype) := ok_of_fold _ repeatedProto_tree rfl
  refine ⟨hparse, fun ⟨hsound, _⟩ => ?_⟩
  obtain ⟨tree, htree, hunrepeated, -⟩ := hsound _ hparse
  obtain rfl := jsonText_unique htree repeatedProto_tree
  exact absurd hunrepeated.1 (by decide)

end Wardroom.Federation
