import Wardroom.Library.LockedFile
import Wardroom.Profiles.SessionBinding

/-! # The store of session profile bindings

Each binding has a file of its own, which calls of any process replace under a
lock file. A call reads what is stored, compares it with the binding it was given,
and renames a complete draft over it.
-/

namespace Wardroom.Profiles.BindingStore
open Wardroom.Library Wardroom.Library.LockedFile Wardroom.Federation
open Trace (run run_cons run_append)

def MAX_BINDING_BYTES : Nat := 1024 * 1024

def isSegmentStart (c : CodeUnit) : Bool :=
  (0x41 ≤ c && c ≤ 0x5A) || (0x61 ≤ c && c ≤ 0x7A) || JsonText.isDigit c

/-- `/^[A-Za-z0-9][A-Za-z0-9._-]{0,127}$/`. -/
def isSafeSegment : JsString → Bool
  | [] => false
  | c :: rest =>
    isSegmentStart c && rest.length ≤ 127 && rest.all fun c => isSegmentStart c || c ∈ [0x2E, 0x5F, 0x2D]

def assertSafeStateSegment (value : JsString) (name : String) : Except JsString JsString :=
  if isSafeSegment value then .ok value else .error (text "invalid " ++ text name)

def sessionProfileBindingsDirectory (stateDir : JsString) : Except JsString JsString :=
  if PosixPath.isAbsolute stateDir then
    .ok (PosixPath.join (PosixPath.join stateDir (text "profiles")) (text "bindings"))
  else .error (text "profile state directory must be absolute")

def sessionProfileBindingPath (stateDir bindingId : JsString) : Except JsString JsString := do
  let directory ← sessionProfileBindingsDirectory stateDir
  let segment ← assertSafeStateSegment bindingId "session profile binding id"
  return PosixPath.join directory (segment ++ text ".json")

/-- A call with the binding it is given, and what `readChannelProfileRevision` gives it. -/
structure Update (id : JsString) where
  binding : Data
  names : field binding.tree "id" = some (.string id)
  profile : Except JsString ChannelProfileRevision

section Calls
variable (isDate : JsString → Bool) (stateDir : JsString) {id : JsString}

/-- `requiredMode` is the only mode that a set of a profile has. -/
def matchesModelSet (binding : JsonText.Tree) (profile : ChannelProfileRevision) : Bool :=
  match profile.modelSkillSets.find? fun set => isString (field binding "modelSkillSetId") set.id with
  | some set =>
    isString (field binding "provider") set.provider.name && isString (field binding "effectiveModel") set.model
  | none => false

/-- What `persistSessionProfileBinding` checks before it takes the lock. -/
def checkUpdate (u : Update id) : Except JsString Unit := do
  validateBinding isDate u.binding.tree
  let profile ← u.profile
  refuseIf (!(isString (field u.binding.tree "profileSha256") profile.sha256.text &&
      isString (field u.binding.tree "channelId") profile.channelId))
    (text "session profile binding does not match its profile revision")
  refuseIf (!matchesModelSet u.binding.tree profile)
    (text "session profile binding does not match its provider model profile")
  let _ ← sessionProfileBindingPath stateDir id

/-- What is made of the bytes of a stored file. -/
def readSessionProfileBinding (id content : JsString) : Except JsString JsonText.Tree := do
  let path ← sessionProfileBindingPath stateDir id
  refuseIf (JsString.byteLength content > MAX_BINDING_BYTES)
    (text "profile state file is oversized: " ++ path)
  let parsed ← jsonParse content
  validateBinding isDate parsed
  refuseIf (!isString (field parsed "id") id)
    (text "session profile binding id does not match its storage path")
  return parsed

/-- What a call writes over what is stored, unless it throws. -/
def replacement (u : Update id) : Option JsString → Except JsString JsString
  | none => .ok u.binding.file
  | some content => do
    let existing ← readSessionProfileBinding isDate stateDir id content
    assertPermittedUpdate existing u.binding.tree
    return u.binding.file

abbrev Store (id : JsString) := Files (Update id) CodeUnit JsString

/-- The file-system steps of calls of `persistSessionProfileBinding` for the id. -/
def persist (s : Store id) (e : Event (Update id)) : Store id :=
  LockedFile.step (checkUpdate isDate stateDir) (replacement isDate stateDir) s e

/-- After some steps on an empty store. -/
def after (events : List (Event (Update id))) : Store id := run (persist isDate stateDir) {} events

end Calls

section Laws
variable (isDate : JsString → Bool) (stateDir : JsString) {id : JsString}

/-- What is stored is a complete binding, and later bindings keep what it fixes. -/
structure WrittenOnce (events : List (Event (Update id))) : Prop where
  complete : ∀ before rest content, events = before ++ rest → (after isDate stateDir before).file = some content →
    ∃ binding : Data, content = binding.file ∧ validateBinding isDate binding.tree = .ok () ∧
      field binding.tree "id" = some (.string id)
  kept : ∀ before between rest, ∀ existing : Data, events = before ++ between ++ rest →
    (after isDate stateDir before).file = some existing.file →
    ∃ binding : Data, (after isDate stateDir (before ++ between)).file = some binding.file ∧
      Keeps existing.tree binding.tree

/-- A call that stops for good between its lock file and the removal of it leaves the file as it
is for good, and no call that begins later succeeds. -/
def LocksOut (events : List (Event (Update id))) : Prop :=
  ∀ before i rest u phase, events = before ++ .crash i :: rest →
    (after isDate stateDir before).calls i = some (u, phase) → phase.inside = true →
      (after isDate stateDir events).file = (after isDate stateDir before).file ∧
        ∀ j v last, (after isDate stateDir before).calls j = none →
          (after isDate stateDir events).calls j = some (v, last) → last.fails = true

end Laws

section Runs
variable {isDate : JsString → Bool} {stateDir id : JsString}

theorem valid_of_checkUpdate {u : Update id} (h : checkUpdate isDate stateDir u = .ok ()) :
    validateBinding isDate u.binding.tree = .ok () := by
  obtain ⟨_, hvalid, -⟩ := bind_eq_ok h
  exact hvalid

variable {content : JsString}

theorem read_of_file {tree : JsonText.Tree}
    (h : readSessionProfileBinding isDate stateDir id content = .ok tree) : jsonParse content = .ok tree := by
  obtain ⟨path, -, h⟩ := bind_eq_ok h
  obtain ⟨_, -, h⟩ := bind_eq_ok h
  obtain ⟨parsed, hparse, h⟩ := bind_eq_ok h
  obtain ⟨_, -, h⟩ := bind_eq_ok h
  obtain ⟨_, -, h⟩ := bind_eq_ok h
  obtain rfl : parsed = tree := Except.ok.inj h
  exact hparse

theorem replacement_ok {u : Update id} {old : Option JsString}
    (h : replacement isDate stateDir u old = .ok content) : content = u.binding.file := by
  cases old with
  | none => exact (Except.ok.inj h).symm
  | some stored =>
    obtain ⟨existing, -, h⟩ := bind_eq_ok h
    obtain ⟨_, -, h⟩ := bind_eq_ok h
    exact (Except.ok.inj h).symm

theorem keeps_of_replacement {u : Update id} {existing : Data}
    (h : replacement isDate stateDir u (some existing.file) = .ok content) :
    Keeps existing.tree u.binding.tree := by
  obtain ⟨read, hread, h⟩ := bind_eq_ok h
  obtain ⟨_, hpermitted, -⟩ := bind_eq_ok h
  have hparse := read_of_file hread
  rw [existing.jsonParse_file] at hparse
  obtain rfl : existing.tree = read := Except.ok.inj hparse
  exact keeps_of_permitted existing.writable u.binding.writable hpermitted

theorem after_append (before between : List (Event (Update id))) :
    after isDate stateDir (before ++ between) = run (persist isDate stateDir) (after isDate stateDir before) between :=
  run_append _ _ _

variable (isDate stateDir) in
theorem sound_after (events : List (Event (Update id))) :
    Sound (checkUpdate isDate stateDir) (replacement isDate stateDir) (after isDate stateDir events) :=
  sound_run _ _ events

theorem stored_after {events : List (Event (Update id))}
    (h : (after isDate stateDir events).file = some content) :
    ∃ u : Update id, checkUpdate isDate stateDir u = .ok () ∧ content = u.binding.file := by
  obtain ⟨u, old, hallow, hplan⟩ := run_file_decided (checkUpdate isDate stateDir) (replacement isDate stateDir) events h
  exact ⟨u, hallow, replacement_ok hplan⟩

theorem kept_of_chain {existing : Data} {old new : Option JsString}
    (h : Relation.ReflTransGen
      (Replaces (checkUpdate isDate stateDir : Update id → _) (replacement isDate stateDir)) old new)
    (hold : old = some existing.file) : ∃ binding : Data, new = some binding.file ∧ Keeps existing.tree binding.tree := by
  induction h with
  | refl => exact ⟨existing, hold, .refl _⟩
  | tail _ hlast ih =>
    obtain ⟨binding, hmiddle, hkeeps⟩ := ih
    obtain ⟨u, content, hallow, hplan, hnew⟩ := hlast
    rw [hmiddle] at hplan
    refine ⟨u.binding, ?_, hkeeps.trans (keeps_of_replacement hplan)⟩
    rw [hnew, replacement_ok hplan]

variable (isDate stateDir) in
/-- Whatever calls interleave and crash, what is stored is complete and keeps what was stored. -/
theorem written_once (events : List (Event (Update id))) : WrittenOnce isDate stateDir events where
  complete before rest content _ hfile := by
    obtain ⟨u, hallow, hcontent⟩ := stored_after hfile
    exact ⟨u.binding, hcontent, valid_of_checkUpdate hallow, u.names⟩
  kept before between rest existing _ hfile := by
    have hchain := run_file (sound_after isDate stateDir before) between
    rw [after_append]
    exact kept_of_chain hchain hfile

variable (isDate stateDir) in
/-- Nothing of a later call takes the lock away, whatever it does. -/
theorem locks_out (events : List (Event (Update id))) : LocksOut isDate stateDir events := by
  rintro before i rest u phase rfl hcall hinside
  have hstuck := (sound_after isDate stateDir before).stuck hcall hinside
  obtain ⟨hfile, hlater⟩ := stuck_run (checkUpdate isDate stateDir) (replacement isDate stateDir) hstuck rest
  have hafter : after isDate stateDir (before ++ .crash i :: rest) =
      run (persist isDate stateDir) ((after isDate stateDir before).move i u .crashed) rest := by
    rw [after_append, run_cons, persist, step_crash hcall hinside]
  rw [hafter]
  refine ⟨hfile, fun j v last hnew hlast => hlater j (fun b other hother => ?_) v last hlast⟩
  have hne : j ≠ i := by
    rintro rfl
    rw [hnew] at hcall
    cases hcall
  rw [Files.move_of_ne hne, hnew] at hother
  cases hother

end Runs

end Wardroom.Profiles.BindingStore
