import Wardroom.Federation.StrictTexts
import Wardroom.Library.JsonIndent
import Wardroom.Library.PosixPath
import Wardroom.Profiles.Contracts

/-! # Session profile bindings as values and as files

A binding comes as a value whose type nobody has checked, and is written as the
text of that value. What is read back from the text is the value, so the checks
that it passed it passes again, and two bindings with the same text are the same.
-/

namespace Wardroom.Profiles
open Wardroom.Library Wardroom.Library.JsonText Wardroom.Federation

/-- Making a member overwrites one of the same name. -/
def setMember {α : Type} (key : JsString) (value : α) : List (JsString × α) → List (JsString × α)
  | [] => [(key, value)]
  | member :: members => if member.1 = key then (key, value) :: members else member :: setMember key value members

theorem setMember_of_new {α : Type} {key : JsString} (value : α) {members : List (JsString × α)}
    (h : key ∉ members.map Prod.fst) : setMember key value members = members ++ [(key, value)] := by
  induction members with
  | nil => rfl
  | cons member members ih =>
    rw [List.map_cons, List.mem_cons, not_or] at h
    rw [setMember, if_neg (Ne.symm h.1), ih h.2]
    rfl

/-- The objects of `JSON.parse`. -/
def dataBuilder : Builder Tree (List (JsString × Tree)) where
  null := .null
  bool := .bool
  number := .number
  string := .string
  array := .array
  empty := []
  member object key value := some (setMember key value object)
  object := .object

/-- The texts that the strict parser reads are those of JSON. -/
def jsonParse (text : JsString) : Except JsString Tree :=
  match parseText dataBuilder text with
  | .ok tree => .ok tree
  | .error _ => .error (JsString.ofString "SyntaxError")

mutual

theorem fold_dataBuilder : ∀ tree : Tree, Unrepeated tree → tree.fold dataBuilder = some tree
  | .null, _ => rfl
  | .bool _, _ => rfl
  | .number _, _ => rfl
  | .string _, _ => rfl
  | .array elements, h => by
    rw [Tree.fold, foldElements_dataBuilder elements h]
    rfl
  | .object members, h => by
    have hmembers := foldMembers_dataBuilder members [] h.1 h.2 fun _ _ => List.not_mem_nil
    rw [Tree.fold]
    exact congrArg (Option.map _) hmembers

theorem foldElements_dataBuilder : ∀ elements : List Tree,
    EveryElement (fun members => (keys members).Nodup) elements → foldElements dataBuilder elements = some elements
  | [], _ => rfl
  | tree :: elements, h => by
    rw [foldElements, fold_dataBuilder tree h.1, foldElements_dataBuilder elements h.2]
    rfl

theorem foldMembers_dataBuilder : ∀ (members object : List (JsString × Tree)), (keys members).Nodup →
    EveryMember (fun members => (keys members).Nodup) members → (∀ key ∈ keys members, key ∉ keys object) →
    foldMembers dataBuilder object members = some (object ++ members)
  | [], object, _, _, _ => by rw [foldMembers, List.append_nil]
  | (key, tree) :: members, object, hnodup, hvalues, hnew => by
    rw [keys, List.map_cons, List.nodup_cons] at hnodup
    rw [keys, List.map_cons, List.forall_mem_cons] at hnew
    rw [foldMembers, fold_dataBuilder tree hvalues.1]
    change foldMembers dataBuilder (setMember key tree object) members = _
    rw [setMember_of_new tree hnew.1, foldMembers_dataBuilder members _ hnodup.2 hvalues.2, List.append_assoc]
    · rfl
    · intro other hother hmem
      rw [keys, List.map_append, List.mem_append] at hmem
      rcases hmem with hmem | hmem
      · exact hnew.2 other hother hmem
      · obtain rfl : other = key := List.mem_singleton.mp hmem
        exact hnodup.1 hother

end

/-- A value with nothing but data: its numbers are numbers, and no object has a key twice. -/
structure Data where
  tree : Tree
  writable : tree.Writable
  unrepeated : Unrepeated tree

namespace Data

/-- `${JSON.stringify(value, null, 2)}\n`. -/
def file (value : Data) : JsString := value.tree.indent 0 ++ [0x0A]

theorem jsonParse_file (value : Data) : jsonParse value.file = .ok value.tree := by
  have hparse := parseText_complete dataBuilder (jsonText_indent value.writable)
  rw [fold_dataBuilder value.tree value.unrepeated] at hparse
  unfold jsonParse file
  cases hresult : parseText dataBuilder (value.tree.indent 0 ++ [0x0A]) with
  | ok tree =>
    rw [hresult] at hparse
    cases hparse
    rfl
  | error failure =>
    rw [hresult] at hparse
    cases hparse

end Data

def text (s : String) : JsString := JsString.ofString s

def refuseIf (c : Bool) (reason : JsString) : Except JsString Unit := if c then .error reason else .ok ()

theorem refuseIf_ok {c : Bool} {reason : JsString} (h : refuseIf c reason = .ok ()) : c = false := by
  cases c with
  | true => cases h
  | false => rfl

/-- `value[key]` of an object. -/
def field (value : Tree) (key : String) : Option Tree :=
  match value with
  | .object members => members.lookup (text key)
  | _ => none

/-- `value === s`. -/
def isString (value : Option Tree) (s : JsString) : Bool :=
  match value with
  | some (.string t) => t = s
  | _ => false

def isOneOf (value : Option Tree) (strings : List String) : Bool := strings.any fun s => isString value (text s)

def isStringWith (value : Option Tree) (kind : JsString → Bool) : Bool :=
  match value with
  | some (.string s) => kind s
  | _ => false

/-- `a === b` where `b` is a string. -/
def isSameString (a b : Option Tree) : Bool := isStringWith b fun s => isString a s

mutual

/-- `String(value)`, unless it throws. -/
def toText : Tree → Except JsString JsString
  | .null => .ok (text "null")
  | .bool true => .ok (text "true")
  | .bool false => .ok (text "false")
  | .number digits => .ok digits
  | .string s => .ok s
  | .array elements => (elementTexts elements).map commaSeparated
  | .object members =>
    if text "toString" ∈ keys members then .error (text "Cannot convert object to primitive value")
    else .ok (text "[object Object]")

def elementTexts : List Tree → Except JsString (List JsString)
  | [] => .ok []
  | .null :: elements => (elementTexts elements).map fun texts => [] :: texts
  | tree :: elements => do
    let first ← toText tree
    let texts ← elementTexts elements
    return first :: texts

end

/-- `String(value)` of a field that is there. -/
def fieldText (value : Option Tree) : Except JsString JsString := value.elim (.ok (text "undefined")) toText

/-- The keys of an object are the expected ones: sorted, the two lists are the same. -/
def hasExactKeys (value : Tree) (expected : List String) : Bool :=
  match value with
  | .object members => (keys members).isPerm (expected.map text)
  | _ => false

def isSha256 (s : JsString) : Bool := s.length = 64 && s.all isHexadecimal

def isNameStart (c : CodeUnit) : Bool := (0x41 ≤ c && c ≤ 0x5A) || (0x61 ≤ c && c ≤ 0x7A) || c = 0x5F

/-- `/^[A-Za-z_][A-Za-z0-9_]*$/`. -/
def isEnvironmentName : JsString → Bool
  | [] => false
  | c :: rest => isNameStart c && rest.all fun c => isNameStart c || isDigit c

def isResolvedItem (item : Tree) : Bool :=
  hasExactKeys item ["id", "sha256"] && isStringWith (field item "id") (fun _ => true) &&
    (field item "sha256" matches some .null || isStringWith (field item "sha256") isSha256)

def surfaceNames : List String :=
  ["instructions", "projectInstructions", "skills", "plugins", "hooks", "memories", "mcpServers", "apps", "webAccess",
    "subagents", "tools"]

def isSurfaceAttestation (value : Tree) : Except JsString Bool := do
  if !hasExactKeys value ["surface", "inspection", "items"] then return false
  let surface ← fieldText (field value "surface")
  if surface ∉ surfaceNames.map text then return false
  let inspection ← fieldText (field value "inspection")
  if inspection ∉ ["verified", "unsupported", "unavailable"].map text then return false
  match field value "items" with
  | some (.array items) => return items.all isResolvedItem
  | _ => return false

/-- `surfaces.every(isSurfaceAttestation)`. -/
def everySurface : List Tree → Except JsString Bool
  | [] => .ok true
  | value :: rest => do
    if ← isSurfaceAttestation value then everySurface rest else return false

/-- The part of `validateBinding` about an attestation that is not `null`. -/
def isAttestationOf (attestation row : Tree) : Except JsString Bool := do
  let same (key : String) : Bool := isSameString (field attestation key) (field row key)
  if !(hasExactKeys attestation ["profileRevisionId", "profileSha256", "modelSkillSetId", "provider", "requestedModel",
      "effectiveModel", "inspectedAt", "surfaces"] && same "profileRevisionId" && same "profileSha256" &&
      same "modelSkillSetId" && same "provider" && same "requestedModel" && same "effectiveModel" &&
      isStringWith (field attestation "inspectedAt") fun _ => true) then return false
  match field attestation "surfaces" with
  | some (.array surfaces) => everySurface surfaces
  | _ => return false

def bindingKeys : List String :=
  ["id", "sessionId", "channelId", "profileRevisionId", "profileSha256", "modelSkillSetId", "provider", "requestedModel",
    "effectiveModel", "executablePath", "executableVersion", "authAttestation", "resolvedStateAttestation", "boundAt"]

def bindingTexts : List String :=
  ["id", "sessionId", "channelId", "profileRevisionId", "profileSha256", "modelSkillSetId", "requestedModel",
    "effectiveModel", "executablePath", "executableVersion", "boundAt"]

def isObject : Tree → Bool
  | .object _ => true
  | _ => false

section Checks
variable (isDate : JsString → Bool)

/-- The names of the variables, each once, and when that was seen. -/
def isEnvironmentEvidence (auth : Tree) : Bool :=
  match field auth "apiKeyEnvironmentVariables" with
  | some (.array items) =>
    let names := items.filterMap fun item => if let .string s := item then some s else none
    items.all (fun item => isStringWith (some item) isEnvironmentName) && decide names.Nodup &&
      isStringWith (field auth "verifiedAt") isDate
  | _ => false

def validateAuthAttestation (auth : Option Tree) : Except JsString Unit := do
  match auth with
  | some (.object members) =>
    let auth := Tree.object members
    refuseIf (!isString (field auth "requiredMode") (text "subscription"))
      (text "invalid session profile binding auth attestation")
    refuseIf (!hasExactKeys auth ["requiredMode", "resolvedMode", "credentialSource", "accountPresent",
        "apiKeyEnvironmentVariables", "verifiedAt"])
      (text "session profile binding auth attestation contains unknown or missing fields")
    refuseIf (!(isOneOf (field auth "resolvedMode") ["subscription", "api", "unknown"] &&
        isOneOf (field auth "credentialSource") ["chatgptSubscription", "oauth", "keychain", "apiKey", "unknown"] &&
        (field auth "accountPresent" matches some (.bool _)) && isStringWith (field auth "verifiedAt") fun _ => true))
      (text "invalid session profile binding auth evidence")
    refuseIf (!isEnvironmentEvidence isDate auth) (text "invalid session profile binding auth environment evidence")
  -- An array has no `requiredMode`, and nothing else is an object.
  | _ => throw (text "invalid session profile binding auth attestation")

/-- `isDate` is `Number.isFinite(Date.parse(text))`. -/
def validateBinding (value : Tree) : Except JsString Unit := do
  refuseIf (!isObject value) (text "invalid session profile binding")
  refuseIf (!hasExactKeys value bindingKeys)
    (text "session profile binding contains unknown or missing fields")
  for key in bindingTexts do
    refuseIf (!isStringWith (field value key) fun s => s ≠ [])
      (text "invalid session profile binding " ++ text key)
  refuseIf (!isOneOf (field value "provider") ["codex", "claude"])
    (text "invalid session profile binding provider")
  refuseIf (!(isStringWith (field value "profileSha256") isSha256 &&
      isStringWith (field value "executablePath") PosixPath.isAbsolute &&
      isStringWith (field value "boundAt") isDate))
    (text "invalid session profile binding fixed evidence")
  validateAuthAttestation isDate (field value "authAttestation")
  match field value "resolvedStateAttestation" with
  | some .null => return
  | attestation =>
    refuseIf (!(← isAttestationOf (attestation.getD .null) value))
      (text "session profile binding resolved-state attestation mismatch")

end Checks

/-- `{ ...value, resolvedStateAttestation: null }`. -/
def fixedPart : Tree → Tree
  | .object members => .object (setMember (text "resolvedStateAttestation") .null members)
  | value => value

def resolvedStateAttestation (value : Tree) : Tree := (field value "resolvedStateAttestation").getD .null

def isNull : Tree → Bool
  | .null => true
  | _ => false

def assertPermittedUpdate (existing next : Tree) : Except JsString Unit := do
  refuseIf ((fixedPart existing).write ≠ (fixedPart next).write)
    (text "session profile binding immutable fields changed")
  let attested := resolvedStateAttestation existing
  let attests := resolvedStateAttestation next
  refuseIf (!isNull attested && attested.write ≠ attests.write)
    (text "session profile binding attestation is already fixed")
  refuseIf (!isNull attested && isNull attests)
    (text "session profile binding attestation cannot be removed")

theorem write_injective {a b : Tree} (ha : a.Writable) (hb : b.Writable) (h : a.write = b.write) : a = b := by
  have hread := jsonText_write ha
  rw [h] at hread
  exact jsonText_unique hread (jsonText_write hb)

variable {value : Tree}

theorem writable_setMember {key : JsString} (hvalue : value.Writable)
    {members : List (JsString × Tree)} (h : MembersWritable members) :
    MembersWritable (setMember key value members) := by
  induction members with
  | nil => exact ⟨hvalue, trivial⟩
  | cons member members ih =>
    rw [setMember]
    split_ifs
    · exact ⟨hvalue, h.2⟩
    · exact ⟨h.1, ih h.2⟩

theorem writable_fixedPart (h : value.Writable) : (fixedPart value).Writable := by
  cases value with
  | object members => exact writable_setMember (show Tree.null.Writable from trivial) h
  | _ => exact h

theorem writable_lookup {key : JsString} {members : List (JsString × Tree)} (h : MembersWritable members) :
    ((members.lookup key).getD .null).Writable := by
  induction members with
  | nil => trivial
  | cons member members ih =>
    rw [List.lookup_cons]
    split
    · exact h.1
    · exact ih h.2

theorem writable_resolvedStateAttestation (h : value.Writable) :
    (resolvedStateAttestation value).Writable := by
  cases value with
  | object members => exact writable_lookup h
  | _ => trivial

/-- The fixed fields stay, and an attestation that is not `null`. -/
structure Keeps (existing next : Tree) : Prop where
  fixed : fixedPart next = fixedPart existing
  attested : resolvedStateAttestation existing ≠ .null →
    resolvedStateAttestation next = resolvedStateAttestation existing

theorem isNull_iff : isNull value = true ↔ value = .null := by
  cases value <;> simp [isNull]

theorem keeps_of_permitted {existing next : Tree} (hexisting : existing.Writable) (hnext : next.Writable)
    (h : assertPermittedUpdate existing next = .ok ()) : Keeps existing next := by
  obtain ⟨_, hfixed, h⟩ := bind_eq_ok h
  obtain ⟨_, hattested, -⟩ := bind_eq_ok h
  have hfixed := refuseIf_ok hfixed
  have hattested := refuseIf_ok hattested
  rw [decide_eq_false_iff_not, not_not] at hfixed
  constructor
  · exact (write_injective (writable_fixedPart hexisting) (writable_fixedPart hnext) hfixed).symm
  · intro hne
    have hnull : isNull (resolvedStateAttestation existing) = false := by
      rw [← Bool.not_eq_true, isNull_iff]
      exact hne
    rw [hnull, Bool.not_false, Bool.true_and, decide_eq_false_iff_not, not_not] at hattested
    exact (write_injective (writable_resolvedStateAttestation hexisting)
      (writable_resolvedStateAttestation hnext) hattested).symm

theorem Keeps.refl (value : Tree) : Keeps value value := ⟨rfl, fun _ => rfl⟩

theorem Keeps.trans {a b c : Tree} (h : Keeps a b) (h' : Keeps b c) : Keeps a c where
  fixed := h'.fixed.trans h.fixed
  attested hattested := by
    have hb := h.attested hattested
    rw [h'.attested (hb ▸ hattested), hb]

end Wardroom.Profiles
