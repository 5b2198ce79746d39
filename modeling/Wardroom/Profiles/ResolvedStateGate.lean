import Mathlib
import Wardroom.Library.JsMap
import Wardroom.Library.JsonNumber
import Wardroom.Library.Lists
import Wardroom.Library.Reorder
import Wardroom.Profiles.Contracts

/-! # The resolved-state gate

A controlled session is ready if what the provider shows is exactly what its
profile makes visible. The two inventories are compared through keys that are
joined from the surface, the id and the hash of an item; a key names one item.
-/

namespace Wardroom.Profiles
open Wardroom.Library

inductive RejectionCode where
  | profileRevisionMismatch | modelProfileMismatch | attestationMetadataMismatch | executableUnverified | authModeMismatch
  | authAccountMissing | apiKeyEnvironmentPresent | surfaceMissing | surfaceDuplicate | surfaceUnverified
  | requiredItemMissing | unexpectedItem
deriving DecidableEq, Repr

structure Rejection where
  code : RejectionCode
  detail : JsString
deriving DecidableEq

structure GateInput where
  profile : ChannelProfileRevision
  binding : SessionProfileBinding
  attestation : ProviderResolvedStateAttestation

/-- An accepted session has no rejections. -/
structure Decision where
  accepted : Bool
  rejections : List Rejection
deriving DecidableEq

open ResolvedStateSurface in
def CONTROLLED_PROFILE_SURFACES : List ResolvedStateSurface :=
  [instructions, projectInstructions, skills, plugins, hooks, memories, mcpServers, apps, webAccess, subagents, tools]

def ResolvedStateInspection.label : ResolvedStateInspection → String
  | verified => "verified"
  | unsupported => "unsupported"
  | unavailable => "unavailable"

def reject (c : Prop) [Decidable c] (code : RejectionCode) (detail : JsString) : List Rejection :=
  if c then [⟨code, detail⟩] else []

def attestationMatchesBinding (input : GateInput) : Bool :=
  input.attestation.profileRevisionId = input.binding.profileRevisionId &&
    input.attestation.profileSha256 = input.binding.profileSha256 &&
    input.attestation.modelSkillSetId = input.binding.modelSkillSetId &&
    input.attestation.provider = input.binding.provider &&
    input.attestation.requestedModel = input.binding.requestedModel &&
    input.attestation.effectiveModel = input.binding.effectiveModel

def ProjectInstructionsPolicy.snapshots : ProjectInstructionsPolicy → List PinnedTextSnapshot
  | exclude => []
  | snapshot snapshots => snapshots

def expectedItems (profile : ChannelProfileRevision) (modelSet : ProviderModelSkillSet) : List ProviderSpecificResolvedItem :=
  [⟨⟨profile.instructions.id, some profile.instructions.sha256⟩, .instructions⟩] ++
    profile.projectInstructions.snapshots.map (fun snapshot => ⟨⟨snapshot.id, some snapshot.sha256⟩, .projectInstructions⟩) ++
    modelSet.skills.map (fun skill => ⟨⟨skill.id, some skill.rootSha256⟩, .skills⟩) ++
    modelSet.allowedBuiltinTools.map (fun id => ⟨⟨id, none⟩, .tools⟩) ++
    modelSet.providerSpecificResolvedItems

def actualItems (surfaces : List ResolvedStateSurfaceAttestation) : List ProviderSpecificResolvedItem :=
  surfaces.flatMap fun row => row.items.map fun item => ⟨item, row.surface⟩

/-- The parts of the key are separated by NUL. -/
def itemKey (item : ProviderSpecificResolvedItem) : JsString :=
  item.surface.name ++ 0 :: (item.id ++ 0 :: (item.sha256.map Sha256.text).getD [])

def itemMap (items : List ProviderSpecificResolvedItem) : List (JsString × ProviderSpecificResolvedItem) :=
  JsMap.ofPairs (items.map fun item => (itemKey item, item))

def missingFrom (code : RejectionCode) (items others : List (JsString × ProviderSpecificResolvedItem)) : List Rejection :=
  items.flatMap fun entry =>
    reject (entry.1 ∉ others.map Prod.fst) code (entry.2.surface.name ++ JsString.ofString ":" ++ entry.2.id)

def compareInventory (profile : ChannelProfileRevision) (modelSet : ProviderModelSkillSet)
    (surfaces : List ResolvedStateSurfaceAttestation) : List Rejection :=
  let expectedKeys := itemMap (expectedItems profile modelSet)
  let actualKeys := itemMap (actualItems surfaces)
  missingFrom .requiredItemMissing expectedKeys actualKeys ++ missingFrom .unexpectedItem actualKeys expectedKeys

def inspectSurface (surfaces : List ResolvedStateSurfaceAttestation) (surface : ResolvedStateSurface) : List Rejection :=
  match surfaces.filter fun row => row.surface = surface with
  | [] => [⟨.surfaceMissing, JsString.ofString "provider did not inspect " ++ surface.name⟩]
  | [row] => reject (row.inspection ≠ .verified) .surfaceUnverified
      (surface.name ++ JsString.ofString " inspection is " ++ JsString.ofString row.inspection.label)
  | rows => [⟨.surfaceDuplicate, JsString.ofString "provider returned " ++ JsonText.decimalText rows.length ++
      JsString.ofString " inventories for " ++ surface.name⟩]

def findModelSet (profile : ChannelProfileRevision) (binding : SessionProfileBinding) : Option ProviderModelSkillSet :=
  profile.modelSkillSets.find? fun candidate => candidate.id = binding.modelSkillSetId

def rejections (input : GateInput) : List Rejection :=
  let profile := input.profile
  let binding := input.binding
  let auth := binding.authAttestation
  let modelSet := findModelSet profile binding
  reject (binding.profileRevisionId ≠ profile.id ∨ binding.profileSha256 ≠ profile.sha256) .profileRevisionMismatch
      (JsString.ofString "binding does not match the immutable profile revision") ++
    reject (modelSet.all fun set => set.provider ≠ binding.provider || set.model ≠ binding.effectiveModel) .modelProfileMismatch
      (JsString.ofString "binding does not match one exact provider model profile") ++
    reject (binding.executablePath.isBlank || binding.executableVersion.isBlank) .executableUnverified
      (JsString.ofString "provider executable path and version are required") ++
    reject (auth.resolvedMode ≠ .subscription ∨ auth.credentialSource = .apiKey ∨ auth.credentialSource = .unknown)
      .authModeMismatch (JsString.ofString "controlled v1 launches require verified subscription authentication") ++
    reject (auth.accountPresent = false) .authAccountMissing (JsString.ofString "subscription account evidence is missing") ++
    reject (0 < auth.apiKeyEnvironmentVariables.length) .apiKeyEnvironmentPresent
      (JsString.ofString "API-key environment variables are present") ++
    reject (attestationMatchesBinding input = false) .attestationMetadataMismatch
      (JsString.ofString "resolved-state metadata does not match the session binding") ++
    CONTROLLED_PROFILE_SURFACES.flatMap (inspectSurface input.attestation.surfaces) ++
    match modelSet with
    | some modelSet => compareInventory profile modelSet input.attestation.surfaces
    | none => []

def evaluateResolvedState (input : GateInput) : Decision where
  accepted := (rejections input).length = 0
  rejections := rejections input

theorem nul_notMem_sha256 (sha256 : Option Sha256) : (0 : CodeUnit) ∉ (sha256.map Sha256.text).getD [] := by
  cases sha256 with
  | none => simp
  | some hash =>
    intro h
    exact absurd (List.all_eq_true.mp hash.hexadecimal 0 h) (by decide)

theorem itemKey_injective : Function.Injective itemKey := by
  rintro ⟨⟨id, sha256⟩, surface⟩ ⟨⟨id', sha256'⟩, surface'⟩ h
  obtain ⟨hsurface, hrest⟩ := split_at_first surface.nul_notMem_name surface'.nul_notMem_name h
  obtain ⟨hid, hsha256⟩ := split_at_last (nul_notMem_sha256 sha256) (nul_notMem_sha256 sha256') hrest
  obtain rfl := ResolvedStateSurface.name_injective hsurface
  obtain rfl : id = id' := hid
  have hsame : sha256 = sha256' := by
    cases sha256 with
    | none =>
      cases sha256' with
      | none => rfl
      | some hash' =>
        have hlength := congrArg List.length hsha256
        simp [hash'.length_eq] at hlength
    | some hash =>
      cases sha256' with
      | none =>
        have hlength := congrArg List.length hsha256
        simp [hash.length_eq] at hlength
      | some hash' =>
        cases hash
        cases hash'
        obtain rfl : _ = _ := hsha256
        rfl
  rw [hsame]

theorem functional_items (items : List ProviderSpecificResolvedItem) :
    JsMap.Functional (items.map fun item => (itemKey item, item)) :=
  .of_map itemKey_injective items

theorem mem_keys_itemMap {items : List ProviderSpecificResolvedItem} {item : ProviderSpecificResolvedItem} :
    itemKey item ∈ (itemMap items).map Prod.fst ↔ item ∈ items := by
  rw [itemMap, JsMap.mem_keys, List.map_map]
  exact List.mem_map_of_injective itemKey_injective

theorem mem_itemMap {items : List ProviderSpecificResolvedItem} {entry : JsString × ProviderSpecificResolvedItem} :
    entry ∈ itemMap items ↔ entry.2 ∈ items ∧ entry.1 = itemKey entry.2 := by
  rw [itemMap, JsMap.mem_ofPairs (functional_items items)]
  obtain ⟨key, item⟩ := entry
  simp only [List.mem_map, Prod.mk.injEq]
  constructor
  · rintro ⟨a, ha, rfl, rfl⟩
    exact ⟨ha, rfl⟩
  · rintro ⟨ha, rfl⟩
    exact ⟨item, ha, rfl, rfl⟩

@[simp] theorem reject_eq_nil {c : Prop} [Decidable c] {code : RejectionCode} {detail : JsString} :
    reject c code detail = [] ↔ ¬c := by
  unfold reject
  split_ifs with h <;> simp [h]

theorem missingFrom_eq_nil {code : RejectionCode} {items others : List ProviderSpecificResolvedItem} :
    missingFrom code (itemMap items) (itemMap others) = [] ↔ ∀ item ∈ items, item ∈ others := by
  simp only [missingFrom, List.flatMap_eq_nil_iff, reject_eq_nil, not_not]
  constructor
  · intro h item hitem
    exact mem_keys_itemMap.mp (h (itemKey item, item) (mem_itemMap.mpr ⟨hitem, rfl⟩))
  · intro h entry hentry
    obtain ⟨hitem, hkey⟩ := mem_itemMap.mp hentry
    rw [hkey]
    exact mem_keys_itemMap.mpr (h entry.2 hitem)

theorem inspectSurface_eq_nil {surfaces : List ResolvedStateSurfaceAttestation} {surface : ResolvedStateSurface} :
    inspectSurface surfaces surface = [] ↔
      ∃ row, surfaces.filter (fun row => row.surface = surface) = [row] ∧ row.inspection = .verified := by
  unfold inspectSurface
  split
  · rename_i hrows
    simp [hrows]
  · rename_i row hrows
    simp [hrows]
  · rename_i rows hnil hone
    simp only [List.cons_ne_self, false_iff, not_exists, not_and]
    intro row hrow
    exact absurd hrow (hone row)

/-- What the gate asks for. -/
structure Admissible (input : GateInput) : Prop where
  revision : input.binding.profileRevisionId = input.profile.id ∧ input.binding.profileSha256 = input.profile.sha256
  executable : input.binding.executablePath.isBlank = false ∧ input.binding.executableVersion.isBlank = false
  subscription : input.binding.authAttestation.resolvedMode = .subscription
  credential : input.binding.authAttestation.credentialSource ≠ .apiKey ∧
    input.binding.authAttestation.credentialSource ≠ .unknown
  account : input.binding.authAttestation.accountPresent = true
  environment : input.binding.authAttestation.apiKeyEnvironmentVariables = []
  metadata : input.attestation.profileRevisionId = input.binding.profileRevisionId ∧
    input.attestation.profileSha256 = input.binding.profileSha256 ∧
    input.attestation.modelSkillSetId = input.binding.modelSkillSetId ∧
    input.attestation.provider = input.binding.provider ∧
    input.attestation.requestedModel = input.binding.requestedModel ∧
    input.attestation.effectiveModel = input.binding.effectiveModel
  surfaces : ∀ surface, ∃ row, input.attestation.surfaces.filter (fun row => row.surface = surface) = [row] ∧
    row.inspection = .verified
  /-- The model set, with what it makes visible. -/
  inventory : ∃ modelSet, findModelSet input.profile input.binding = some modelSet ∧
    modelSet.provider = input.binding.provider ∧ modelSet.model = input.binding.effectiveModel ∧
    ∀ item, item ∈ actualItems input.attestation.surfaces ↔ item ∈ expectedItems input.profile modelSet

theorem mem_surfaces (surface : ResolvedStateSurface) : surface ∈ CONTROLLED_PROFILE_SURFACES := by
  cases surface <;> decide

theorem accepted_iff_admissible (input : GateInput) : (evaluateResolvedState input).accepted = true ↔ Admissible input := by
  have hmetadata : attestationMatchesBinding input = true ↔
      input.attestation.profileRevisionId = input.binding.profileRevisionId ∧
        input.attestation.profileSha256 = input.binding.profileSha256 ∧
        input.attestation.modelSkillSetId = input.binding.modelSkillSetId ∧
        input.attestation.provider = input.binding.provider ∧
        input.attestation.requestedModel = input.binding.requestedModel ∧
        input.attestation.effectiveModel = input.binding.effectiveModel := by
    simp [attestationMatchesBinding, and_assoc]
  have haccepted : (evaluateResolvedState input).accepted = true ↔ rejections input = [] := by
    rw [evaluateResolvedState, decide_eq_true_eq, List.length_eq_zero_iff]
  rw [haccepted]
  simp only [rejections, List.append_eq_nil_iff, reject_eq_nil, List.flatMap_eq_nil_iff, inspectSurface_eq_nil, not_or,
    not_not, Nat.not_lt, Nat.le_zero, List.length_eq_zero_iff, Bool.not_eq_false, Bool.not_eq_true, Bool.or_eq_false_iff,
    hmetadata]
  constructor
  · rintro ⟨⟨⟨⟨⟨⟨⟨⟨hrevision, hset⟩, hexecutable⟩, hmode, hcredential⟩, haccount⟩, henvironment⟩, hmatches⟩, hsurfaces⟩,
      hinventory⟩
    cases hfind : findModelSet input.profile input.binding with
    | none => simp [hfind] at hset
    | some modelSet =>
      rw [hfind] at hset hinventory
      obtain ⟨hmissing, hunexpected⟩ := List.append_eq_nil_iff.mp hinventory
      have hexpected := missingFrom_eq_nil.mp hmissing
      have hactual := missingFrom_eq_nil.mp hunexpected
      have htarget : modelSet.provider = input.binding.provider ∧ modelSet.model = input.binding.effectiveModel := by
        simpa using hset
      exact ⟨hrevision, hexecutable, hmode, hcredential, haccount, henvironment, hmatches,
        fun surface => hsurfaces surface (mem_surfaces surface),
        modelSet, hfind, htarget.1, htarget.2, fun item => ⟨hactual item, hexpected item⟩⟩
  · intro h
    obtain ⟨modelSet, hfind, hprovider, hmodel, hitems⟩ := h.inventory
    rw [hfind]
    refine ⟨⟨⟨⟨⟨⟨⟨⟨h.revision, ?_⟩, h.executable⟩, h.subscription, h.credential⟩, h.account⟩, h.environment⟩, h.metadata⟩,
      fun surface _ => h.surfaces surface⟩, ?_⟩
    · simp [hprovider, hmodel]
    · apply List.append_eq_nil_iff.mpr
      exact ⟨missingFrom_eq_nil.mpr fun item => (hitems item).mpr, missingFrom_eq_nil.mpr fun item => (hitems item).mp⟩

/-- The same row with its items in another order. -/
def RowReordered (row row' : ResolvedStateSurfaceAttestation) : Prop :=
  row.surface = row'.surface ∧ row.inspection = row'.inspection ∧ row.items.Perm row'.items

/-- The same model set with its skills, tools and items in another order. -/
structure SetReordered (set set' : ProviderModelSkillSet) : Prop where
  id : set.id = set'.id
  provider : set.provider = set'.provider
  model : set.model = set'.model
  skills : set.skills.Perm set'.skills
  tools : set.allowedBuiltinTools.Perm set'.allowedBuiltinTools
  items : set.providerSpecificResolvedItems.Perm set'.providerSpecificResolvedItems

/-- The same input with its surfaces, items, skills and tools in another order. -/
structure InputReordered (input input' : GateInput) : Prop where
  binding : input.binding = input'.binding
  revision : input.profile.id = input'.profile.id ∧ input.profile.sha256 = input'.profile.sha256
  instructions : input.profile.instructions = input'.profile.instructions
  projectInstructions : input.profile.projectInstructions = input'.profile.projectInstructions
  modelSets : List.Forall₂ SetReordered input.profile.modelSkillSets input'.profile.modelSkillSets
  metadata : attestationMatchesBinding input = attestationMatchesBinding input'
  surfaces : Reorders RowReordered input.attestation.surfaces input'.attestation.surfaces

section
variable {input input' : GateInput} {surfaces surfaces' : List ResolvedStateSurfaceAttestation}

theorem actualItems_perm (h : Reorders RowReordered surfaces surfaces') : (actualItems surfaces).Perm (actualItems surfaces') := by
  apply h.flatMap
  rintro row row' ⟨hsurface, -, hitems⟩
  rw [hsurface]
  exact hitems.map _

theorem expectedItems_perm {profile profile' : ChannelProfileRevision} {set set' : ProviderModelSkillSet}
    (hinstructions : profile.instructions = profile'.instructions)
    (hproject : profile.projectInstructions = profile'.projectInstructions) (hset : SetReordered set set') :
    (expectedItems profile set).Perm (expectedItems profile' set') := by
  unfold expectedItems
  rw [hinstructions, hproject]
  exact (((List.Perm.refl _).append (hset.skills.map _)).append (hset.tools.map _)).append hset.items

theorem missingFrom_perm (code : RejectionCode) {items items' others others' : List ProviderSpecificResolvedItem}
    (hitems : items.Perm items') (hothers : others.Perm others') :
    (missingFrom code (itemMap items) (itemMap others)).Perm (missingFrom code (itemMap items') (itemMap others')) := by
  have hmap := JsMap.ofPairs_perm (functional_items items) (hitems.map fun item => (itemKey item, item))
  have hkeys : ∀ key, key ∈ (itemMap others).map Prod.fst ↔ key ∈ (itemMap others').map Prod.fst := by
    intro key
    rw [itemMap, itemMap, JsMap.mem_keys, JsMap.mem_keys, List.map_map, List.map_map]
    exact (hothers.map _).mem_iff
  unfold missingFrom reject
  simp only [hkeys]
  exact hmap.flatMap_right _

theorem inspectSurface_eq (h : Reorders RowReordered surfaces surfaces') (surface : ResolvedStateSurface) :
    inspectSurface surfaces surface = inspectSurface surfaces' surface := by
  obtain ⟨rows, hperm, hrows⟩ := h
  have hinspections : ((surfaces.filter fun row => row.surface = surface).map ResolvedStateSurfaceAttestation.inspection).Perm
      ((surfaces'.filter fun row => row.surface = surface).map ResolvedStateSurfaceAttestation.inspection) := by
    apply ((hperm.filter _).map _).trans
    clear hperm
    induction hrows with
    | nil => exact .nil
    | @cons row row' rows rows' hrow _ ih =>
      by_cases hsurface : row.surface = surface
      · have hsurface' : row'.surface = surface := hrow.1 ▸ hsurface
        simpa [hsurface, hsurface', hrow.2.1] using ih
      · have hsurface' : row'.surface ≠ surface := hrow.1 ▸ hsurface
        simpa [hsurface, hsurface'] using ih
  have hlength := hinspections.length_eq
  unfold inspectSurface
  generalize surfaces.filter (fun row => row.surface = surface) = l at hinspections hlength ⊢
  generalize surfaces'.filter (fun row => row.surface = surface) = l' at hinspections hlength ⊢
  match l, l', hinspections, hlength with
  | [], [], _, _ => rfl
  | [a], [b], hinspections, _ =>
    have hsame : a.inspection = b.inspection := by simpa using hinspections
    simp [hsame]
  | a :: b :: rest, a' :: b' :: rest', _, hlength =>
    have hcount : rest.length = rest'.length := by simpa using hlength
    simp [hcount]

theorem findModelSet_reordered (h : InputReordered input input') :
    Option.Rel SetReordered (findModelSet input.profile input.binding) (findModelSet input'.profile input'.binding) := by
  unfold findModelSet
  rw [← h.binding]
  have hsets := h.modelSets
  generalize input.profile.modelSkillSets = sets at hsets ⊢
  generalize input'.profile.modelSkillSets = sets' at hsets ⊢
  induction hsets with
  | nil => exact .none
  | @cons set set' sets sets' hset _ ih =>
    rw [List.find?_cons, List.find?_cons, ← hset.id]
    split
    · exact .some hset
    · exact ih

theorem rejections_reordered (h : InputReordered input input') : (rejections input).Perm (rejections input') := by
  have hset := findModelSet_reordered h
  have hsurfaces : CONTROLLED_PROFILE_SURFACES.flatMap (inspectSurface input.attestation.surfaces) =
      CONTROLLED_PROFILE_SURFACES.flatMap (inspectSurface input'.attestation.surfaces) := by
    congr 1
    funext surface
    exact inspectSurface_eq h.surfaces surface
  unfold rejections
  dsimp only
  rw [hsurfaces, h.metadata, h.binding, h.revision.1, h.revision.2]
  rw [h.binding] at hset
  generalize findModelSet input.profile input'.binding = found at hset ⊢
  generalize findModelSet input'.profile input'.binding = found' at hset ⊢
  cases hset with
  | none => exact .refl _
  | @some set set' hset =>
    have htarget : (fun found : Option ProviderModelSkillSet => found.all fun set =>
        set.provider ≠ input'.binding.provider || set.model ≠ input'.binding.effectiveModel) (some set) =
        (some set').all fun set => set.provider ≠ input'.binding.provider || set.model ≠ input'.binding.effectiveModel := by
      simp [hset.provider, hset.model]
    have hexpected := expectedItems_perm h.instructions h.projectInstructions hset
    have hactual := actualItems_perm h.surfaces
    simp only [htarget]
    apply List.Perm.append_left
    exact (missingFrom_perm _ hexpected hactual).append (missingFrom_perm _ hactual hexpected)

end

/-- The gate accepts exactly what is admissible, and no order decides what it says. -/
theorem gate_exact (input : GateInput) :
    ((evaluateResolvedState input).accepted = true ↔ Admissible input) ∧
      ∀ input', InputReordered input input' →
        (evaluateResolvedState input').accepted = (evaluateResolvedState input).accepted ∧
          (evaluateResolvedState input).rejections.Perm (evaluateResolvedState input').rejections := by
  refine ⟨accepted_iff_admissible input, fun input' h => ?_⟩
  have hperm := rejections_reordered h
  refine ⟨?_, hperm⟩
  simp only [evaluateResolvedState, hperm.length_eq]

def zeroHash : Sha256 := ⟨List.replicate 64 0x30, by simp, by decide⟩

/-- One revision with instructions and one model set, and a session that shows exactly that. -/
def plainLaunch (executableVersion : JsString) : GateInput where
  profile :=
    { id := JsString.ofString "r", name := JsString.ofString "watch", channelId := JsString.ofString "deck", version := 1,
      sha256 := zeroHash, createdAt := [], createdBySessionId := JsString.ofString "captain",
      instructions := ⟨JsString.ofString "orders", none, [], zeroHash, 0, []⟩, projectInstructions := .exclude,
      modelSkillSets := [⟨JsString.ofString "set", .codex, JsString.ofString "model", JsString.ofString "1", [], [], [],
        ⟨false, false, none, [.npmUserConfig, .browserRuntime, .sandyboxSandbox], .refl _⟩⟩] }
  binding :=
    { id := JsString.ofString "b", sessionId := JsString.ofString "s", channelId := JsString.ofString "deck",
      profileRevisionId := JsString.ofString "r", profileSha256 := zeroHash, modelSkillSetId := JsString.ofString "set",
      provider := .codex, requestedModel := JsString.ofString "model", effectiveModel := JsString.ofString "model",
      executablePath := JsString.ofString "/bin/codex", executableVersion := executableVersion,
      authAttestation := ⟨.subscription, .oauth, true, [], []⟩, resolvedStateAttestation := none, boundAt := [] }
  attestation :=
    { profileRevisionId := JsString.ofString "r", profileSha256 := zeroHash, modelSkillSetId := JsString.ofString "set",
      provider := .codex, requestedModel := JsString.ofString "model", effectiveModel := JsString.ofString "model",
      inspectedAt := [],
      surfaces := CONTROLLED_PROFILE_SURFACES.map fun surface =>
        ⟨surface, .verified, if surface = .instructions then [⟨JsString.ofString "orders", some zeroHash⟩] else []⟩ }

theorem plainLaunch_surfaces (executableVersion : JsString) (surface : ResolvedStateSurface) :
    ∃ row, (plainLaunch executableVersion).attestation.surfaces.filter (fun row => row.surface = surface) = [row] ∧
      row.inspection = .verified :=
  ⟨⟨surface, .verified, if surface = .instructions then [⟨JsString.ofString "orders", some zeroHash⟩] else []⟩, by
    cases surface <;> rfl, rfl⟩

theorem gate_accepts_plainLaunch : (evaluateResolvedState (plainLaunch (JsString.ofString "1.2"))).accepted = true := by
  apply (gate_exact _).1.mpr
  exact ⟨⟨rfl, rfl⟩, ⟨by decide +kernel, by decide +kernel⟩, rfl, ⟨by simp [plainLaunch], by simp [plainLaunch]⟩, rfl, rfl, ⟨rfl, rfl, rfl, rfl, rfl, rfl⟩,
    plainLaunch_surfaces _, _, rfl, rfl, rfl, fun _ => Iff.rfl⟩

/-- What names everything is refused if the version of the executable is blank. -/
theorem gate_refuses_blank_version :
    ¬∀ input : GateInput, (evaluateResolvedState input).accepted = true ↔
      (input.binding.profileRevisionId = input.profile.id ∧ input.binding.profileSha256 = input.profile.sha256) ∧
      input.binding.authAttestation.resolvedMode = .subscription ∧
      (input.binding.authAttestation.credentialSource ≠ .apiKey ∧
        input.binding.authAttestation.credentialSource ≠ .unknown) ∧
      input.binding.authAttestation.accountPresent = true ∧
      input.binding.authAttestation.apiKeyEnvironmentVariables = [] ∧
      attestationMatchesBinding input = true ∧
      (∀ surface, ∃ row, input.attestation.surfaces.filter (fun row => row.surface = surface) = [row] ∧
        row.inspection = .verified) ∧
      ∃ modelSet ∈ input.profile.modelSkillSets, modelSet.id = input.binding.modelSkillSetId ∧
        modelSet.provider = input.binding.provider ∧ modelSet.model = input.binding.effectiveModel ∧
        ∀ item, item ∈ actualItems input.attestation.surfaces ↔ item ∈ expectedItems input.profile modelSet := by
  intro h
  have haccepted := (h (plainLaunch (JsString.ofString " "))).mpr ⟨⟨rfl, rfl⟩, rfl, ⟨by simp [plainLaunch], by simp [plainLaunch]⟩, rfl, rfl, rfl,
    plainLaunch_surfaces _, _, List.mem_singleton.mpr rfl, rfl, rfl, rfl, fun _ => Iff.rfl⟩
  have hblank : (JsString.ofString " ").isBlank = false := (accepted_iff_admissible _).mp haccepted |>.executable.2
  revert hblank
  decide +kernel

end Wardroom.Profiles
