import Mathlib
import Wardroom.Library.JsString

/-! # Contracts of controlled profiles

A revision pins the texts and skills that a session of a channel may see, a
binding names what a session was launched with, and an attestation says what the
provider shows. A hash is one in lowercase hexadecimal, as the store validates it.
-/

namespace Wardroom.Profiles
open Wardroom.Library

def isHexadecimal (c : CodeUnit) : Bool := (0x30 ≤ c && c ≤ 0x39) || (0x61 ≤ c && c ≤ 0x66)

/-- `/^[0-9a-f]{64}$/`. -/
structure Sha256 where
  text : JsString
  length_eq : text.length = 64
  hexadecimal : text.all isHexadecimal = true
deriving DecidableEq

inductive ControlledProvider where
  | codex | claude
deriving DecidableEq, Repr

def ControlledProvider.name : ControlledProvider → JsString
  | codex => JsString.ofString "codex"
  | claude => JsString.ofString "claude"

structure SnapshotFile where
  relativePath : JsString
  sha256 : Sha256
  byteSize : Nat
  executable : Bool
deriving DecidableEq

structure PinnedTextSnapshot where
  id : JsString
  sourcePath : Option JsString
  snapshotPath : JsString
  sha256 : Sha256
  byteSize : Nat
  text : JsString
deriving DecidableEq

structure SkillSnapshot where
  id : JsString
  name : JsString
  sourcePath : JsString
  snapshotPath : JsString
  rootSha256 : Sha256
  instruction : PinnedTextSnapshot
  files : List SnapshotFile
deriving DecidableEq

inductive ProjectInstructionsPolicy where
  | exclude
  | snapshot (snapshots : List PinnedTextSnapshot)
deriving DecidableEq

inductive ResolvedStateSurface where
  | instructions | projectInstructions | skills | plugins | hooks | memories | mcpServers | apps | webAccess | subagents | tools
deriving DecidableEq, Repr

namespace ResolvedStateSurface

def label : ResolvedStateSurface → String
  | instructions => "instructions"
  | projectInstructions => "projectInstructions"
  | skills => "skills"
  | plugins => "plugins"
  | hooks => "hooks"
  | memories => "memories"
  | mcpServers => "mcpServers"
  | apps => "apps"
  | webAccess => "webAccess"
  | subagents => "subagents"
  | tools => "tools"

def name (surface : ResolvedStateSurface) : JsString := JsString.ofString surface.label

theorem name_injective {s t : ResolvedStateSurface} (h : s.name = t.name) : s = t := by
  revert h
  cases s <;> cases t <;> decide +kernel

theorem nul_notMem_name (surface : ResolvedStateSurface) : (0 : CodeUnit) ∉ surface.name := by
  cases surface <;> decide +kernel

end ResolvedStateSurface

structure ResolvedStateItem where
  id : JsString
  sha256 : Option Sha256
deriving DecidableEq

structure ProviderSpecificResolvedItem extends ResolvedStateItem where
  surface : ResolvedStateSurface
deriving DecidableEq

inductive ToolEnvironmentKey where
  | npmUserConfig | browserRuntime | sandyboxSandbox
deriving DecidableEq, Repr

/-- The keys of the object stand in the order in which it was made. -/
structure ProfileToolEnvironment where
  npmUserConfig : Bool
  browserRuntime : Bool
  sandyboxSandbox : Option JsString
  keys : List ToolEnvironmentKey
  keys_perm : keys.Perm [.npmUserConfig, .browserRuntime, .sandyboxSandbox]
deriving DecidableEq

structure ProviderModelSkillSet where
  id : JsString
  provider : ControlledProvider
  model : JsString
  catalogVersion : JsString
  skills : List SkillSnapshot
  allowedBuiltinTools : List JsString
  providerSpecificResolvedItems : List ProviderSpecificResolvedItem
  toolEnvironment : ProfileToolEnvironment
deriving DecidableEq

structure ChannelProfileRevision where
  id : JsString
  name : JsString
  channelId : JsString
  version : Nat
  sha256 : Sha256
  createdAt : JsString
  createdBySessionId : JsString
  instructions : PinnedTextSnapshot
  projectInstructions : ProjectInstructionsPolicy
  modelSkillSets : List ProviderModelSkillSet
deriving DecidableEq

inductive ProviderCredentialSource where
  | chatgptSubscription | oauth | keychain | apiKey | unknown
deriving DecidableEq, Repr

inductive ResolvedMode where
  | subscription | api | unknown
deriving DecidableEq, Repr

/-- `requiredMode` has one value only. -/
structure ProviderAuthAttestation where
  resolvedMode : ResolvedMode
  credentialSource : ProviderCredentialSource
  accountPresent : Bool
  apiKeyEnvironmentVariables : List JsString
  verifiedAt : JsString
deriving DecidableEq

inductive ResolvedStateInspection where
  | verified | unsupported | unavailable
deriving DecidableEq, Repr

structure ResolvedStateSurfaceAttestation where
  surface : ResolvedStateSurface
  inspection : ResolvedStateInspection
  items : List ResolvedStateItem
deriving DecidableEq

structure ProviderResolvedStateAttestation where
  profileRevisionId : JsString
  profileSha256 : Sha256
  modelSkillSetId : JsString
  provider : ControlledProvider
  requestedModel : JsString
  effectiveModel : JsString
  inspectedAt : JsString
  surfaces : List ResolvedStateSurfaceAttestation
deriving DecidableEq

structure SessionProfileBinding where
  id : JsString
  sessionId : JsString
  channelId : JsString
  profileRevisionId : JsString
  profileSha256 : Sha256
  modelSkillSetId : JsString
  provider : ControlledProvider
  requestedModel : JsString
  effectiveModel : JsString
  executablePath : JsString
  executableVersion : JsString
  authAttestation : ProviderAuthAttestation
  resolvedStateAttestation : Option ProviderResolvedStateAttestation
  boundAt : JsString
deriving DecidableEq

end Wardroom.Profiles
