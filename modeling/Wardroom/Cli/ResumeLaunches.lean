import Mathlib
import Wardroom.Cli.SessionResume
import Wardroom.Lifecycle.SuspendResume
import Wardroom.Runtime.Native.ForgedActors

/-! # The launches of both resumes

A suspended member can be brought back with its channel or by itself. Both build
the launch from the stored member, by different rules: one goes by the descriptor
of the conversation, the other by the adapter of the member.
-/

namespace Wardroom.Cli
open Wardroom.Library Wardroom.Domain Wardroom.Storage Wardroom.Lifecycle Wardroom.Runtime

def commandLine (launch : AllowlistedLaunchConfig) : List String := launch.executable :: launch.args

/-- Both launches are the same and name the conversation. -/
def LaunchesAgree (member : ResumableMemberBlueprint) (ref : ProviderConversationRef) : Prop :=
  if member.adapterKind = "claude" then
    ref.described "provider" = some "claude" ∧
      (ref.runtimeOwned = true ∨ member.launch.executable = "claude" ∧ member.launch.args = [])
  else if member.adapterKind = "codex" then ref.described "provider" = some "codex" ∧ ref.runtimeOwned = true
  else if ref.runtimeOwned = true then ref.described "provider" = some "codex"
  else if ref.described "provider" = some "claude" then
    member.launch.executable = "claude" ∧ member.launch.args = ["--resume", ref.conversationId]
  else ref.conversationId ∈ member.launch.args

section
variable {sources : ResumeSources} {member : ResumableMemberBlueprint} {ref : ProviderConversationRef}

theorem resumeExecutable_usable (h : sources.usable member.launch.executable = true) (adapterKind : String) :
    resumeExecutable sources (some member.launch.executable) adapterKind = member.launch.executable := by
  rw [resumeExecutable, Option.filter_some_pos h]

theorem args_differ (verb id : String) (args : List String) : args ≠ verb :: id :: args := by
  intro h
  have hlength := congrArg List.length h
  rw [List.length_cons, List.length_cons] at hlength
  omega

theorem commands_agree_iff (hprovider : member.provider = some ref)
    (husable : sources.usable member.launch.executable = true) :
    (buildResumeCommand sources member.adapterKind ref.conversationId (some member) = commandLine (resumeLaunch member) ∧
      ref.conversationId ∈ (resumeLaunch member).args) ↔ LaunchesAgree member ref := by
  unfold LaunchesAgree buildResumeCommand commandLine resumeLaunch
  simp only [Option.map_some, resumeExecutable_usable husable, hprovider, Option.bind_some, Option.any_some, Option.getD_some]
  have hresume := args_differ "resume" ref.conversationId member.launch.args
  have hflag := args_differ "--resume" ref.conversationId member.launch.args
  by_cases hclaude : ref.described "provider" = some "claude"
  · simp only [hclaude]
    split_ifs <;> simp_all
  · by_cases hcodex : ref.described "provider" = some "codex"
    · split_ifs <;> simp_all
      all_goals grind
    · split_ifs <;> simp_all
      all_goals grind

/-- The launch that is planned for a stored member is the one that brings it back with its channel, and names the stored
conversation, exactly if the adapter and the descriptor of the member agree on it. -/
theorem resumes_agree {d : Daemon} {sessionId channelId : String} {channelOverride : Option String}
    {plan : SessionResumePlan} (hmember : findBlueprintMember sources sessionId channelOverride = some (channelId, member))
    (hprovider : member.provider = some ref) (husable : sources.usable member.launch.executable = true)
    (hplan : planSessionResume sources d sessionId channelOverride = .ok plan) (hdown : plan.alreadyRunning = false) :
    (plan.command = commandLine (resumeLaunch member) ∧ ref.conversationId ∈ (resumeLaunch member).args) ↔
      LaunchesAgree member ref := by
  obtain ⟨-, rfl⟩ := planSessionResume_ok hplan
  have hcommand : (resumePlan sources d sessionId channelOverride).command =
      buildResumeCommand sources member.adapterKind ref.conversationId (some member) := by
    have hplanned : (resumePlan sources d sessionId channelOverride).command =
        if (resumePlan sources d sessionId channelOverride).alreadyRunning = true then [] else
          buildResumeCommand sources (resumePlan sources d sessionId channelOverride).adapterKind
            (resumePlan sources d sessionId channelOverride).providerThreadId
            ((findBlueprintMember sources sessionId channelOverride).map Prod.snd) := rfl
    rw [hplanned, hdown, if_neg Bool.false_ne_true, hmember]
    simp [resumePlan, hmember, hprovider]
  rw [hcommand]
  exact commands_agree_iff hprovider husable

end

/-- A member as a suspension stores it: the descriptor names the adapter, and its runtime resumes the conversation. -/
def storedMember (adapterKind : String) : ResumableMemberBlueprint :=
  ⟨"deck", "mate", ⟨none, none⟩, ⟨"agent", ["--yolo"], "/work", none⟩, ⟨none, none, "1"⟩, adapterKind, "0", none, "then", 1,
    some ⟨"thread", .obj [("provider", .str adapterKind), ("mode", .str "runtime")]⟩⟩

def storedSources (adapterKind : String) : ResumeSources where
  blueprints := .ofRows [{ channelId := "deck", state := .suspended
                           blueprint := { emptyBlueprint "deck" "deck" "then" with members := [storedMember adapterKind] } }]
  proven := fun _ => false
  existsSync := fun _ => false
  registered := fun _ => none
  importCodexThread := fun _ => .ok ()

def storedDaemon : Daemon := daemonOver { Database.empty with sessions := .ofRows [plainSession "mate" (some .worker)] }

theorem resumes_agree_codex : ∃ plan, planSessionResume (storedSources "codex") storedDaemon "mate" none = .ok plan ∧
    plan.command = commandLine (resumeLaunch (storedMember "codex")) :=
  ⟨_, rfl, ((@resumes_agree (storedSources "codex") (storedMember "codex") _ storedDaemon "mate" "deck" none _ rfl rfl
    (by decide) rfl rfl).mpr ⟨by decide, by decide⟩).1⟩

/-- A member of grok comes back with its channel as a new conversation. -/
theorem resumes_differ_grok :
    ¬∀ (sources : ResumeSources) (d : Daemon) (sessionId channelId : String) (plan : SessionResumePlan)
      (member : ResumableMemberBlueprint) (ref : ProviderConversationRef),
      findBlueprintMember sources sessionId none = some (channelId, member) → member.provider = some ref →
      sources.usable member.launch.executable = true → planSessionResume sources d sessionId none = .ok plan →
      plan.alreadyRunning = false →
      plan.command = commandLine (resumeLaunch member) ∧ ref.conversationId ∈ (resumeLaunch member).args := by
  intro h
  have hgrok := (h (storedSources "grok") storedDaemon "mate" "deck" _ (storedMember "grok") _ rfl rfl (by decide) rfl rfl).1
  revert hgrok
  decide

end Wardroom.Cli
