import Mathlib
import Wardroom.Library.JsString
import Wardroom.Runtime.Replies.FinalReply

/-! # The turn of a provider

Whether a provider works is read from its own transcript since the last
delivery. Each adapter has a machine of its own over the records. A turn that
has begun and not ended is never shown as idle, except for claude, whose machine
does not open again.
-/

namespace Wardroom.Runtime
open Wardroom.Library ProviderRecord

inductive ProviderTurnPhase where
  | idle | thinking | streaming | tool | busy | unsupported
deriving DecidableEq, Repr

structure ProviderTurn where
  phase : Option ProviderTurnPhase
  reason : String
  updatedAt : Option String
deriving DecidableEq, Repr

/-- What the machines carry along. -/
structure TurnState where
  phase : ProviderTurnPhase
  reason : String
  updatedAt : String
deriving DecidableEq, Repr

namespace TurnState

def delivered (lastDeliverAt : String) : TurnState := ⟨.busy, "prompt-delivered", lastDeliverAt⟩

def turn (s : TurnState) : ProviderTurn := ⟨some s.phase, s.reason, some s.updatedAt⟩

end TurnState

def firstText (line : Json) (keys : List String) (otherwise : String) : String :=
  ((keys.findSome? fun key => text (line.member key))).getD otherwise

def typeIs (line : Json) (type : String) : Bool := isText (line.member "type") type

def agyError (line : Json) : Bool := isText (line.member "status") "ERROR" || isText (line.member "status") "FAILED"

def agyTool (line : Json) : Option String :=
  if typeIs line "RUN_COMMAND" then some "run_command"
  else if typeIs line "VIEW_FILE" then some "view_file"
  else if typeIs line "WRITE_FILE" then some "write_file"
  else none

def agyStep (lastDeliverAt : String) (s : TurnState) (line : Json) : TurnState :=
  let at' := firstText line ["created_at", "timestamp", "ts"] lastDeliverAt
  if agyError line then ⟨.idle, "provider_error", at'⟩
  else if typeIs line "USER_INPUT" then ⟨.thinking, "user_input", at'⟩
  else match agyTool line with
    | some tool => ⟨.tool, tool, at'⟩
    | none =>
      if ¬typeIs line "PLANNER_RESPONSE" ∨ ¬isText (line.member "source") "MODEL" then s
      else if (items (line.member "tool_calls")).length > 0 then ⟨.tool, "tool_call", at'⟩
      else if isText (line.member "status") "DONE" ∧ (cleanText (line.member "content")).isSome then
        ⟨.idle, "planner_response_done", at'⟩
      else ⟨.streaming, "planner_response", at'⟩

def resolveAgyTurn (lines : List Json) (lastDeliverAt : String) : ProviderTurn :=
  (lines.foldl (agyStep lastDeliverAt) (.delivered lastDeliverAt)).turn

def geminiContentText (value : Option Json) : Option String :=
  match value with
  | some (.arr parts) =>
    (some ("\n\n".intercalate (parts.filterMap fun part => cleanText (part.member "text")))).filter fun s => s ≠ ""
  | value => cleanText value

def geminiTranscriptLines (value : Option Json) : List Json :=
  let values := match value with
    | some (.arr values) => values
    | some value => [value]
    | none => []
  values.filter Json.isRecord

def expandGeminiLine (line : Json) : List Json :=
  match line.member "type" with
  | some (.str _) => [line]
  | _ => geminiTranscriptLines ((line.member "$set").bind fun m => m.member "messages") ++
      geminiTranscriptLines ((line.member "$push").bind fun m => m.member "messages")

def geminiStep (lastDeliverAt : String) (s : TurnState) (line : Json) : TurnState :=
  let at' := firstText line ["timestamp", "created_at", "ts"] lastDeliverAt
  if typeIs line "user" then ⟨.thinking, "user", at'⟩
  else if typeIs line "error" then ⟨.idle, "provider_error", at'⟩
  else if ¬typeIs line "gemini" then s
  else if (items (line.member "toolCalls")).length > 0 then ⟨.tool, "tool_call", at'⟩
  else if (geminiContentText (line.member "content")).isSome then ⟨.idle, "gemini_response", at'⟩
  else ⟨.streaming, "gemini_output", at'⟩

def resolveGeminiTurn (lines : List Json) (lastDeliverAt : String) : ProviderTurn :=
  (lines.foldl (geminiStep lastDeliverAt) (.delivered lastDeliverAt)).turn

structure CodexTurn extends TurnState where
  startedAt : Option String
  completedAt : Option String
deriving DecidableEq, Repr

def codexPayload (line : Json) (key : String) : Option Json := (line.member "payload").bind fun p => p.member key

/-- `line.payload?.type || line.type`. -/
def codexEvent (line : Json) : Option String := (text (codexPayload line "type")).or (text (line.member "type"))

def codexStep (lastDeliverAt : String) (s : CodexTurn) (line : Json) : CodexTurn :=
  let at' := firstText line ["timestamp"] lastDeliverAt
  let event := codexEvent line
  if event = some "task_started" then
    { phase := .thinking, reason := "task_started", updatedAt := at', startedAt := some at', completedAt := none }
  else if event = some "task_complete" then
    { phase := .idle, reason := "task_complete", updatedAt := at', startedAt := s.startedAt, completedAt := some at' }
  else if s.completedAt.isSome then s
  else if s.startedAt = none ∧ ¬typeIs line "response_item" ∧ event ≠ some "agent_message" then s
  else if isText (codexPayload line "type") "function_call" ∨ isText (codexPayload line "type") "custom_tool_call" ∨
      event = some "tool_use" then
    { s with phase := .tool, reason := "tool_call", updatedAt := at' }
  else if isText (codexPayload line "role") "assistant" ∨ event = some "agent_message" ∨
      isText (codexPayload line "type") "message" then
    { s with phase := .streaming, reason := "assistant_output", updatedAt := at' }
  else if isText (codexPayload line "type") "reasoning" then
    { s with phase := .thinking, reason := "reasoning", updatedAt := at' }
  else s

def resolveCodexTurn (lines : List Json) (lastDeliverAt : String) : ProviderTurn :=
  let s := lines.foldl (codexStep lastDeliverAt) ⟨.delivered lastDeliverAt, none, none⟩
  if s.startedAt.isSome ∧ s.completedAt = none ∧ s.phase = .busy then ⟨some .thinking, "task_started", s.startedAt⟩
  else if s.startedAt = none ∧ s.completedAt = none then ⟨some .busy, "prompt-delivered", some lastDeliverAt⟩
  else s.turn

structure OpenTurn extends TurnState where
  isOpen : Bool
deriving DecidableEq, Repr

def claudeEnds (line : Json) : Bool := typeIs line "system" && isText (line.member "subtype") "turn_duration"

/-- `content.some((part) => part.type === "tool_use")`, which stops at the first such part. -/
def someToolUse : List Json → Except String Bool
  | [] => .ok false
  | .null :: _ => .error "Cannot read properties of null (reading 'type')"
  | part :: parts => if typeIs part "tool_use" then .ok true else someToolUse parts

/-- `message?.content || []` is taken for a list. -/
def claudeUsesTool (line : Json) : Except String Bool :=
  match (((line.member "message").bind fun m => m.member "content").filter Json.truthy).getD (.arr []) with
  | .arr parts => someToolUse parts
  | _ => .error "content.some is not a function"

def claudeStep (lastDeliverAt : String) (s : OpenTurn) (line : Json) : Except String OpenTurn :=
  let at' := firstText line ["timestamp"] lastDeliverAt
  if claudeEnds line then .ok ⟨⟨.idle, "turn_duration", at'⟩, false⟩
  else if ¬s.isOpen then .ok s
  else if typeIs line "assistant" then
    (claudeUsesTool line).map fun used =>
      if used then ⟨⟨.tool, "tool_use", at'⟩, s.isOpen⟩ else ⟨⟨.streaming, "assistant_message", at'⟩, s.isOpen⟩
  else if typeIs line "user" then .ok ⟨⟨.thinking, "user_turn", at'⟩, s.isOpen⟩
  else .ok s

def resolveClaudeTurn (lines : List Json) (lastDeliverAt : String) : Except String ProviderTurn :=
  (lines.foldlM (claudeStep lastDeliverAt) ⟨.delivered lastDeliverAt, true⟩).map fun s => s.turn

def grokPhase (at' : String) (s : TurnState) (line : Json) : TurnState :=
  match text (line.member "phase") with
  | some phase =>
    if phase = "waiting_for_model" ∨ phase = "streaming_reasoning" then ⟨.thinking, phase, at'⟩
    else if phase = "streaming_text" then ⟨.streaming, phase, at'⟩
    else if phase = "tool_execution" then ⟨.tool, phase, at'⟩
    else { s with updatedAt := at' }
  | none => { s with updatedAt := at' }

def grokActivity (line : Json) : Bool := typeIs line "phase_changed" || typeIs line "tool_started" || typeIs line "first_token"

def grokStep (lastDeliverAt : String) (s : OpenTurn) (line : Json) : OpenTurn :=
  let at' := firstText line ["ts", "timestamp"] lastDeliverAt
  if typeIs line "turn_started" then ⟨⟨.thinking, "turn_started", at'⟩, true⟩
  else if typeIs line "loop_started" then ⟨⟨.thinking, "loop_started", at'⟩, true⟩
  else if typeIs line "turn_ended" then
    ⟨⟨.idle, match text (line.member "outcome") with
      | some outcome => "turn_ended:" ++ outcome
      | none => "turn_ended", at'⟩, false⟩
  -- the source opens the turn here for activity, which it has excluded in the line above
  else if ¬s.isOpen ∧ ¬grokActivity line then s
  else if typeIs line "tool_started" then ⟨⟨.tool, "tool_started", at'⟩, s.isOpen⟩
  else if isText (line.member "phase") "tool_execution" then ⟨⟨.tool, "tool_execution", at'⟩, s.isOpen⟩
  else if typeIs line "phase_changed" then ⟨grokPhase at' s.toTurnState line, s.isOpen⟩
  else if typeIs line "first_token" then ⟨⟨.streaming, "first_token", at'⟩, s.isOpen⟩
  else s

def resolveGrokTurn (lines : List Json) (lastDeliverAt : String) : ProviderTurn :=
  let s := lines.foldl (grokStep lastDeliverAt) ⟨.delivered lastDeliverAt, false⟩
  if ¬s.isOpen ∧ s.phase = .busy then ⟨some .busy, "prompt-delivered", some lastDeliverAt⟩ else s.turn

/-- `at >= lastDeliverAt`, by code units. -/
def notBefore (at' lastDeliverAt : String) : Bool := JsString.ofString lastDeliverAt ≤ JsString.ofString at'

/-- The records of the transcript that are not older than the delivery. -/
def afterDeliver (adapterKind : Option String) (lastDeliverAt : String) (transcriptLines : List Json) : List Json :=
  let lines := if adapterKind = some "gemini" then transcriptLines.flatMap expandGeminiLine else transcriptLines
  lines.filter fun line =>
    let at' := firstText line ["timestamp", "created_at", "ts"] ""
    at' ≠ "" && notBefore at' lastDeliverAt

def resolveProviderTurn (alive : Bool) (adapterKind lastDeliverAt : Option String) (transcriptLines : List Json) :
    Except String ProviderTurn :=
  if alive = false then .ok ⟨none, "runtime-not-live", none⟩
  else match lastDeliverAt.filter fun s => s ≠ "" with
    | none => .ok ⟨some .idle, "awaiting-input", none⟩
    | some lastDeliverAt =>
      let lines := afterDeliver adapterKind lastDeliverAt transcriptLines
      match adapterKind.bind Provider.ofAdapterKind with
      | some .codex => .ok (resolveCodexTurn lines lastDeliverAt)
      | some .claude => resolveClaudeTurn lines lastDeliverAt
      | some .grok => .ok (resolveGrokTurn lines lastDeliverAt)
      | some .agy => .ok (resolveAgyTurn lines lastDeliverAt)
      | some .gemini => .ok (resolveGeminiTurn lines lastDeliverAt)
      | none => .ok ⟨some .unsupported, "provider-turn-unsupported", some lastDeliverAt⟩

namespace Provider

def adapterKind : Provider → String
  | claude => "claude"
  | codex => "codex"
  | grok => "grok"
  | agy => "agy"
  | gemini => "gemini"

def reportsError (p : Provider) (line : Json) : Bool :=
  match p with
  | agy => agyError line
  | gemini => typeIs line "error"
  | _ => false

/-- A record that reports an error begins no turn. -/
def startsTurn (p : Provider) (line : Json) : Bool :=
  match p with
  | codex => codexEvent line = some "task_started"
  | claude => typeIs line "user"
  | grok => typeIs line "turn_started" || typeIs line "loop_started"
  | agy => typeIs line "USER_INPUT" && !agyError line
  | gemini => typeIs line "user"

def endsTurn (p : Provider) (line : Json) : Bool :=
  match p with
  | codex => codexEvent line = some "task_complete"
  | claude => claudeEnds line
  | grok => typeIs line "turn_ended"
  | agy => typeIs line "PLANNER_RESPONSE" && isText (line.member "source") "MODEL" &&
      (items (line.member "tool_calls")).length = 0 && isText (line.member "status") "DONE" &&
      (cleanText (line.member "content")).isSome
  | gemini => typeIs line "gemini" && (items (line.member "toolCalls")).length = 0 &&
      (geminiContentText (line.member "content")).isSome

/-- The last boundary of a turn in these records is the start of one, with nothing but records of other kinds after it. -/
def Working (p : Provider) (records earlier : List Json) (start : Json) (later : List Json) : Prop :=
  records = earlier ++ start :: later ∧ p.startsTurn start = true ∧
    ∀ line ∈ later, p.startsTurn line = false ∧ p.endsTurn line = false ∧ p.reportsError line = false

/-- The phase that a live runtime is shown in; none where its records cannot be read. -/
def shown (p : Provider) (since : String) (transcriptLines : List Json) : Option ProviderTurnPhase :=
  (resolveProviderTurn true (some p.adapterKind) (some since) transcriptLines).toOption.bind ProviderTurn.phase

/-- The last of these records ends a turn. -/
def Ended (p : Provider) (records : List Json) : Prop :=
  ∃ line, records.getLast? = some line ∧ (p.endsTurn line = true ∨ p.reportsError line = true)

end Provider

/-- An assistant record whose parts can be searched, or a record of another kind. -/
def claudeLegible (line : Json) : Bool := !typeIs line "assistant" || (claudeUsesTool line).toOption.isSome

/-- The records of claude can be read up to the first that ends a turn. -/
def ClaudeLegible (records : List Json) : Prop :=
  ∀ line ∈ records.takeWhile fun line => !claudeEnds line, claudeLegible line = true

section
variable {since : String} {line : Json}

theorem isText_iff {value : Option Json} {s : String} : isText value s = true ↔ value = some (.str s) := by
  unfold isText
  cases value with
  | none => simp
  | some value => cases value <;> simp

theorem typeIs_other {type other : String} (h : typeIs line type = true) (hne : type ≠ other) : typeIs line other = false := by
  rw [Bool.eq_false_iff]
  intro hother
  rw [typeIs, isText_iff] at h hother
  rw [h] at hother
  simp_all

theorem agyStep_idle (s : TurnState) (h : Provider.agy.endsTurn line = true ∨ Provider.agy.reportsError line = true) :
    (agyStep since s line).phase = .idle := by
  by_cases herror : agyError line = true
  · simp [agyStep, herror]
  · have hends : Provider.agy.endsTurn line = true := h.resolve_right herror
    simp only [Provider.endsTurn, Bool.and_eq_true, decide_eq_true_eq] at hends
    obtain ⟨⟨⟨⟨htype, hsource⟩, hcalls⟩, hdone⟩, htext⟩ := hends
    have hother {other : String} (hne : "PLANNER_RESPONSE" ≠ other) : typeIs line other = false := typeIs_other htype hne
    have htool : agyTool line = none := by
      simp [agyTool, hother (show "PLANNER_RESPONSE" ≠ "RUN_COMMAND" by decide),
        hother (show "PLANNER_RESPONSE" ≠ "VIEW_FILE" by decide), hother (show "PLANNER_RESPONSE" ≠ "WRITE_FILE" by decide)]
    have huser := hother (show "PLANNER_RESPONSE" ≠ "USER_INPUT" by decide)
    simp [agyStep, herror, huser, htool, htype, hsource, hcalls, hdone, htext]

theorem agyStep_working {s : TurnState} (hs : s.phase ≠ .idle) (hends : Provider.agy.endsTurn line = false)
    (herror : Provider.agy.reportsError line = false) : (agyStep since s line).phase ≠ .idle := by
  simp only [Provider.endsTurn, Provider.reportsError] at hends herror
  unfold agyStep
  cases htool : agyTool line <;> simp only [herror] <;> split_ifs <;> simp_all

theorem agyStep_start (s : TurnState) (h : Provider.agy.startsTurn line = true) : (agyStep since s line).phase ≠ .idle := by
  simp only [Provider.startsTurn, Bool.and_eq_true, Bool.not_eq_true'] at h
  simp [agyStep, h]

theorem geminiStep_idle (s : TurnState) (h : Provider.gemini.endsTurn line = true ∨ Provider.gemini.reportsError line = true) :
    (geminiStep since s line).phase = .idle := by
  rcases h with h | herror
  · simp only [Provider.endsTurn, Bool.and_eq_true, decide_eq_true_eq] at h
    obtain ⟨⟨htype, hcalls⟩, htext⟩ := h
    have huser := typeIs_other htype (show "gemini" ≠ "user" by decide)
    have herror := typeIs_other htype (show "gemini" ≠ "error" by decide)
    simp [geminiStep, htype, huser, herror, hcalls, htext]
  · have htype : typeIs line "error" = true := herror
    have huser := typeIs_other htype (show "error" ≠ "user" by decide)
    simp [geminiStep, htype, huser]

theorem geminiStep_working {s : TurnState} (hs : s.phase ≠ .idle) (hends : Provider.gemini.endsTurn line = false)
    (herror : Provider.gemini.reportsError line = false) : (geminiStep since s line).phase ≠ .idle := by
  simp only [Provider.endsTurn, Provider.reportsError] at hends herror
  unfold geminiStep
  simp only [herror]
  split_ifs <;> simp_all

theorem geminiStep_start (s : TurnState) (h : Provider.gemini.startsTurn line = true) :
    (geminiStep since s line).phase ≠ .idle := by
  have htype : typeIs line "user" = true := h
  simp [geminiStep, htype]

def CodexTurn.Running (s : CodexTurn) : Prop := s.startedAt.isSome = true ∧ s.completedAt = none ∧ s.phase ≠ .idle

theorem codexStep_end (s : CodexTurn) (h : Provider.codex.endsTurn line = true) :
    (codexStep since s line).phase = .idle ∧ (codexStep since s line).completedAt.isSome = true := by
  have hevent : codexEvent line = some "task_complete" := of_decide_eq_true h
  simp [codexStep, hevent]

theorem codexStep_start (s : CodexTurn) (h : Provider.codex.startsTurn line = true) : (codexStep since s line).Running := by
  have hevent : codexEvent line = some "task_started" := of_decide_eq_true h
  simp [codexStep, hevent, CodexTurn.Running]

theorem codexStep_running {s : CodexTurn} (hs : s.Running) (hends : Provider.codex.endsTurn line = false) :
    (codexStep since s line).Running := by
  have hevent : codexEvent line ≠ some "task_complete" := of_decide_eq_false hends
  obtain ⟨hstarted, hcompleted, hphase⟩ := hs
  unfold codexStep
  dsimp only
  split_ifs <;> simp_all [CodexTurn.Running]

theorem grokStep_end (s : OpenTurn) (h : Provider.grok.endsTurn line = true) : (grokStep since s line).phase = .idle := by
  have htype : typeIs line "turn_ended" = true := h
  have hturn := typeIs_other htype (show "turn_ended" ≠ "turn_started" by decide)
  have hloop := typeIs_other htype (show "turn_ended" ≠ "loop_started" by decide)
  simp [grokStep, htype, hturn, hloop]

theorem grokStep_start (s : OpenTurn) (h : Provider.grok.startsTurn line = true) : (grokStep since s line).phase ≠ .idle := by
  simp only [Provider.startsTurn, Bool.or_eq_true] at h
  unfold grokStep
  split_ifs <;> simp_all

theorem grokPhase_working (at' : String) (line : Json) {s : TurnState} (hs : s.phase ≠ .idle) : (grokPhase at' s line).phase ≠ .idle := by
  unfold grokPhase
  cases text (line.member "phase") with
  | none => exact hs
  | some phase =>
    dsimp only
    split_ifs <;> simp_all

theorem grokStep_working {s : OpenTurn} (hs : s.phase ≠ .idle) (hends : Provider.grok.endsTurn line = false) :
    (grokStep since s line).phase ≠ .idle := by
  have htype : typeIs line "turn_ended" = false := hends
  have hphase := grokPhase_working (firstText line ["ts", "timestamp"] since) line hs
  unfold grokStep
  split_ifs <;> simp_all

/-- The machine of claude is idle once it is closed, and it stays closed. -/
def OpenTurn.Consistent (s : OpenTurn) : Prop := s.isOpen = true ↔ s.phase ≠ .idle

theorem claudeStep_ok (since : String) (line : Json) {s : OpenTurn} (hs : s.Consistent)
    (h : s.isOpen = true → claudeEnds line = false → claudeLegible line = true) :
    ∃ s', claudeStep since s line = .ok s' ∧ s'.Consistent ∧ s'.isOpen = (s.isOpen && !claudeEnds line) := by
  unfold claudeStep
  dsimp only
  unfold OpenTurn.Consistent at hs
  cases hends : claudeEnds line with
  | true => exact ⟨_, if_pos rfl, by simp [OpenTurn.Consistent], by simp⟩
  | false =>
    rw [if_neg Bool.false_ne_true]
    cases hopen : s.isOpen with
    | false => exact ⟨s, if_pos (by decide), hs, by simp [hopen]⟩
    | true =>
      rw [if_neg (by decide)]
      by_cases hassistant : typeIs line "assistant" = true
      · have hlegible := h hopen hends
        rw [claudeLegible, hassistant, Bool.not_true, Bool.false_or] at hlegible
        rw [if_pos hassistant]
        cases hused : claudeUsesTool line with
        | error e =>
          rw [hused] at hlegible
          cases hlegible
        | ok used => exact ⟨_, rfl, by cases used <;> simp [OpenTurn.Consistent], by cases used <;> simp⟩
      · rw [if_neg hassistant]
        split_ifs
        · exact ⟨_, rfl, by simp [OpenTurn.Consistent], by simp⟩
        · exact ⟨s, rfl, hs, by simp [hopen]⟩

theorem claudeStep_error (since : String) {s : OpenTurn} (hopen : s.isOpen = true)
    (hends : claudeEnds line = false) (h : claudeLegible line = false) : ∃ e, claudeStep since s line = .error e := by
  rw [claudeLegible, Bool.or_eq_false_iff, Bool.not_eq_false'] at h
  cases hused : claudeUsesTool line with
  | ok used =>
    rw [hused] at h
    cases h.2
  | error e =>
    refine ⟨e, ?_⟩
    unfold claudeStep
    dsimp only
    rw [hends, if_neg Bool.false_ne_true, hopen, if_neg (by decide), if_pos h.1, hused]
    rfl

end

section
variable {since : String} {records earlier later : List Json} {start : Json}

theorem foldl_agy (h : Provider.agy.Working records earlier start later) :
    (records.foldl (agyStep since) (.delivered since)).phase ≠ .idle := by
  obtain ⟨rfl, hstart, hlater⟩ := h
  rw [List.foldl_append, List.foldl_cons]
  apply List.foldlRecOn (motive := fun s : TurnState => s.phase ≠ .idle) later (agyStep since) (agyStep_start _ hstart)
  intro s hs line hline
  exact agyStep_working hs (hlater line hline).2.1 (hlater line hline).2.2

theorem foldl_gemini (h : Provider.gemini.Working records earlier start later) :
    (records.foldl (geminiStep since) (.delivered since)).phase ≠ .idle := by
  obtain ⟨rfl, hstart, hlater⟩ := h
  rw [List.foldl_append, List.foldl_cons]
  apply List.foldlRecOn (motive := fun s : TurnState => s.phase ≠ .idle) later (geminiStep since) (geminiStep_start _ hstart)
  intro s hs line hline
  exact geminiStep_working hs (hlater line hline).2.1 (hlater line hline).2.2

theorem foldl_codex (h : Provider.codex.Working records earlier start later) :
    (records.foldl (codexStep since) ⟨.delivered since, none, none⟩).Running := by
  obtain ⟨rfl, hstart, hlater⟩ := h
  rw [List.foldl_append, List.foldl_cons]
  apply List.foldlRecOn later (codexStep since) (codexStep_start _ hstart)
  intro s hs line hline
  exact codexStep_running hs (hlater line hline).2.1

theorem foldl_grok (h : Provider.grok.Working records earlier start later) :
    (records.foldl (grokStep since) ⟨.delivered since, false⟩).phase ≠ .idle := by
  obtain ⟨rfl, hstart, hlater⟩ := h
  rw [List.foldl_append, List.foldl_cons]
  apply List.foldlRecOn (motive := fun s : OpenTurn => s.phase ≠ .idle) later (grokStep since) (grokStep_start _ hstart)
  intro s hs line hline
  exact grokStep_working hs (hlater line hline).2.1

theorem claude_run (since : String) (records : List Json) {s : OpenTurn} (hs : s.Consistent)
    (h : s.isOpen = true → ClaudeLegible records) : ∃ s', records.foldlM (claudeStep since) s = .ok s' ∧
      (s'.phase = .idle ↔ s.isOpen = false ∨ ∃ line ∈ records, claudeEnds line = true) := by
  induction records generalizing s with
  | nil =>
    refine ⟨s, rfl, ?_⟩
    simp only [List.not_mem_nil, false_and, exists_false, or_false]
    rw [← not_iff_not, Bool.not_eq_false]
    exact hs.symm
  | cons line rest ih =>
    obtain ⟨s₁, hstep, hs₁, hopen₁⟩ := claudeStep_ok since line hs fun hopen hends =>
      h hopen line (by rw [List.takeWhile_cons, hends]; exact List.mem_cons_self)
    have hrest : s₁.isOpen = true → ClaudeLegible rest := by
      intro hopen l hl
      rw [hopen₁, Bool.and_eq_true] at hopen
      exact h hopen.1 l (by rw [List.takeWhile_cons, if_pos hopen.2]; exact List.mem_cons_of_mem _ hl)
    obtain ⟨s', hfold, hidle⟩ := ih hs₁ hrest
    refine ⟨s', ?_, ?_⟩
    · rw [List.foldlM_cons, hstep]
      exact hfold
    · rw [hidle, hopen₁]
      cases s.isOpen <;> simp

theorem claude_run_error (since : String) {records : List Json} {s : OpenTurn} (hs : s.Consistent)
    (hopen : s.isOpen = true) (h : ¬ClaudeLegible records) : ∃ e, records.foldlM (claudeStep since) s = .error e := by
  induction records generalizing s with
  | nil => exact absurd (fun line hline => by cases hline) h
  | cons line rest ih =>
    rw [List.foldlM_cons]
    cases hends : claudeEnds line with
    | true =>
      refine absurd (fun l hl => ?_) h
      rw [List.takeWhile_cons, hends] at hl
      cases hl
    | false =>
      by_cases hlegible : claudeLegible line = true
      · obtain ⟨s₁, hstep, hs₁, hopen₁⟩ := claudeStep_ok since line hs fun _ _ => hlegible
        rw [hopen, hends] at hopen₁
        rw [hstep]
        refine ih hs₁ hopen₁ fun hrest => h fun l hl => ?_
        rw [List.takeWhile_cons, hends] at hl
        rcases List.mem_cons.mp hl with rfl | hl
        · exact hlegible
        · exact hrest l hl
      · obtain ⟨e, herror⟩ := claudeStep_error since hopen hends (Bool.eq_false_iff.mpr hlegible)
        rw [herror]
        exact ⟨e, rfl⟩

theorem delivered_consistent (since : String) : OpenTurn.Consistent ⟨.delivered since, true⟩ := by
  simp [OpenTurn.Consistent, TurnState.delivered]

theorem resolveClaudeTurn_idle (records : List Json) :
    (resolveClaudeTurn records since).toOption.bind ProviderTurn.phase = some .idle ↔
      ClaudeLegible records ∧ ∃ line ∈ records, Provider.claude.endsTurn line = true := by
  unfold resolveClaudeTurn
  by_cases h : ClaudeLegible records
  · obtain ⟨s, hfold, hidle⟩ := claude_run since records (delivered_consistent since) fun _ => h
    rw [hfold]
    change some s.phase = some .idle ↔ _
    rw [Option.some_inj, hidle]
    simp [h, Provider.endsTurn]
  · obtain ⟨e, hfold⟩ := claude_run_error since (delivered_consistent since) rfl h
    rw [hfold]
    simp [h, Except.map, Except.toOption]

theorem turn_idle_iff (s : TurnState) : s.turn.phase = some .idle ↔ s.phase = .idle := by
  simp [TurnState.turn]

theorem shown_eq {since : String} (hsince : since ≠ "") (p : Provider) (transcriptLines : List Json) :
    p.shown since transcriptLines =
      let lines := afterDeliver (some p.adapterKind) since transcriptLines
      match p with
      | .codex => (resolveCodexTurn lines since).phase
      | .claude => (resolveClaudeTurn lines since).toOption.bind ProviderTurn.phase
      | .grok => (resolveGrokTurn lines since).phase
      | .agy => (resolveAgyTurn lines since).phase
      | .gemini => (resolveGeminiTurn lines since).phase := by
  have hgiven : (some since).filter (fun s => s ≠ "") = some since := by simp [hsince]
  unfold Provider.shown resolveProviderTurn
  simp only [Bool.true_eq_false, if_false, hgiven]
  cases p <;> rfl

/-- A turn that has begun and not ended is shown as idle by claude only, and only if a turn has ended before. -/
theorem shown_working {p : Provider} (hsince : since ≠ "") {transcriptLines : List Json}
    (h : p.Working (afterDeliver (some p.adapterKind) since transcriptLines) earlier start later) :
    p.shown since transcriptLines = some .idle ↔
      p = .claude ∧ ClaudeLegible (afterDeliver (some p.adapterKind) since transcriptLines) ∧
        ∃ line ∈ earlier, p.endsTurn line = true := by
  rw [shown_eq hsince]
  dsimp only
  generalize afterDeliver (some p.adapterKind) since transcriptLines = records at h ⊢
  cases p with
  | codex =>
    obtain ⟨hstarted, hcompleted, hphase⟩ := @foldl_codex since _ _ _ _ h
    simp only [reduceCtorEq, false_and, iff_false, resolveCodexTurn]
    split_ifs <;> simp_all [TurnState.turn]
  | claude =>
    obtain ⟨rfl, hstart, hlater⟩ := h
    have hnot : claudeEnds start = false := by
      rw [claudeEnds, typeIs_other hstart (show "user" ≠ "system" by decide), Bool.false_and]
    rw [resolveClaudeTurn_idle]
    simp only [true_and]
    refine and_congr_right fun _ => ?_
    constructor
    · rintro ⟨line, hline, hends⟩
      rcases List.mem_append.mp hline with hline | hline
      · exact ⟨line, hline, hends⟩
      · rcases List.mem_cons.mp hline with rfl | hline
        · exact absurd (hnot.symm.trans hends) Bool.false_ne_true
        · exact absurd ((hlater line hline).2.1.symm.trans hends) Bool.false_ne_true
    · rintro ⟨line, hline, hends⟩
      exact ⟨line, List.mem_append_left _ hline, hends⟩
  | grok =>
    have hphase := @foldl_grok since _ _ _ _ h
    simp only [reduceCtorEq, false_and, iff_false, resolveGrokTurn]
    split_ifs <;> simp_all [TurnState.turn]
  | agy =>
    have hphase := @foldl_agy since _ _ _ _ h
    simp [resolveAgyTurn, TurnState.turn, hphase]
  | gemini =>
    have hphase := @foldl_gemini since _ _ _ _ h
    simp [resolveGeminiTurn, TurnState.turn, hphase]

theorem shown_ended {p : Provider} (hsince : since ≠ "") {transcriptLines : List Json}
    (h : p.Ended (afterDeliver (some p.adapterKind) since transcriptLines)) :
    p.shown since transcriptLines = some .idle ↔
      (p = .claude → ClaudeLegible (afterDeliver (some p.adapterKind) since transcriptLines)) := by
  rw [shown_eq hsince]
  dsimp only
  generalize afterDeliver (some p.adapterKind) since transcriptLines = records at h ⊢
  obtain ⟨line, hlast, hline⟩ := h
  obtain ⟨earlier, rfl⟩ := List.getLast?_eq_some_iff.mp hlast
  cases p with
  | codex =>
    have hends : Provider.codex.endsTurn line = true := by simpa [Provider.reportsError] using hline
    obtain ⟨hphase, hcompleted⟩ := @codexStep_end since line
      (earlier.foldl (codexStep since) ⟨.delivered since, none, none⟩) hends
    simp only [resolveCodexTurn, List.foldl_append, List.foldl_cons, List.foldl_nil, reduceCtorEq, false_implies, iff_true]
    split_ifs <;> simp_all [TurnState.turn]
  | claude =>
    have hends : Provider.claude.endsTurn line = true := by simpa [Provider.reportsError] using hline
    rw [resolveClaudeTurn_idle, and_iff_left ⟨line, by simp, hends⟩]
    exact ⟨fun hlegible _ => hlegible, fun hlegible => hlegible rfl⟩
  | grok =>
    have hends : Provider.grok.endsTurn line = true := by simpa [Provider.reportsError] using hline
    have hphase := @grokStep_end since line (earlier.foldl (grokStep since) ⟨.delivered since, false⟩) hends
    simp only [resolveGrokTurn, List.foldl_append, List.foldl_cons, List.foldl_nil, reduceCtorEq, false_implies, iff_true]
    split_ifs <;> simp_all [TurnState.turn]
  | agy =>
    simp only [reduceCtorEq, false_implies, iff_true]
    rw [resolveAgyTurn, turn_idle_iff, List.foldl_append]
    exact agyStep_idle _ hline
  | gemini =>
    simp only [reduceCtorEq, false_implies, iff_true]
    rw [resolveGeminiTurn, turn_idle_iff, List.foldl_append]
    exact geminiStep_idle _ hline

/-- A working provider is not shown idle, and one that has ended is, exactly if it is not claude, or
claude works on its first turn since the delivery and, when it has ended, its records can be read. -/
theorem working_never_idle (p : Provider) (hsince : since ≠ "") (transcriptLines : List Json) :
    ((∀ earlier start later, p.Working (afterDeliver (some p.adapterKind) since transcriptLines) earlier start later →
        p.shown since transcriptLines ≠ some .idle) ∧
      (p.Ended (afterDeliver (some p.adapterKind) since transcriptLines) → p.shown since transcriptLines = some .idle)) ↔
    (p = .claude →
      (ClaudeLegible (afterDeliver (some p.adapterKind) since transcriptLines) → ∀ earlier start later,
        p.Working (afterDeliver (some p.adapterKind) since transcriptLines) earlier start later →
          ∀ line ∈ earlier, p.endsTurn line = false) ∧
      (p.Ended (afterDeliver (some p.adapterKind) since transcriptLines) →
        ClaudeLegible (afterDeliver (some p.adapterKind) since transcriptLines))) := by
  constructor
  · rintro ⟨hworking, hended⟩ hclaude
    refine ⟨fun hlegible earlier start later h line hline => ?_, fun h => (shown_ended hsince h).mp (hended h) hclaude⟩
    rw [Bool.eq_false_iff]
    intro hends
    exact hworking earlier start later h ((shown_working hsince h).mpr ⟨hclaude, hlegible, line, hline, hends⟩)
  · intro hcond
    refine ⟨fun earlier start later h hidle => ?_, fun h => (shown_ended hsince h).mpr fun hclaude => (hcond hclaude).2 h⟩
    obtain ⟨hclaude, hlegible, line, hline, hends⟩ := (shown_working hsince h).mp hidle
    exact absurd (((hcond hclaude).1 hlegible earlier start later h line hline).symm.trans hends) Bool.false_ne_true

end

def claudeUser (at' : String) : Json := .obj [("timestamp", .str at'), ("type", .str "user")]

def claudeTurnDuration (at' : String) : Json :=
  .obj [("timestamp", .str at'), ("type", .str "system"), ("subtype", .str "turn_duration")]

def codexTask (at' event : String) : Json := .obj [("timestamp", .str at'), ("payload", .obj [("type", .str event)])]

theorem codex_never_idle_while_working :
    Provider.codex.Working
        (afterDeliver (some "codex") "1" [codexTask "2" "task_started", codexTask "3" "task_complete", codexTask "4" "task_started"])
        [codexTask "2" "task_started", codexTask "3" "task_complete"] (codexTask "4" "task_started") [] ∧
      Provider.codex.shown "1"
        [codexTask "2" "task_started", codexTask "3" "task_complete", codexTask "4" "task_started"] ≠ some .idle := by
  have hworking : Provider.codex.Working
      (afterDeliver (some "codex") "1" [codexTask "2" "task_started", codexTask "3" "task_complete", codexTask "4" "task_started"])
      [codexTask "2" "task_started", codexTask "3" "task_complete"] (codexTask "4" "task_started") [] :=
    ⟨rfl, by decide +kernel, by simp⟩
  exact ⟨hworking, ((working_never_idle .codex (by decide)
    [codexTask "2" "task_started", codexTask "3" "task_complete", codexTask "4" "task_started"]).mpr (by simp)).1 _ _ _ hworking⟩

theorem claude_works_idle :
    ¬∀ (p : Provider) (since : String) (transcriptLines earlier : List Json) (start : Json) (later : List Json), since ≠ "" →
      p.Working (afterDeliver (some p.adapterKind) since transcriptLines) earlier start later →
      p.shown since transcriptLines ≠ some .idle := by
  intro h
  apply h .claude "1" [claudeUser "2", claudeTurnDuration "3", claudeUser "4"] [claudeUser "2", claudeTurnDuration "3"]
    (claudeUser "4") [] (by decide)
  · exact ⟨rfl, by decide +kernel, by simp⟩
  · decide +kernel

end Wardroom.Runtime
