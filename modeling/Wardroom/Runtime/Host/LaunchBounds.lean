import Wardroom.Library.Ascii
import Wardroom.Runtime.Host.Enrollment

/-! # Which launches a host takes

The daemon looks at the identity of a launch and at nothing else of it; the host
bounds the size of the enrollment, the number of arguments and the arguments
themselves.
-/

namespace Wardroom.Runtime.Host
open Wardroom.Library Wardroom.Library.JsonText
open JsString (ofString byteLength quoted)
open RuntimeHostSpec

def textSize (extra : Nat) : Option JsString → Nat
  | none | some [] => 0
  | some text => byteLength (quoted text) + extra

def commandSize : Option (List JsString) → Nat
  | none => 0
  | some command => max 1 (command.map fun argument => byteLength (quoted argument) + 1).sum + 12

/-- The bytes of an enrollment's JSON, from the lengths of its parts as they are written there. -/
def enrollmentSize (spec : RuntimeHostSpec) (expiresAt : Nat) : Nat :=
  byteLength (quoted spec.sessionId) + textSize 13 spec.channelId + byteLength (quoted spec.runtimeId) +
    byteLength (quoted spec.homeAuthorityId) + (toString spec.generation).length + (toString expiresAt).length +
    byteLength (quoted spec.statePath) + byteLength (quoted spec.socketPath) + commandSize spec.command +
    textSize 7 spec.cwd + 276

theorem sum_optional (key : String) (extra : Nat) (hkey : byteLength (quoted (ofString key)) + 2 = extra)
    (value : Option JsString) :
    ((optionalText key value).map fun m => byteLength (quoted m.1) + byteLength m.2.write + 2).sum = textSize extra value := by
  cases value with
  | none => rfl
  | some text =>
    cases text with
    | nil => rfl
    | cons c rest =>
      change byteLength (quoted (ofString key)) + byteLength (quoted (c :: rest)) + 2 + 0 = byteLength (quoted (c :: rest)) + extra
      omega

theorem sum_command (spec : RuntimeHostSpec) :
    (spec.commandMembers.map fun m => byteLength (quoted m.1) + byteLength m.2.write + 2).sum = commandSize spec.command := by
  have hkey : byteLength (quoted (ofString "command")) = 9 := by decide
  unfold commandMembers
  cases spec.command with
  | none => rfl
  | some command =>
    have hwritable : ElementsWritable (command.map Tree.string) := elementsWritable_iff.mpr fun tree htree => by
      obtain ⟨text, -, rfl⟩ := List.mem_map.mp htree
      trivial
    have harray := byteLength_array hwritable
    rw [List.map_map] at harray
    change byteLength (quoted (ofString "command")) + byteLength (Tree.array (command.map Tree.string)).write + 2 + 0 = _
    rw [hkey, harray, commandSize]
    change 9 + (max 1 (command.map fun argument => byteLength (quoted argument) + 1).sum + 1) + 2 + 0 = _
    omega

variable {spec : RuntimeHostSpec}

theorem length_enrollment (hsecret : spec.secret.length = 32) (hproof : spec.sessionProof.length = 32)
    (expiresAt : Nat) : (spec.enrollmentPayload expiresAt).length = enrollmentSize spec expiresAt := by
  have hkeys : byteLength (quoted (ofString "version")) = 9 ∧ byteLength (quoted (ofString "sessionId")) = 11 ∧
      byteLength (quoted (ofString "runtimeId")) = 11 ∧ byteLength (quoted (ofString "homeAuthorityId")) = 17 ∧
      byteLength (quoted (ofString "generation")) = 12 ∧ byteLength (quoted (ofString "protocolVersion")) = 17 ∧
      byteLength (quoted (ofString "expiresAt")) = 11 ∧ byteLength (quoted (ofString "reconnectSecret")) = 17 ∧
      byteLength (quoted (ofString "sessionProof")) = 14 ∧ byteLength (quoted (ofString "statePath")) = 11 ∧
      byteLength (quoted (ofString "socketPath")) = 12 ∧ byteLength (quoted (ofString "ringBytes")) = 11 := by
    decide +kernel
  obtain ⟨hversion, hsession, hruntime, hhome, hgeneration, hprotocol, hexpires, hreconnect, hproofKey, hstate, hsocket,
    hring⟩ := hkeys
  have hraw (bytes : List UInt8) (h : bytes.length = 32) : byteLength (quoted (Base64.encodeRaw bytes)) = 45 := by
    rw [JsString.byteLength_quoted_of_plain (Base64.plain_encodeRaw bytes), Base64.length_encodeRaw, h]
  have hcount (n : Nat) : byteLength (count n).write = (toString n).length := byteLength_decimalText n
  have hone : (toString 1).length = 1 ∧ (toString ringBytes).length = 6 := by decide
  rw [enrollmentPayload, JsString.length_toUtf8, byteLength_object (writable_enrollment spec expiresAt) (List.cons_ne_nil _ _),
    enrollmentMembers]
  simp only [List.map_append, List.sum_append, List.map_cons, List.map_nil, List.sum_cons, List.sum_nil, member, hcount,
    sum_optional "channelId" 13 (by decide), sum_optional "cwd" 7 (by decide),
    sum_command, hversion, hsession, hruntime, hhome, hgeneration, hprotocol, hexpires, hreconnect, hproofKey, hstate,
    hsocket, hring, Tree.write, hraw _ hsecret, hraw _ hproof, hone, enrollmentSize]
  omega

/-- A specification as a creation hands it on. -/
structure Admitted (spec : RuntimeHostSpec) : Prop where
  sessionId : spec.sessionId ≠ []
  runtimeId : spec.runtimeId ≠ []
  homeAuthorityId : spec.homeAuthorityId ≠ []
  generation : 1 ≤ spec.generation
  cwd : ∀ cwd ∈ spec.cwd, PosixPath.isAbsolute cwd = true
  secret : spec.secret.length = 32
  sessionProof : spec.sessionProof.length = 32

/-- What the daemon does not look at. -/
structure Acceptable (spec : RuntimeHostSpec) (expiresAt : Nat) : Prop where
  small : enrollmentSize spec expiresAt ≤ 8192
  generation : spec.generation < 2 ^ 32
  count : (spec.command.getD []).length ≤ 64
  arguments : ∀ argument ∈ spec.command.getD [], argument ≠ [] ∧ 0 ∉ argument
  statePath : PosixPath.isAbsolute spec.statePath = true
  socketPath : PosixPath.isAbsolute spec.socketPath = true

theorem goText_eq_empty (text : JsString) : goText text = "" ↔ text = [] := by
  rw [← JsString.chars_eq_nil, goText]
  constructor
  · intro h
    have hlist := congrArg String.toList h
    rw [String.toList_ofList] at hlist
    exact hlist
  · intro h
    rw [h]

theorem nul_mem_goText (text : JsString) : '\x00' ∈ (goText text).toList ↔ 0 ∈ text := by
  rw [goText, String.toList_ofList]
  exact JsString.mem_chars_ascii (a := 0) (by decide) text

theorem isAbs_goText (text : JsString) : isAbs (goText text) = PosixPath.isAbsolute text := by
  rw [isAbs, PosixPath.isAbsolute, goText, String.toList_ofList, decide_eq_decide]
  exact JsString.head_chars_ascii (a := PosixPath.slash) (by decide) text

theorem decodeSecret_encodeRaw {secret : List UInt8} (h : secret.length = 32) :
    decodeSecret (goText (Base64.encodeRaw secret)) = some secret := by
  have hpaired : JsString.isPaired (Base64.encodeRaw secret) = true :=
    JsString.isPaired_of_all fun c hc => by
      have hplain := List.all_eq_true.mp (Base64.plain_encodeRaw secret) c hc
      simp only [JsString.isPlain, Bool.and_eq_true, decide_eq_true_eq, UInt16.lt_iff_toNat_lt, UInt16.reduceToNat] at hplain
      simp only [JsString.isSurrogate, JsString.isHigh, JsString.isLow, Bool.or_eq_false_iff, Bool.and_eq_false_iff,
        decide_eq_false_iff_not, UInt16.le_iff_toNat_le, UInt16.reduceToNat]
      omega
  have hback : ofString (goText (Base64.encodeRaw secret)) = Base64.encodeRaw secret := by
    rw [ofString, goText, String.toList_ofList]
    exact JsString.ofChars_chars hpaired
  rw [decodeSecret, hback, Base64.decodeRaw_encodeRaw, Option.filter_some, if_pos (by simp [h])]

theorem any_invalid (command : List JsString) :
    (command.map goText).any (fun arg => arg = "" || '\x00' ∈ arg.toList) = true ↔
      ∃ argument ∈ command, argument = [] ∨ 0 ∈ argument := by
  simp only [List.any_map, List.any_eq_true, Function.comp_apply, Bool.or_eq_true, decide_eq_true_eq, goText_eq_empty,
    nul_mem_goText]

variable {expiresAt : Nat}

theorem parseEnrollment_iff (hadmitted : Admitted spec) {now : Int}
    (hexpiry : now < expiresAt) (hclock : expiresAt < 2 ^ 63) :
    parseEnrollment now (spec.enrollmentPayload expiresAt) = .ok (spec.enrolled expiresAt, spec.secret) ↔
      Acceptable spec expiresAt := by
  have hsize := length_enrollment hadmitted.secret hadmitted.sessionProof expiresAt
  have hsome : enrollmentSize spec expiresAt ≠ 0 := by
    rw [enrollmentSize]
    omega
  have hdecode := decode_enrollment spec hclock
  have hcurrent : ¬ ((spec.enrolled expiresAt).version ≠ 1 ∨ (spec.enrolled expiresAt).protocolVersion ≠ Version ∨
      (spec.enrolled expiresAt).generation = 0 ∨ (spec.enrolled expiresAt).expiresAt ≤ now) := by
    have hgeneration := hadmitted.generation
    simp only [enrolled, Version]
    omega
  have hcwd : ¬ ((spec.enrolled expiresAt).cwd ≠ "" ∧ isAbs (spec.enrolled expiresAt).cwd = false) := by
    rintro ⟨hset, hrelative⟩
    have habsolute := hadmitted.cwd
    cases hcwd : spec.cwd with
    | none => simp [enrolled, hcwd, goText_eq_empty] at hset
    | some cwd =>
      simp only [enrolled, hcwd, Option.getD_some, isAbs_goText, habsolute cwd hcwd, Bool.true_eq_false] at hrelative
  have hnamed : "" ∈ [(spec.enrolled expiresAt).sessionId, (spec.enrolled expiresAt).runtimeId,
      (spec.enrolled expiresAt).homeAuthorityId, (spec.enrolled expiresAt).statePath,
      (spec.enrolled expiresAt).socketPath] ↔ spec.statePath = [] ∨ spec.socketPath = [] := by
    simp only [enrolled, List.mem_cons, List.not_mem_nil, or_false, @eq_comm _ "", goText_eq_empty, hadmitted.sessionId,
      hadmitted.runtimeId, hadmitted.homeAuthorityId, false_or]
  have hpaths : (isAbs (spec.enrolled expiresAt).statePath = false ∨ isAbs (spec.enrolled expiresAt).socketPath = false) ↔
      PosixPath.isAbsolute spec.statePath = false ∨ PosixPath.isAbsolute spec.socketPath = false := by
    simp only [enrolled, isAbs_goText]
  have hcommand : (spec.enrolled expiresAt).command = (spec.command.getD []).map goText := rfl
  have hsecret : decodeSecret (spec.enrolled expiresAt).reconnectSecret = some spec.secret :=
    decodeSecret_encodeRaw hadmitted.secret
  have hproof : decodeSecret (spec.enrolled expiresAt).sessionProof = some spec.sessionProof :=
    decodeSecret_encodeRaw hadmitted.sessionProof
  rw [parseEnrollment, hsize, hdecode]
  constructor
  · intro h
    have hbytes : ¬ (enrollmentSize spec expiresAt = 0 ∨ 8192 < enrollmentSize spec expiresAt) := by
      intro hbad
      rw [if_pos hbad] at h
      cases h
    have hsmall : spec.generation < 2 ^ 32 := by
      by_contra hlarge
      rw [if_neg hbytes, if_neg hlarge] at h
      cases h
    rw [if_neg hbytes, if_pos hsmall] at h
    dsimp only at h
    rw [if_neg hcurrent] at h
    split_ifs at h with hempty hmany hbad hrelative
    rw [hcommand, List.length_map] at hmany
    rw [hcommand, any_invalid] at hbad
    rw [hpaths] at hrelative
    have harguments : ∀ argument ∈ spec.command.getD [], argument ≠ [] ∧ 0 ∉ argument := fun argument hmem =>
      ⟨fun hnone => hbad ⟨argument, hmem, .inl hnone⟩, fun hnul => hbad ⟨argument, hmem, .inr hnul⟩⟩
    rw [not_or, Bool.not_eq_false, Bool.not_eq_false] at hrelative
    exact ⟨Nat.not_lt.mp fun hlong => hbytes (.inr hlong), hsmall, Nat.not_lt.mp hmany, harguments, hrelative.1, hrelative.2⟩
  · intro h
    have hbytes : ¬ (enrollmentSize spec expiresAt = 0 ∨ 8192 < enrollmentSize spec expiresAt) :=
      not_or.mpr ⟨hsome, Nat.not_lt.mpr h.small⟩
    have hunnamed : ¬ (spec.statePath = [] ∨ spec.socketPath = []) := by
      rintro (hnone | hnone)
      · have habsolute := h.statePath
        rw [hnone] at habsolute
        cases habsolute
      · have habsolute := h.socketPath
        rw [hnone] at habsolute
        cases habsolute
    have hcount : ¬ 64 < (spec.enrolled expiresAt).command.length := by
      rw [hcommand, List.length_map]
      exact Nat.not_lt.mpr h.count
    have hvalid : ¬ ∃ argument ∈ spec.command.getD [], argument = [] ∨ 0 ∈ argument := by
      rintro ⟨argument, hmem, hbad⟩
      exact hbad.elim (h.arguments argument hmem).1 (h.arguments argument hmem).2
    have habsolute : ¬ (PosixPath.isAbsolute spec.statePath = false ∨ PosixPath.isAbsolute spec.socketPath = false) := by
      rw [h.statePath, h.socketPath]
      simp
    rw [if_neg hbytes, if_pos h.generation]
    dsimp only
    rw [if_neg hcurrent, if_neg (hnamed.not.mpr hunnamed), if_neg hcount,
      if_neg (by rw [hcommand, any_invalid]; exact hvalid), if_neg hcwd, if_neg (hpaths.not.mpr habsolute), hsecret, hproof]

/-- What a connection adds to the identity of its runtime; nonce and id are 32 hexadecimal digits each. -/
structure HelloInput where
  expiresAt : Nat
  actions : List String
  cursor : Int
  nonce : JsString
  id : JsString

/-- The actions that the daemon connects with. -/
def helloActions : List (List String) :=
  [["observe"], ["observe", "terminate"], ["observe", "deliverMessage"],
    ["observe", "controller", "input", "resize", "signal", "terminate", "deliverMessage"]]

/-- A number that is not finite is written as null. -/
def numberTree : Option JsString → Tree
  | none => .null
  | some text => .number text

/-- `numberText n` is what JSON has for `Number(n)`, which is rounded from 2^53 on and has an exponent from 10^21 on. -/
def helloMembers (numberText : Int → Option JsString) (spec : RuntimeHostSpec) (input : HelloInput) : List (JsString × Tree) :=
  [member "version" (count 1), member "issuer" (.string (ofString "roomsd")), member "audience" (.string spec.runtimeId),
    member "sessionId" (.string spec.sessionId), member "runtimeId" (.string spec.runtimeId),
    member "homeAuthorityId" (.string spec.homeAuthorityId), member "generation" (count spec.generation),
    member "actions" (.array ((input.actions.map ofString).map .string)), member "expiry" (count input.expiresAt),
    member "nonce" (.string input.nonce), member "id" (.string input.id), member "cursor" (numberTree (numberText input.cursor)),
    member "secret" (.string (Base64.encode spec.secret))]

def encodeHello (numberText : Int → Option JsString) (spec : RuntimeHostSpec) (input : HelloInput) : List UInt8 :=
  JsString.toUtf8 (Tree.object (helloMembers numberText spec input)).write

def Proto.WireHello.zero : Proto.WireHello := ⟨⟨"", "", "", "", "", 0, [], 0, "", 0, []⟩, 0, ""⟩

def Proto.WireHello.fields : List (String × (Proto.WireHello → Tree → Option Proto.WireHello)) :=
  [("version", setField (readUint 16) fun h v => { h with version := v }),
    ("issuer", setField readText fun h v => { h with issuer := v }),
    ("audience", setField readText fun h v => { h with audience := v }),
    ("sessionId", setField readText fun h v => { h with sessionId := v }),
    ("runtimeId", setField readText fun h v => { h with runtimeId := v }),
    ("homeAuthorityId", setField readText fun h v => { h with homeAuthorityId := v }),
    ("generation", setField (readUint 32) fun h v => { h with generation := v }),
    ("actions", fun h value => (readTexts value).map fun v => { h with actions := v }),
    ("expiry", setField (readInt 64) fun h v => { h with expiry := v }),
    ("nonce", setField readText fun h v => { h with nonce := v }),
    ("id", setField readText fun h v => { h with id := v }),
    ("cursor", setField (readUint 64) fun h v => { h with cursor := v }),
    ("secret", fun h value => (readBytes value).map fun v => { h with secret := v })]

def decodeHello (payload : List UInt8) : Option Proto.WireHello := decodeRecord Proto.WireHello.fields .zero payload

/-- How JavaScript writes a finite number: as JSON has numbers, in 25 characters at most, and whole numbers up to 2^53
in digits. -/
structure NumberText (numberText : Int → Option JsString) : Prop where
  number : ∀ n, ∀ text ∈ numberText n, Number text
  short : ∀ n, ∀ text ∈ numberText n, text.length ≤ 25
  whole : ∀ n : Nat, n ≤ 2 ^ 53 → numberText n = some (decimalText n)

/-- A cursor that is written in digits and has at most 64 bits, or is not finite. -/
def Readable (numberText : Int → Option JsString) (cursor : Int) : Prop :=
  ∀ text ∈ numberText cursor, text.all isDigit = true ∧ digitsValue text < 2 ^ 64

/-- Null leaves the cursor at zero. -/
def readCursor : Option JsString → Option Nat
  | none => some 0
  | some text => parseUint 64 text

theorem number_ne_nil {text : JsString} (h : Number text) : text ≠ [] := by
  obtain ⟨-, hinteger, -, -⟩ := h
  cases hinteger with
  | zero => simp
  | digits hdigits _ => simp [hdigits.some]

variable {numberText : Int → Option JsString}

theorem readCursor_isSome (hnumber : NumberText numberText) (cursor : Int) :
    (readCursor (numberText cursor)).isSome = true ↔ Readable numberText cursor := by
  have hnumbers := hnumber.number cursor
  unfold Readable
  cases htext : numberText cursor with
  | none => exact iff_of_true rfl fun text hmem => by cases hmem
  | some text =>
    have hsome := number_ne_nil (hnumbers text htext)
    simp only [Option.mem_def, Option.some.injEq, forall_eq']
    rw [readCursor, parseUint]
    by_cases hdigits : text.all isDigit = true
    · rw [if_pos ⟨hsome, hdigits⟩]
      split_ifs with hsmall
      · exact iff_of_true rfl ⟨hdigits, hsmall⟩
      · exact iff_of_false (by simp) fun hread => hsmall hread.2
    · rw [if_neg fun hboth => hdigits hboth.2]
      exact iff_of_false (by simp) fun hread => hdigits hread.1

theorem readable_whole (hnumber : NumberText numberText) {n : Nat} (h : n ≤ 2 ^ 53) :
    Readable numberText n := by
  have hdigits := digits_decimalText n
  rw [Readable, hnumber.whole n h]
  rintro text ⟨⟩
  rw [digitsValue_decimalText]
  exact ⟨List.all_eq_true.mpr hdigits.all, by omega⟩

def greeted (spec : RuntimeHostSpec) (input : HelloInput) (cursor : Nat) : Proto.WireHello where
  issuer := "roomsd"
  audience := goText spec.runtimeId
  sessionId := goText spec.sessionId
  runtimeId := goText spec.runtimeId
  homeAuthorityId := goText spec.homeAuthorityId
  generation := spec.generation
  actions := input.actions
  expiry := input.expiresAt
  id := goText input.id
  cursor := cursor
  secret := spec.secret
  version := 1
  nonce := goText input.nonce

theorem goText_ofString (s : String) : goText (ofString s) = s := by
  rw [goText, JsString.chars_ofString, String.ofList_toList]

theorem writable_strings (texts : List JsString) : ElementsWritable (texts.map Tree.string) := by
  apply elementsWritable_iff.mpr
  intro tree htree
  obtain ⟨text, -, rfl⟩ := List.mem_map.mp htree
  trivial

theorem writable_cursor (hnumber : NumberText numberText) (cursor : Int) :
    (numberTree (numberText cursor)).Writable := by
  have hnumbers := hnumber.number cursor
  cases htext : numberText cursor with
  | none => trivial
  | some text => exact hnumbers text htext

theorem byteLength_cursor (hnumber : NumberText numberText) (cursor : Int) :
    byteLength (numberTree (numberText cursor)).write ≤ 75 := by
  have hshort := hnumber.short cursor
  cases htext : numberText cursor with
  | none => decide
  | some text => exact (JsString.byteLength_le text).trans (Nat.mul_le_mul_left 3 (hshort text htext))

theorem writable_hello (hnumber : NumberText numberText) (spec : RuntimeHostSpec)
    (input : HelloInput) : (Tree.object (helloMembers numberText spec input)).Writable := by
  apply membersWritable_iff.mpr
  simp only [helloMembers, List.forall_mem_cons, List.not_mem_nil, false_implies, implies_true, and_true]
  exact ⟨writable_count 1, trivial, trivial, trivial, trivial, trivial, writable_count _, writable_strings _, writable_count _,
    trivial, trivial, writable_cursor hnumber _, trivial⟩

variable {input : HelloInput}

theorem decode_hello (hnumber : NumberText numberText)
    (hgeneration : spec.generation < 2 ^ 32) (hexpiry : input.expiresAt < 2 ^ 63) :
    decodeHello (encodeHello numberText spec input) =
      (readCursor (numberText input.cursor)).map (greeted spec input) := by
  have htext (h : Proto.WireHello) (text : JsString) :
      readMember Proto.WireHello.fields h (member "issuer" (.string text)) = some { h with issuer := goText text } ∧
      readMember Proto.WireHello.fields h (member "audience" (.string text)) = some { h with audience := goText text } ∧
      readMember Proto.WireHello.fields h (member "sessionId" (.string text)) = some { h with sessionId := goText text } ∧
      readMember Proto.WireHello.fields h (member "runtimeId" (.string text)) = some { h with runtimeId := goText text } ∧
      readMember Proto.WireHello.fields h (member "homeAuthorityId" (.string text)) =
        some { h with homeAuthorityId := goText text } ∧
      readMember Proto.WireHello.fields h (member "nonce" (.string text)) = some { h with nonce := goText text } ∧
      readMember Proto.WireHello.fields h (member "id" (.string text)) = some { h with id := goText text } :=
    ⟨rfl, rfl, rfl, rfl, rfl, rfl, rfl⟩
  have hversion : readMember Proto.WireHello.fields .zero (member "version" (count 1)) =
      some { Proto.WireHello.zero with version := 1 } := rfl
  have hgen (h : Proto.WireHello) : readMember Proto.WireHello.fields h (member "generation" (count spec.generation)) =
      some { h with generation := spec.generation } :=
    congrArg (Option.map _) ((readUint_count 32 spec.generation).trans (if_pos hgeneration))
  have hactions (h : Proto.WireHello) : readMember Proto.WireHello.fields h
      (member "actions" (.array ((input.actions.map ofString).map .string))) = some { h with actions := input.actions } := by
    have hback : (input.actions.map ofString).map goText = input.actions := by
      have hsame : goText ∘ ofString = id := funext goText_ofString
      rw [List.map_map, hsame, List.map_id]
    exact (congrArg (Option.map _) (readTexts_strings _)).trans (by rw [hback]; rfl)
  have hexpires (h : Proto.WireHello) : readMember Proto.WireHello.fields h (member "expiry" (count input.expiresAt)) =
      some { h with expiry := input.expiresAt } := congrArg (Option.map _) (readInt_count hexpiry)
  have hcursor (h : Proto.WireHello) (text : JsString) : readMember Proto.WireHello.fields h
      (member "cursor" (.number text)) = (parseUint 64 text).map fun v => { h with cursor := v } := rfl
  have hnull (h : Proto.WireHello) : readMember Proto.WireHello.fields h (member "cursor" .null) = some h := rfl
  have hsecret (h : Proto.WireHello) : readMember Proto.WireHello.fields h
      (member "secret" (.string (Base64.encode spec.secret))) = some { h with secret := spec.secret } :=
    congrArg (Option.map _) (Base64.decode_encode spec.secret)
  rw [decodeHello, decodeRecord, encodeHello,
    Federation.ChannelResultAssembler.parseText_sent (writable_hello hnumber spec input)]
  dsimp only
  simp only [helloMembers, List.foldlM_cons, List.foldlM_nil, hversion, htext, hgen, hactions, hexpires,
    Option.bind_eq_bind, Option.bind_some]
  cases numberText input.cursor with
  | none =>
    rw [numberTree, hnull, Option.bind_some, hsecret, readCursor, Option.map_some, goText_ofString]
    rfl
  | some text =>
    rw [numberTree, hcursor, readCursor]
    cases parseUint 64 text with
    | none => rfl
    | some cursor =>
      rw [Option.map_some, Option.bind_some, hsecret, Option.map_some, goText_ofString]
      rfl

/-- A hello as the client builds it, before the year 200000. -/
structure Built (input : HelloInput) : Prop where
  actions : input.actions ∈ helloActions
  expiry : 0 < input.expiresAt ∧ input.expiresAt < 2 ^ 53
  nonce : input.nonce.length = 32
  id : input.id.length = 32

theorem valid_greeted (hadmitted : Admitted spec) (hbuilt : Built input)
    (cursor : Nat) : (greeted spec input cursor).valid = true := by
  have hactions : ∀ actions ∈ helloActions, actions ≠ [] ∧ actions.length ≤ 8 ∧ Proto.validActions [] actions = true := by
    decide +kernel
  obtain ⟨hsome, hfew, hvalid⟩ := hactions _ hbuilt.actions
  have hnonce : input.nonce ≠ [] := List.ne_nil_of_length_pos (by rw [hbuilt.nonce]; decide)
  have hid : input.id ≠ [] := List.ne_nil_of_length_pos (by rw [hbuilt.id]; decide)
  have hgeneration : spec.generation ≠ 0 := Nat.pos_iff_ne_zero.mp hadmitted.generation
  simp [Proto.WireHello.valid, greeted, Version, goText_eq_empty, hadmitted.sessionId, hadmitted.runtimeId,
    hadmitted.homeAuthorityId, hgeneration, hbuilt.expiry.1, hnonce, hid, hsome, hfew, hvalid]

theorem hello_fits (hnumber : NumberText numberText)
    (hadmitted : Admitted spec) (hsmall : enrollmentSize spec expiresAt ≤ 8192)
    (hbuilt : Built input) : HostFrame.Fits ⟨Proto.THello, encodeHello numberText spec input⟩ := by
  have hkeys : byteLength (quoted (ofString "version")) = 9 ∧ byteLength (quoted (ofString "issuer")) = 8 ∧
      byteLength (quoted (ofString "audience")) = 10 ∧ byteLength (quoted (ofString "sessionId")) = 11 ∧
      byteLength (quoted (ofString "runtimeId")) = 11 ∧ byteLength (quoted (ofString "homeAuthorityId")) = 17 ∧
      byteLength (quoted (ofString "generation")) = 12 ∧ byteLength (quoted (ofString "actions")) = 9 ∧
      byteLength (quoted (ofString "expiry")) = 8 ∧ byteLength (quoted (ofString "nonce")) = 7 ∧
      byteLength (quoted (ofString "id")) = 4 ∧ byteLength (quoted (ofString "cursor")) = 8 ∧
      byteLength (quoted (ofString "secret")) = 8 ∧ byteLength (quoted (ofString "roomsd")) = 8 := by
    decide +kernel
  obtain ⟨hversion, hissuer, haudience, hsession, hruntime, hhome, hgeneration, hactionsKey, hexpiry, hnonce, hid, hcursor,
    hsecret, hroomsd⟩ := hkeys
  have hactions : ∀ actions ∈ helloActions,
      byteLength (Tree.array ((actions.map ofString).map .string)).write ≤ 100 := by decide +kernel
  have hlist := hactions _ hbuilt.actions
  have hcount (n : Nat) : byteLength (count n).write = (toString n).length := byteLength_decimalText n
  have hdigits : (toString input.expiresAt).length ≤ 16 := by
    have hlarge := hbuilt.expiry.2
    rw [Nat.toString_eq_repr, Nat.length_repr_le_iff (by decide)]
    omega
  have hone : (toString 1).length = 1 := by decide
  have hnonceText := byteLength_quoted_le input.nonce
  have hidText := byteLength_quoted_le input.id
  rw [hbuilt.nonce] at hnonceText
  rw [hbuilt.id] at hidText
  have hnumberText := byteLength_cursor hnumber input.cursor
  have hbase : byteLength (quoted (Base64.encode spec.secret)) = 46 := by
    rw [byteLength_base64, hadmitted.secret]
  have hparts := hsmall
  rw [enrollmentSize] at hparts
  rw [HostFrame.Fits, encodeHello, JsString.length_toUtf8,
    byteLength_object (writable_hello hnumber spec input) (List.cons_ne_nil _ _)]
  simp only [helloMembers, List.map_cons, List.map_nil, List.sum_cons, List.sum_nil, member, hcount, Tree.write, hversion,
    hissuer, haudience, hsession, hruntime, hhome, hgeneration, hactionsKey, hexpiry, hnonce, hid, hcursor, hsecret, hroomsd,
    hone, hbase, HOST_FRAME_LIMIT] at hlist ⊢
  omega

/-- The host's parser takes the hello. -/
def HelloPasses (numberText : Int → Option JsString) (spec : RuntimeHostSpec) (input : HelloInput) : Prop :=
  Proto.parseFrame decodeHello (frameFor Proto.THello (encodeHello numberText spec input)) =
    .item ⟨Proto.THello, encodeHello numberText spec input⟩ ((encodeHello numberText spec input).length + 5)

theorem helloPasses_iff (hnumber : NumberText numberText)
    (hadmitted : Admitted spec) (hacceptable : Acceptable spec expiresAt)
    (hbuilt : Built input) : HelloPasses numberText spec input ↔ Readable numberText input.cursor := by
  have hfits := hello_fits hnumber hadmitted hacceptable.small hbuilt
  have hsome : encodeHello numberText spec input ≠ [] := by
    intro hnone
    have hlength := congrArg List.length hnone
    rw [encodeHello, JsString.length_toUtf8,
      byteLength_object (writable_hello hnumber spec input) (List.cons_ne_nil _ _)] at hlength
    cases hlength
  have hparse := @parseFrame_bytes decodeHello _ hfits []
  rw [List.append_nil] at hparse
  have hvalidate : Proto.validate decodeHello Proto.THello (encodeHello numberText spec input) =
      if (readCursor (numberText input.cursor)).isSome = true then none else some EBadFrame := by
    rw [Proto.validate]
    simp only [if_true, decode_hello hnumber hacceptable.generation (hbuilt.expiry.2.trans (by decide))]
    cases readCursor (numberText input.cursor) with
    | none => simp
    | some cursor => simp [valid_greeted hadmitted hbuilt, hsome]
  rw [← readCursor_isSome hnumber, HelloPasses]
  change Proto.parseFrame decodeHello (HostFrame.bytes ⟨Proto.THello, encodeHello numberText spec input⟩) = _ ↔ _
  rw [hparse]
  dsimp only
  rw [hvalidate]
  split_ifs with hread
  · refine iff_of_true ?_ hread
    dsimp only
    rw [HostFrame.length_bytes]
  · exact iff_of_false (by simp) hread

/-- Secrets of 32 bytes each, and working directories as the file system names them. -/
structure Surroundings.Genuine (around : Surroundings) : Prop where
  realpath : ∀ path result, around.realpath path = .ok result → PosixPath.isAbsolute result = true
  reconnectSecret : around.reconnectSecret.length = 32
  sessionProof : around.sessionProof.length = 32

theorem create_admitted {around : Surroundings} (haround : around.Genuine) {options : RuntimeServiceOptions}
    {request : RuntimeCreateRequest} (h : create around options request = .ok spec) :
    Admitted spec := by
  unfold create at h
  cases hcwd : canonicalProviderCwd around.realpath request.cwd with
  | error message =>
    rw [hcwd] at h
    cases h
  | ok launchCwd =>
    rw [hcwd] at h
    dsimp only at h
    split_ifs at h with hinvalid hshort
    cases h
    simp only [not_or] at hinvalid
    obtain ⟨hhome, hsession, hruntime, hlow, -⟩ := hinvalid
    refine ⟨hsession, hruntime, hhome, ?_, fun cwd hmem => ?_, haround.reconnectSecret, haround.sessionProof⟩
    · dsimp only
      omega
    · cases hrequest : request.cwd with
      | none =>
        rw [hrequest] at hcwd
        cases hcwd
        cases hmem
      | some path =>
        rw [hrequest, canonicalProviderCwd] at hcwd
        cases hreal : around.realpath path with
        | error message =>
          rw [hreal] at hcwd
          cases hcwd
        | ok result =>
          rw [hreal] at hcwd
          cases hcwd
          cases hmem
          exact haround.realpath path _ hreal

/-- The host reads the frame of the enrollment, and takes it with the fields that the daemon wrote. -/
def Enrolls (spec : RuntimeHostSpec) (expiresAt : Nat) (now : Int) : Prop :=
  ∃ bytes f, spec.encodeEnrollment expiresAt = .ok bytes ∧
    Proto.parseFrame decodeHello bytes = .item f bytes.length ∧ f.type = Proto.TEnroll ∧
    parseEnrollment now f.payload = .ok (spec.enrolled expiresAt, spec.secret)

theorem enrolls_iff (hadmitted : Admitted spec) {now : Int}
    (hexpiry : now < expiresAt) (hclock : expiresAt < 2 ^ 63) : Enrolls spec expiresAt now ↔ Acceptable spec expiresAt := by
  have hframe : Proto.TEnroll.toNat.toUInt8 = Proto.TEnroll := by decide
  have hencode : spec.encodeEnrollment expiresAt =
      if HOST_FRAME_LIMIT < (spec.enrollmentPayload expiresAt).length + 1 then .error "host frame exceeds limit"
      else .ok (HostFrame.bytes ⟨Proto.TEnroll, spec.enrollmentPayload expiresAt⟩) := by
    rw [encodeEnrollment, frame, if_neg (by decide)]
    rfl
  have hparsed (hfits : HostFrame.Fits ⟨Proto.TEnroll, spec.enrollmentPayload expiresAt⟩) :
      Proto.parseFrame decodeHello (HostFrame.bytes ⟨Proto.TEnroll, spec.enrollmentPayload expiresAt⟩) =
        .item ⟨Proto.TEnroll, spec.enrollmentPayload expiresAt⟩
          (HostFrame.bytes ⟨Proto.TEnroll, spec.enrollmentPayload expiresAt⟩).length := by
    have hparse := @parseFrame_bytes decodeHello _ hfits []
    rw [List.append_nil] at hparse
    exact hparse
  rw [← parseEnrollment_iff hadmitted hexpiry hclock]
  constructor
  · rintro ⟨bytes, f, hbytes, hparse, -, htaken⟩
    rw [hencode] at hbytes
    split_ifs at hbytes with hlong
    cases hbytes
    rw [hparsed (Nat.not_lt.mp hlong)] at hparse
    cases hparse
    exact htaken
  · intro htaken
    have hsmall := (parseEnrollment_iff hadmitted hexpiry hclock).mp htaken
    have hfits : (spec.enrollmentPayload expiresAt).length + 1 ≤ HOST_FRAME_LIMIT := by
      have hsize := hsmall.small
      rw [length_enrollment hadmitted.secret hadmitted.sessionProof, HOST_FRAME_LIMIT]
      omega
    exact ⟨_, _, by rw [hencode, if_neg (Nat.not_lt.mpr hfits)], hparsed hfits, rfl, htaken⟩

theorem long_argument_refused (hadmitted : Admitted spec) {argument : JsString}
    (hmem : argument ∈ spec.command.getD []) (hlong : 8192 < byteLength (quoted argument)) {now : Int}
    (hexpiry : now < expiresAt) (hclock : expiresAt < 2 ^ 63) : ¬ Enrolls spec expiresAt now := by
  intro henrolls
  have hsmall := ((enrolls_iff hadmitted hexpiry hclock).mp henrolls).small
  have hcommand : byteLength (quoted argument) < commandSize spec.command := by
    cases hset : spec.command with
    | none => simp [hset] at hmem
    | some command =>
      rw [hset] at hmem
      have hone : byteLength (quoted argument) + 1 ≤
          (command.map fun argument => byteLength (quoted argument) + 1).sum :=
        List.le_sum_of_mem (List.mem_map_of_mem hmem)
      rw [commandSize]
      omega
  rw [enrollmentSize] at hsmall
  omega

/-- Whole numbers up to 2^53 in digits; others are not written here. -/
def sampleNumberText (n : Int) : Option JsString := if 0 ≤ n ∧ n ≤ 2 ^ 53 then some (decimalText n.toNat) else none

theorem sampleNumberText_some {n : Int} {text : JsString} (h : text ∈ sampleNumberText n) :
    n ≤ 2 ^ 53 ∧ text = decimalText n.toNat := by
  rw [Option.mem_def, sampleNumberText] at h
  split_ifs at h with hrange
  exact ⟨hrange.2, (Option.some.inj h).symm⟩

theorem sampleNumberText_number : NumberText sampleNumberText where
  number n text h := by
    rw [(sampleNumberText_some h).2]
    exact number_decimalText _
  short n text h := by
    obtain ⟨hsmall, rfl⟩ := sampleNumberText_some h
    rw [length_decimalText, Nat.toString_eq_repr]
    exact (Nat.length_repr_le_iff (by decide)).mpr (by omega)
  whole n h := by
    have hrange : (0 : Int) ≤ n ∧ (n : Int) ≤ 2 ^ 53 := ⟨Int.natCast_nonneg n, by exact_mod_cast h⟩
    rw [sampleNumberText, if_pos hrange, Int.toNat_natCast]

def sampleAround : Surroundings where
  realpath path := if PosixPath.isAbsolute path then .ok path else .error "ENOENT"
  sha256 _ := List.replicate 64 0x30
  freshRuntimeId := ofString "runtime-1"
  reconnectSecret := List.replicate 32 1
  sessionProof := List.replicate 32 2

theorem sampleAround_genuine : sampleAround.Genuine where
  realpath path result h := by
    change (if PosixPath.isAbsolute path = true then Except.ok path else .error "ENOENT") = .ok result at h
    split_ifs at h with habsolute
    cases h
    exact habsolute
  reconnectSecret := rfl
  sessionProof := rfl

def sampleOptions : RuntimeServiceOptions := ⟨ofString "authority", ofString "/var/rooms/runtimes", ofString "/var/rooms/s"⟩

def sampleLaunch (command : List JsString) : RuntimeCreateRequest :=
  ⟨none, [], ofString "session", none, some (ofString "channel"), none, some command, some (ofString "/work")⟩

def sampleHello (cursor : Int) : HelloInput :=
  ⟨300, ["observe"], cursor, List.replicate 32 0x61, List.replicate 32 0x62⟩

theorem sampleHello_built (cursor : Int) : Built (sampleHello cursor) where
  actions := by
    change ["observe"] ∈ helloActions
    decide
  expiry := by
    change 0 < 300 ∧ 300 < 2 ^ 53
    decide
  nonce := rfl
  id := rfl

def sampleSpec (command : List JsString) : RuntimeHostSpec :=
  ⟨ofString "session", some (ofString "channel"), ofString "runtime-1", ofString "authority", 1,
    ofString "/var/rooms/runtimes",
    runtimeSocketPath sampleAround.sha256 (ofString "authority") (ofString "session") (ofString "runtime-1") 1
      (ofString "/var/rooms/s"),
    some command, some (ofString "/work"), List.replicate 32 1, List.replicate 32 2⟩

theorem sampleLaunch_created (command : List JsString) :
    create sampleAround sampleOptions (sampleLaunch command) = .ok (sampleSpec command) := rfl

end Wardroom.Runtime.Host
