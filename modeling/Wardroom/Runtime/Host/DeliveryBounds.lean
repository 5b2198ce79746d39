import Mathlib
import Wardroom.Federation.ChannelResult
import Wardroom.Library.Base64
import Wardroom.Library.JsonNumber
import Wardroom.Library.JsonSize
import Wardroom.Runtime.Host.Client
import Wardroom.Runtime.Host.Deliveries
import Wardroom.Runtime.Host.Framing

/-! # The bounds of a delivery

The client checks a delivery and sends it as JSON, its frames in base64. The
host parses the frame and the JSON, and checks the delivery again.
-/

namespace Wardroom.Runtime.Host
open Wardroom.Library Wardroom.Library.JsonText
open JsString (ofString byteLength isPaired quoted byteLength_append_of_paired isPaired_quoted)

def deliveryTree (input : DeliverMessageInput) : Tree :=
  .object [
    (ofString "id", .string (ofString input.id)),
    (ofString "frames", .array (input.frames.map fun frame => .string (Base64.encode frame))),
    (ofString "delaysMs", .array (input.delaysMs.map fun delay => .number (ofString (toString delay))))]

/-- `Buffer.from(JSON.stringify(…))`. -/
def deliveryPayload (input : DeliverMessageInput) : List UInt8 := JsString.toUtf8 (deliveryTree input).write

/-- What `deliverMessage` writes to the socket, if it does not throw. -/
def deliveryFrame (input : DeliverMessageInput) : Except String (List UInt8) :=
  if input.id = "" ∨ input.frames = [] ∨ 64 < input.frames.length ∨ input.frames.length ≠ input.delaysMs.length then
    .error "invalid delivery transaction"
  else if 1048576 < (input.frames.map List.length).sum ∨ 5000 < input.delaysMs.sum ∨
      (∃ frame ∈ input.frames, 65536 < frame.length) ∨ ∃ delay ∈ input.delaysMs, delay < 0 ∨ 5000 < delay then
    .error "delivery transaction exceeds bounds"
  else .ok (frameFor Proto.TDeliverMessage (deliveryPayload input))

/-- On an empty composer these start a mode of the provider. -/
def guarded (body : String) : String :=
  match body.toList with
  | c :: _ => if c = '!' ∨ c = '/' ∨ c = '#' then " " ++ body else body
  | [] => body

/-- The text, and a distinct Enter after it; the service decodes the base64 of its frames again. -/
def encodeProviderSubmission (body : String) : List (List UInt8) × List Int :=
  ([Utf8.encode (guarded body).toList, Utf8.encode ['\r']], [0, 75])

def providerDelivery (messageId body : String) : DeliverMessageInput :=
  ⟨messageId, (encodeProviderSubmission body).1, (encodeProviderSubmission body).2⟩

/-- Names of fields are compared without regard to case. -/
def foldUnit (c : CodeUnit) : CodeUnit :=
  if 0x41 ≤ c ∧ c ≤ 0x5A then c + 0x20 else if c = 0x17F then 0x73 else if c = 0x212A then 0x6B else c

def isField (name : String) (key : JsString) : Bool := key.map foldUnit = (ofString name).map foldUnit

/-- `strconv.ParseUint` of a number in JSON. -/
def parseUint (width : Nat) (text : JsString) : Option Nat :=
  if text ≠ [] ∧ text.all isDigit then
    if digitsValue text < 2 ^ width then some (digitsValue text) else none
  else none

/-- Null leaves the zero value. -/
def readUint (width : Nat) : Tree → Option Nat
  | .number text => parseUint width text
  | .null => some 0
  | _ => none

/-- A `[]byte` is base64, or an array of bytes. -/
def readBytes : Tree → Option (List UInt8)
  | .string text => Base64.decode text
  | .array elements => elements.mapM fun element => (readUint 8 element).map Nat.toUInt8
  | .null => some []
  | _ => none

def readSlice {α : Type} (read : Tree → Option α) : Tree → Option (List α)
  | .array elements => elements.mapM read
  | .null => some []
  | _ => none

/-- Unknown fields are refused. -/
def readField (tx : Delivery) (key : JsString) (value : Tree) : Option Delivery :=
  if isField "id" key then
    match value with
    | .string text => some { tx with id := String.ofList (JsString.chars text) }
    | .null => some tx
    | _ => none
  else if isField "frames" key then (readSlice readBytes value).map fun frames => { tx with frames }
  else if isField "delaysMs" key then (readSlice (readUint 32) value).map fun delays => { tx with delays }
  else none

/-- `decodeStrict` into the fields of a delivery. -/
def decodeDelivery (payload : List UInt8) : Option Delivery :=
  match Federation.parseText treeBuilder (JsString.ofUtf8 payload) with
  | .ok (.object members) => members.foldlM (fun tx member => readField tx member.1 member.2) ⟨"", [], []⟩
  | .ok .null => some ⟨"", [], []⟩
  | _ => none

/-- The bytes of the payload, from the lengths of its parts. -/
def encodedSize (input : DeliverMessageInput) : Nat :=
  byteLength (quoted (ofString input.id)) + (input.frames.map fun frame => (frame.length + 2) / 3 * 4 + 3).sum +
    (input.delaysMs.map fun delay => (toString delay).length + 1).sum + 31

section Payload
variable {input : DeliverMessageInput}

def beforeId : JsString := ofString "\x7b\"id\":"
def beforeFrames : JsString := ofString ",\"frames\":["
def beforeDelays : JsString := ofString "],\"delaysMs\":["

def frameTrees (input : DeliverMessageInput) : List Tree := input.frames.map fun frame => .string (Base64.encode frame)

def delayTrees (input : DeliverMessageInput) : List Tree :=
  input.delaysMs.map fun delay => .number (ofString (toString delay))

theorem write_delivery (input : DeliverMessageInput) :
    (deliveryTree input).write = beforeId ++ (quoted (ofString input.id) ++ (beforeFrames ++
      (commaSeparated (writeElements (frameTrees input)) ++ (beforeDelays ++
        (commaSeparated (writeElements (delayTrees input)) ++ [closeBracket, closeBrace]))))) := by
  have hid : beforeId = openBrace :: (quoted (ofString "id") ++ [colon]) := by decide
  have hframes : beforeFrames = comma :: (quoted (ofString "frames") ++ [colon, openBracket]) := by decide
  have hdelays : beforeDelays = closeBracket :: comma :: (quoted (ofString "delaysMs") ++ [colon, openBracket]) := by
    decide
  rw [hid, hframes, hdelays]
  simp [deliveryTree, frameTrees, delayTrees, Tree.write, writeMembers, commaSeparated]

theorem writable_frames (input : DeliverMessageInput) : ElementsWritable (frameTrees input) := by
  apply elementsWritable_iff.mpr
  intro tree htree
  obtain ⟨frame, -, rfl⟩ := List.mem_map.mp htree
  trivial

theorem toString_delay {delay : Int} (h : 0 ≤ delay) : ofString (toString delay) = decimalText delay.toNat := by
  obtain ⟨n, rfl⟩ := Int.eq_ofNat_of_zero_le h
  rfl

theorem writable_delays (h : ∀ delay ∈ input.delaysMs, 0 ≤ delay) : ElementsWritable (delayTrees input) := by
  apply elementsWritable_iff.mpr
  intro tree htree
  obtain ⟨delay, hdelay, rfl⟩ := List.mem_map.mp htree
  rw [toString_delay (h delay hdelay)]
  exact number_decimalText _

theorem writable_delivery (h : ∀ delay ∈ input.delaysMs, 0 ≤ delay) : (deliveryTree input).Writable :=
  ⟨trivial, writable_frames input, writable_delays h, trivial⟩

theorem byteLength_base64 (bytes : List UInt8) :
    byteLength (quoted (Base64.encode bytes)) = (bytes.length + 2) / 3 * 4 + 2 := by
  have hplain : (Base64.encode bytes).all JsString.isPlain = true := by
    apply List.all_eq_true.mpr
    intro c hc
    obtain ⟨-, -, hquote, hbackslash, hlow, hhigh⟩ := Base64.plain_encode bytes hc
    simp [JsString.isPlain, hquote, hbackslash, hlow, hhigh]
  rw [JsString.byteLength_quoted_of_plain hplain, Base64.length_encode]

theorem length_payload (hframes : input.frames ≠ []) (hdelays : input.delaysMs ≠ [])
    (h : ∀ delay ∈ input.delaysMs, 0 ≤ delay) : (deliveryPayload input).length = encodedSize input := by
  have hf := byteLength_elements (writable_frames input) (by simpa [frameTrees] using hframes)
  have hd := byteLength_elements (writable_delays h) (by simpa [delayTrees] using hdelays)
  have hfixed : byteLength beforeId = 6 ∧ byteLength beforeFrames = 11 ∧ byteLength beforeDelays = 14 ∧
      byteLength [closeBracket, closeBrace] = 2 := by decide
  obtain ⟨hid, hbf, hbd, hlast⟩ := hfixed
  have hfsum : ((frameTrees input).map fun tree => byteLength tree.write + 1) =
      input.frames.map fun frame => (frame.length + 2) / 3 * 4 + 3 := by
    rw [frameTrees, List.map_map]
    apply List.map_congr_left
    intro frame _
    simp [Tree.write, byteLength_base64]
  have hdsum : ((delayTrees input).map fun tree => byteLength tree.write + 1) =
      input.delaysMs.map fun delay => (toString delay).length + 1 := by
    rw [delayTrees, List.map_map]
    apply List.map_congr_left
    intro delay hdelay
    obtain ⟨n, rfl⟩ := Int.eq_ofNat_of_zero_le (h delay hdelay)
    exact congrArg (· + 1) (byteLength_decimalText n)
  rw [hfsum] at hf
  rw [hdsum] at hd
  rw [deliveryPayload, JsString.length_toUtf8, write_delivery, byteLength_append_of_paired (by decide),
    byteLength_append_of_paired (isPaired_quoted _), byteLength_append_of_paired (by decide),
    byteLength_append_of_paired (isPaired_elements _ (writable_frames input)),
    byteLength_append_of_paired (by decide), byteLength_append_of_paired (isPaired_elements _ (writable_delays h)),
    hid, hbf, hbd, hlast, encodedSize, ← hf, ← hd]
  omega

theorem mapM_map {α β γ : Type} {write : α → β} {read : β → Option γ} {value : α → γ} {as : List α}
    (h : ∀ a ∈ as, read (write a) = some (value a)) : (as.map write).mapM read = some (as.map value) := by
  induction as with
  | nil => rfl
  | cons a as ih =>
    rw [List.map_cons, List.mapM_cons, h a List.mem_cons_self, ih fun b hb => h b (List.mem_cons_of_mem _ hb)]
    rfl

theorem readUint_decimalText {width n : Nat} (h : n < 2 ^ width) :
    readUint width (.number (decimalText n)) = some n := by
  have hdigits := digits_decimalText n
  have hall : (decimalText n).all isDigit = true := List.all_eq_true.mpr hdigits.all
  rw [readUint, parseUint, if_pos ⟨hdigits.some, hall⟩, digitsValue_decimalText, if_pos h]

/-- The delivery that the payload stands for. -/
def received (input : DeliverMessageInput) : Delivery := ⟨input.id, input.frames, input.delaysMs.map Int.toNat⟩

theorem decodeDelivery_payload (h : ∀ delay ∈ input.delaysMs, 0 ≤ delay ∧ delay ≤ 5000) :
    decodeDelivery (deliveryPayload input) = some (received input) := by
  have hframes : readSlice readBytes (.array (frameTrees input)) = some input.frames := by
    have hmap := @mapM_map _ _ _ (fun frame => Tree.string (Base64.encode frame)) readBytes id input.frames
      fun frame _ => Base64.decode_encode frame
    rw [List.map_id] at hmap
    exact hmap
  have hdelays : readSlice (readUint 32) (.array (delayTrees input)) = some (input.delaysMs.map Int.toNat) := by
    apply mapM_map
    intro delay hdelay
    obtain ⟨hlow, hhigh⟩ := h delay hdelay
    rw [toString_delay hlow]
    exact readUint_decimalText (by omega)
  have hid (tx : Delivery) : readField tx (ofString "id") (.string (ofString input.id)) = some { tx with id := input.id } := by
    rw [readField, if_pos (by decide), JsString.chars_ofString, String.ofList_toList]
  have hframesField (tx : Delivery) : readField tx (ofString "frames") (.array (frameTrees input)) =
      some { tx with frames := input.frames } := by
    unfold readField
    rw [if_neg (by decide), if_pos (by decide), hframes]
    rfl
  have hdelaysField (tx : Delivery) : readField tx (ofString "delaysMs") (.array (delayTrees input)) =
      some { tx with delays := input.delaysMs.map Int.toNat } := by
    unfold readField
    rw [if_neg (by decide), if_neg (by decide), if_pos (by decide), hdelays]
    rfl
  have hparse := Federation.ChannelResultAssembler.parseText_sent (writable_delivery fun delay hdelay => (h delay hdelay).1)
  rw [decodeDelivery, deliveryPayload, hparse, deliveryTree]
  dsimp only
  rw [List.foldlM_cons, hid]
  change (readField _ (ofString "frames") (.array (frameTrees input)) >>= _) = _
  rw [hframesField]
  change (readField _ (ofString "delaysMs") (.array (delayTrees input)) >>= _) = _
  rw [hdelaysField]
  rfl

/-- What the checks of the client come to. -/
structure Checked (input : DeliverMessageInput) : Prop where
  id : input.id ≠ ""
  frames : input.frames ≠ []
  count : input.frames.length ≤ 64
  delays : input.frames.length = input.delaysMs.length
  bytes : (input.frames.map List.length).sum ≤ 1048576
  time : input.delaysMs.sum ≤ 5000
  each : ∀ frame ∈ input.frames, frame.length ≤ 65536
  wait : ∀ delay ∈ input.delaysMs, 0 ≤ delay ∧ delay ≤ 5000

theorem deliveryFrame_eq (input : DeliverMessageInput) (bytes : List UInt8) :
    deliveryFrame input = .ok bytes ↔
      Checked input ∧ bytes = frameFor Proto.TDeliverMessage (deliveryPayload input) := by
  constructor
  · intro h
    rw [deliveryFrame] at h
    split_ifs at h with hinvalid hover
    cases h
    simp only [not_or, not_exists, not_and, not_lt, ne_eq, not_not] at hinvalid hover
    exact ⟨⟨hinvalid.1, hinvalid.2.1, hinvalid.2.2.1, hinvalid.2.2.2, hover.1, hover.2.1, hover.2.2.1, hover.2.2.2⟩, rfl⟩
  · rintro ⟨h, rfl⟩
    rw [deliveryFrame, if_neg, if_neg]
    · simp only [not_or, not_exists, not_and, not_lt]
      exact ⟨h.bytes, h.time, h.each, h.wait⟩
    · simp only [not_or, not_lt, ne_eq, not_not]
      exact ⟨h.id, h.frames, h.count, h.delays⟩

theorem sum_toNat : ∀ {delays : List Int}, (∀ delay ∈ delays, 0 ≤ delay) → ((delays.map Int.toNat).sum : Int) = delays.sum
  | [], _ => rfl
  | delay :: delays, h => by
    rw [List.map_cons, List.sum_cons, List.sum_cons, Nat.cast_add, sum_toNat fun d hd => h d (List.mem_cons_of_mem _ hd),
      Int.toNat_of_nonneg (h delay List.mem_cons_self)]

theorem valid_received (h : Checked input) : (received input).valid = true := by
  have htime := sum_toNat fun delay hdelay => (h.wait delay hdelay).1
  have hle := h.time
  have hsum : (input.delaysMs.map Int.toNat).sum ≤ 5000 := by omega
  have hcount : (input.delaysMs.map Int.toNat).length = input.frames.length := by
    rw [List.length_map, h.delays]
  have heach : input.frames.all (fun frame => frame.length ≤ 65536) = true :=
    List.all_eq_true.mpr fun frame hframe => decide_eq_true (h.each frame hframe)
  simp [Delivery.valid, received, h.id, h.frames, h.count, h.bytes, hsum, hcount, heach]

end Payload

/-- The checks that a fresh delivery passes in a host with room for it, whose child lives. -/
def Passes (tx : Delivery) : Prop := ∀ (s : RuntimeHost) (i : Nat) (c : Conn), s.exited = none →
  s.delivered.find? tx.id = none → s.delivered.rows.length < maxDeliveries →
    s.checkDelivery i c (some tx) = s.setConn i { c with handler := .validated tx } ∧
      s.countDelivery i c tx = s.setConn i { c with handler := .counted tx } ∧
      ∀ frame bytes, tx.frames[frame]? = some bytes → bytes.length ≤ 65536 ∧ tx.delays.getD frame 0 ≤ 5000

/-- What the host makes of the frame of a delivery. -/
structure Taken (input : DeliverMessageInput) (bytes : List UInt8) : Prop where
  small : bytes.length ≤ MaxFrame + 4
  parsed (decodeStrict : List UInt8 → Option Proto.WireHello) (more : List UInt8) :
    Proto.parseFrame decodeStrict (bytes ++ more) =
      .item ⟨Proto.TDeliverMessage, deliveryPayload input⟩ bytes.length
  decoded : decodeDelivery (deliveryPayload input) = some (received input)
  passes : Passes (received input)

/-- What the client does not look at: the growth of the payload, and the length of the id. -/
def Carried (input : DeliverMessageInput) : Prop :=
  encodedSize input + 1 ≤ MaxFrame ∧ input.id.utf8ByteSize ≤ 256

def aloneHost : RuntimeHost := .initial ⟨"session", "runtime", "authority", 1⟩ 4 [7]

def idleConn : Conn := ⟨true, true, none, .idle, .idle, []⟩

instance (input : DeliverMessageInput) : Decidable (Carried input) := inferInstanceAs (Decidable (_ ∧ _))

theorem passes_received {input : DeliverMessageInput} (h : Checked input) :
    Passes (received input) ↔ input.id.utf8ByteSize ≤ 256 := by
  constructor
  · intro hpasses
    by_contra hlong
    obtain ⟨-, hcounted, -⟩ := hpasses { aloneHost with conns := [idleConn] } 0 idleConn rfl rfl (by decide)
    have hrejected : RuntimeHost.countDelivery { aloneHost with conns := [idleConn] } 0 idleConn (received input) =
        RuntimeHost.reject { aloneHost with conns := [idleConn] } 0 idleConn EBadFrame "delivery capacity" := by
      have hfind : ({ aloneHost with conns := [idleConn] } : RuntimeHost).delivered.find? (received input).id = none := rfl
      rw [RuntimeHost.countDelivery, hfind]
      exact if_pos (.inl (Nat.lt_of_not_le hlong))
    rw [hrejected] at hcounted
    have hconns := congrArg RuntimeHost.conns hcounted
    simp [RuntimeHost.reject, RuntimeHost.setConn] at hconns
  · intro hshort s i c halive hfresh hroom
    refine ⟨?_, ?_, fun frame bytes hframe => ⟨h.each bytes (List.mem_of_getElem? hframe), ?_⟩⟩
    · rw [RuntimeHost.checkDelivery, halive, if_neg (by simp), Option.filter_some, if_pos (valid_received h)]
    · rw [RuntimeHost.countDelivery, hfresh]
      exact if_neg fun hfull => hfull.elim (fun hlong => absurd hshort (Nat.not_le.mpr hlong)) (Nat.not_le.mpr hroom)
    · rw [List.getD_eq_getElem?_getD]
      cases hdelay : (received input).delays[frame]? with
      | none => simp
      | some n =>
        obtain ⟨delay, hmem, rfl⟩ := List.mem_map.mp (List.mem_of_getElem? hdelay)
        have hwait := h.wait delay hmem
        simp
        omega

/-- The host takes exactly those deliveries, of what the client lets through, that are short enough on the wire. -/
theorem taken_iff {input : DeliverMessageInput} {bytes : List UInt8} (h : deliveryFrame input = .ok bytes) :
    Taken input bytes ↔ Carried input := by
  obtain ⟨hchecked, rfl⟩ := (deliveryFrame_eq input bytes).mp h
  have hdelays : input.delaysMs ≠ [] := by
    intro hnil
    have hlength := hchecked.delays
    rw [hnil] at hlength
    exact hchecked.frames (List.eq_nil_of_length_eq_zero hlength)
  have hsize := length_payload hchecked.frames hdelays fun delay hdelay => (hchecked.wait delay hdelay).1
  have hbytes : (frameFor Proto.TDeliverMessage (deliveryPayload input)) =
      HostFrame.bytes ⟨Proto.TDeliverMessage, deliveryPayload input⟩ := rfl
  rw [hbytes]
  constructor
  · intro htaken
    have hsmall := htaken.small
    rw [HostFrame.length_bytes, hsize] at hsmall
    exact ⟨by omega, (passes_received hchecked).mp htaken.passes⟩
  · rintro ⟨hfits, hid⟩
    refine ⟨?_, fun decodeStrict more => ?_, decodeDelivery_payload hchecked.wait,
      (passes_received hchecked).mpr hid⟩
    · rw [HostFrame.length_bytes, hsize]
      omega
    · have hframe : HostFrame.Fits ⟨Proto.TDeliverMessage, deliveryPayload input⟩ := by
        rw [HostFrame.Fits, hsize]
        exact hfits
      rw [parseFrame_bytes hframe more]
      rfl

theorem providerDelivery_checked {messageId : String} (hid : messageId ≠ "") (body : String) :
    Checked (providerDelivery messageId body) ↔ (Utf8.encode (guarded body).toList).length ≤ 65536 := by
  have henter : (Utf8.encode ['\r']).length = 1 := by decide
  constructor
  · exact fun h => h.each _ List.mem_cons_self
  · intro hbody
    refine ⟨hid, by simp [providerDelivery, encodeProviderSubmission], by simp [providerDelivery,
      encodeProviderSubmission], rfl, ?_, by simp [providerDelivery, encodeProviderSubmission], ?_, ?_⟩
    · simp only [providerDelivery, encodeProviderSubmission, List.map_cons, List.map_nil, List.sum_cons, List.sum_nil,
        henter]
      omega
    · intro frame hframe
      rcases List.mem_pair.mp hframe with rfl | rfl
      · exact hbody
      · rw [henter]
        omega
    · intro delay hdelay
      rcases List.mem_pair.mp hdelay with rfl | rfl <;> omega

/-- Of a delivery that the client lets through, the host takes exactly those that are short enough on the wire; and
a message makes such a delivery exactly if it fits a frame of the terminal. -/
theorem delivery_bounds (input : DeliverMessageInput) (bytes : List UInt8) (messageId body : String) :
    (deliveryFrame input = .ok bytes → (Taken input bytes ↔ Carried input)) ∧
      (messageId ≠ "" →
        ((∃ bytes, deliveryFrame (providerDelivery messageId body) = .ok bytes) ↔
          (Utf8.encode (guarded body).toList).length ≤ 65536)) := by
  refine ⟨fun h => taken_iff h, fun hid => ?_⟩
  rw [← providerDelivery_checked hid body]
  constructor
  · rintro ⟨bytes, hbytes⟩
    exact ((deliveryFrame_eq _ _).mp hbytes).1
  · exact fun h => ⟨_, (deliveryFrame_eq _ _).mpr ⟨h, rfl⟩⟩

theorem delivery_bounds_ahoy :
    (Taken (providerDelivery "event_1" "/ahoy")
      (frameFor Proto.TDeliverMessage (deliveryPayload (providerDelivery "event_1" "/ahoy")))) ∧
      ∃ bytes, deliveryFrame (providerDelivery "event_1" "/ahoy") = .ok bytes := by
  have hchecked : Checked (providerDelivery "event_1" "/ahoy") :=
    (providerDelivery_checked (by decide) "/ahoy").mpr (by decide)
  have hbounds := delivery_bounds (providerDelivery "event_1" "/ahoy")
    (frameFor Proto.TDeliverMessage (deliveryPayload (providerDelivery "event_1" "/ahoy"))) "event_1" "/ahoy"
  exact ⟨(hbounds.1 ((deliveryFrame_eq _ _).mpr ⟨hchecked, rfl⟩)).mpr (by decide +kernel),
    (hbounds.2 (by decide)).mpr (by decide)⟩

/-- So many frames of so many zeros. -/
def zeros (bytes frames : Nat) : DeliverMessageInput :=
  ⟨"d", List.replicate frames (List.replicate bytes 0), List.replicate frames 0⟩

theorem zeros_checked {bytes frames : Nat} (hone : 1 ≤ frames) (hcount : frames ≤ 64) (hbytes : bytes ≤ 65536)
    (hall : frames * bytes ≤ 1048576) : Checked (zeros bytes frames) := by
  refine ⟨by simp [zeros], ?_, ?_, ?_, ?_, ?_, ?_, ?_⟩
  · simp only [zeros, ne_eq, List.replicate_eq_nil_iff]
    omega
  · simpa [zeros] using hcount
  · simp [zeros]
  · simpa [zeros] using hall
  · simp [zeros]
  · intro frame hframe
    rw [List.eq_of_mem_replicate hframe, List.length_replicate]
    exact hbytes
  · intro delay hdelay
    rw [List.eq_of_mem_replicate hdelay]
    omega

theorem le_encodedSize_zeros (bytes frames : Nat) : frames * ((bytes + 2) / 3 * 4) ≤ encodedSize (zeros bytes frames) := by
  rw [encodedSize, zeros, List.map_replicate, List.sum_replicate_nat, List.length_replicate, Nat.mul_add]
  omega

theorem length_letters (n : Nat) :
    (Utf8.encode (guarded (String.ofList (List.replicate (n + 1) 'x'))).toList).length = n + 1 := by
  have hplain : guarded (String.ofList (List.replicate (n + 1) 'x')) = String.ofList (List.replicate (n + 1) 'x') := by
    rw [guarded, String.toList_ofList, List.replicate_succ]
    rfl
  have hone (k : Nat) : (Utf8.encode (List.replicate k 'x')).length = k := by
    induction k with
    | zero => rfl
    | succ k ih =>
      rw [List.replicate_succ, Utf8.encode, List.flatMap_cons, List.length_append]
      change 1 + (Utf8.encode (List.replicate k 'x')).length = _
      rw [ih]
      omega
  rw [hplain, String.toList_ofList, hone]

/-- The client lets through a megabyte, which is more than a frame once it is base64; and a long message makes no
delivery. -/
theorem megabyte_refused :
    (∃ input bytes, deliveryFrame input = .ok bytes ∧ ¬ Taken input bytes) ∧
      ∃ body, ∀ bytes, deliveryFrame (providerDelivery "event_1" body) ≠ .ok bytes := by
  constructor
  · have hframe := (deliveryFrame_eq (zeros 65536 16) _).mpr
      ⟨zeros_checked (by omega) (by omega) (by omega) (by omega), rfl⟩
    refine ⟨zeros 65536 16, _, hframe, fun htaken => ?_⟩
    have hcarried := ((taken_iff hframe).mp htaken).1
    have hsize := le_encodedSize_zeros 65536 16
    unfold MaxFrame at hcarried
    omega
  · refine ⟨String.ofList (List.replicate (65536 + 1) 'x'), fun bytes hbytes => ?_⟩
    have hfits := (providerDelivery_checked (by decide) _).mp ((deliveryFrame_eq _ _).mp hbytes).1
    rw [length_letters] at hfits
    omega

end Wardroom.Runtime.Host
