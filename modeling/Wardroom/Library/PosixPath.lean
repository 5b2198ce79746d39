import Mathlib.Tactic
import Wardroom.Library.JsString

/-! # Paths

Paths are joined and normalized as texts; no file is looked at. An absolute path
stays one, and no other path becomes one.
-/

namespace Wardroom.Library.PosixPath

abbrev slash : CodeUnit := 0x2F

def dot : JsString := JsString.ofString "."

def dots : JsString := JsString.ofString ".."

def isAbsolute (path : JsString) : Bool := path.head? = some slash

/-- The parts between slashes; there is one more of them than there are slashes. -/
def segments : JsString → List JsString
  | [] => [[]]
  | c :: path => if c = slash then [] :: segments path else (segments path).modifyHead (c :: ·)

/-- One step up; the last segment so far comes first. -/
def popSegment (allowAboveRoot : Bool) : List JsString → List JsString
  | top :: below => if top ≠ dots then below else if allowAboveRoot then dots :: top :: below else top :: below
  | [] => if allowAboveRoot then [dots] else []

def pushSegment (allowAboveRoot : Bool) (stack : List JsString) (segment : JsString) : List JsString :=
  if segment = [] ∨ segment = dot then stack
  else if segment = dots then popSegment allowAboveRoot stack
  else segment :: stack

def joinSegments : List JsString → JsString
  | [] => []
  | [segment] => segment
  | segment :: rest => segment ++ slash :: joinSegments rest

def normalize (path : JsString) : JsString :=
  let body := joinSegments ((segments path).foldl (pushSegment (!isAbsolute path)) []).reverse
  let trailing := if path.getLast? = some slash then [slash] else []
  if path = [] then dot
  else if isAbsolute path then slash :: if body = [] then [] else body ++ trailing
  else (if body = [] then dot else body) ++ trailing

/-- `join` of two paths. -/
def join (path name : JsString) : JsString :=
  if path = [] then normalize name
  else if name = [] then normalize path
  else normalize (path ++ slash :: name)

end Wardroom.Library.PosixPath
