import Dictation.Token
/-!
# Casing of names

A name such as `newItem34` is cut into words where the case changes. How its words are cased decides
which markers are spoken before them.
-/
namespace Dictation

open Unicode

inductive Casing where
  | allCaps
  | capCamel
  | camel
  | cap
  | plain
  deriving DecidableEq, Repr

namespace Casing

def markers : Casing → List Text
  | allCaps => ["all", "caps"]
  | capCamel => ["cap", "camel"]
  | camel => ["camel"]
  | cap => ["cap"]
  | plain => []

def isUpperWord (w : Text) : Bool := w.any isUppercase && !w.any isLowercase

def isLowerWord (w : Text) : Bool := !w.any isUppercase

def isTitleWord : Text → Bool
  | [] => false
  | c :: rest => isUppercase c && !rest.any isUppercase

def ofWords (ws : List Text) : Casing :=
  match ws with
  | [] => plain
  | first :: rest =>
    if ws.all isUpperWord then allCaps
    else if ws.all isTitleWord then (if rest.isEmpty then cap else capCamel)
    else if !rest.isEmpty && isLowerWord first && rest.all isTitleWord then camel
    else plain

end Casing

/-- A piece of a name: a word between changes of case, or a stretch of digits. -/
inductive Piece where
  | word (w : Text)
  | digits (ds : Text)
  deriving DecidableEq, Repr

namespace Piece

/-- The pending word, if any, as a finished piece. -/
def finish (pending : Text) : List Piece :=
  if pending.isEmpty then [] else [word pending]

def startsLower : List Run → Bool
  | [] => false
  | r :: _ => r.category = .letter .lower

/-- Cuts runs into pieces behind a pending word. The last capital before small letters begins a word,
so `HTTPServer` reads as `HTTP` and `Server`. -/
def splitAfter : Text → List Run → List Piece
  | pending, [] => finish pending
  | pending, r :: rest =>
    match r.category with
    | .digit => finish pending ++ digits r.text :: splitAfter [] rest
    | .letter .upper =>
      if startsLower rest && 1 < r.text.length then
        finish pending ++ word r.text.dropLast :: splitAfter (r.text.drop (r.text.length - 1)) rest
      else finish pending ++ splitAfter r.text rest
    | _ => splitAfter (pending ++ r.text) rest

def split (rs : List Run) : List Piece := splitAfter [] rs

def word? : Piece → Option Text
  | word w => some w
  | digits _ => none

end Piece

end Dictation
