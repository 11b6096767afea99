/-
Python objects, for code that walks and serialises values it knows nothing about.

Only the distinctions such code makes are kept: containers, text and numbers, callables
and classes, and anything else by a tag.  Bytes are lists of octets, text is encoded and
decoded as UTF-8.
-/
import GaiaOS.Lib.Dict
import GaiaOS.Lib.Python

namespace GaiaOS

/-- A Python value.  `mapping` is a dict, a `ChainMap` or any other mapping. -/
inductive PyObj
  | none
  | bool (b : Bool)
  | int (n : Int)
  | float (x : PyFloat)
  | str (s : String)
  | bytes (b : List UInt8)
  | tuple (items : List PyObj)
  | list (items : List PyObj)
  | set (items : List PyObj)
  | mapping (entries : List (PyObj × PyObj))
  /-- A callable that is not a class. -/
  | callable (tag : Nat)
  | type (tag : Nat)
  | other (tag : Nat)

namespace PyObj

instance : Inhabited PyObj := ⟨none⟩

def isStr (text : String) : PyObj → Bool
  | str s => s = text
  | _ => false

/-- `callable(val)`: a class is callable too. -/
def isCallable : PyObj → Bool
  | callable _ | type _ => true
  | _ => false

/-- `d[key]` for a text key. -/
def getItem (key : String) : PyObj → Except PyError PyObj
  | mapping entries =>
      match entries.find? fun entry => entry.1.isStr key with
      | some entry => .ok entry.2
      | .none => .error (.keyError key)
  | _ => .error (.typeError "indices must be integers")

/-- A dict with text keys. -/
def dict (d : Dict String PyObj) : PyObj := mapping (d.entries.map fun entry => (str entry.1, entry.2))

end PyObj

/-! ### UTF-8 -/

/-- `text.encode("utf-8")`. -/
def encodeUtf8 (text : String) : List UInt8 := text.toUTF8.data.toList

/-- `data.decode("utf-8")`, with `none` for a `UnicodeDecodeError`. -/
def decodeUtf8 (data : List UInt8) : Option String := String.fromUTF8? ⟨data.toArray⟩

end GaiaOS
