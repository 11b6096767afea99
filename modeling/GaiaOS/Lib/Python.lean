/-
The corner of Python the modelled code runs in.

Nothing here is about one program.  `PyError` is what a call can raise, `Json` is
the value `json.loads` hands back, and the operations on it are the ones dynamic
code applies without checking first: `.get` on something that may not be a dict,
iteration over something that may not be iterable, and truth testing, where `0`,
the empty string and the empty containers all count as false.

Floats are exact rationals together with the three values `json.loads` can also
produce that are not numbers, so that a range check on a parsed float fails on
them the way it does in the source.
-/
import Mathlib.Data.Rat.Defs
import Mathlib.Algebra.Order.Ring.Rat
import Mathlib.Data.Rat.Floor
import Mathlib.Data.List.Infix

namespace GaiaOS

/-- What a modelled call can raise. -/
inductive PyError
  /-- A pydantic model refused its input; the field the error is located at. -/
  | validationError (model : String) (loc : String)
  | valueError (message : String)
  | keyError (key : String)
  | attributeError (name : String)
  | typeError (message : String)
  | indexError
  | unicodeDecodeError
  | cancelledError
  /-- Any other exception, by its text. -/
  | exception (message : String)
  deriving DecidableEq, Repr

/-- `str(exc)`. -/
def PyError.str : PyError → String
  | .validationError model loc => "validation error for " ++ model ++ ": " ++ loc
  | .valueError message => message
  | .keyError key => "'" ++ key ++ "'"
  | .attributeError name => "object has no attribute '" ++ name ++ "'"
  | .typeError message => message
  | .indexError => "list assignment index out of range"
  | .unicodeDecodeError => "'utf-8' codec can't decode bytes"
  | .cancelledError => ""
  | .exception message => message

/-- `isinstance(exc, Exception)`, which a cancellation is not. -/
def PyError.isException : PyError → Bool
  | .cancelledError => false
  | _ => true

/-- A computation that returned went through each of its steps. -/
theorem ok_of_bind {ε α β : Type} {x : Except ε α} {f : α → Except ε β} {b : β}
    (h : (x >>= f) = .ok b) : ∃ a, x = .ok a ∧ f a = .ok b := by
  cases x with
  | error e => exact absurd h (by simp [bind, Except.bind])
  | ok a => exact ⟨a, rfl, h⟩

/-- A Python float: a finite value, or one of the three `json.loads` also accepts. -/
inductive PyFloat
  | finite (q : ℚ)
  | nan
  | infinity
  | negInfinity
  deriving DecidableEq

/-- What `json.loads` returns.  Object entries keep the order of the text. -/
inductive Json
  | null
  | bool (b : Bool)
  | int (n : Int)
  | float (x : PyFloat)
  | str (s : String)
  | arr (items : List Json)
  | obj (entries : List (String × Json))

namespace Json

instance : Inhabited Json := ⟨null⟩

/-- `bool(x)`. -/
def truthy : Json → Bool
  | null => false
  | bool b => b
  | int n => n != 0
  | float (.finite q) => q != 0
  | float _ => true
  | str s => s != ""
  | arr items => !items.isEmpty
  | obj entries => !entries.isEmpty

/-- `x or y`. -/
def pyOr (x y : Json) : Json := if x.truthy then x else y

/-- The entry of a parsed object.  A later duplicate key wins, as in `json.loads`. -/
def field? (entries : List (String × Json)) (key : String) : Option Json :=
  (entries.reverse.find? fun entry => entry.1 == key).map (·.2)

/-- `x.get(key, default)`, which only a dict has. -/
def getD (x : Json) (key : String) (fallback : Json) : Except PyError Json :=
  match x with
  | obj entries => .ok ((field? entries key).getD fallback)
  | _ => .error (.attributeError "get")

/-- `x[key]` on a dict. -/
def getItem (x : Json) (key : String) : Except PyError Json :=
  match x with
  | obj entries =>
      match field? entries key with
      | some v => .ok v
      | none => .error (.keyError key)
  | _ => .error (.typeError "indices must be integers")

/-- `for item in x`: a list yields its items, a dict its keys, a string its characters. -/
def iter : Json → Except PyError (List Json)
  | arr items => .ok items
  | obj entries => .ok ((entries.map (·.1)).eraseDups.map str)
  | str s => .ok (s.toList.map fun c => str (String.singleton c))
  | _ => .error (.typeError "object is not iterable")

/-- `len(x)`. -/
def len : Json → Except PyError Nat
  | arr items => .ok items.length
  | obj entries => .ok (entries.map (·.1)).eraseDups.length
  | str s => .ok s.length
  | _ => .error (.typeError "object has no len()")

/-- `x[i]`; the keys of a parsed object are text. -/
def itemAt (x : Json) (i : Nat) : Except PyError Json :=
  match x with
  | arr items => (items[i]?).elim (.error .indexError) .ok
  | str s => (s.toList[i]?).elim (.error .indexError) fun c => .ok (str (String.singleton c))
  | obj _ => .error (.keyError (toString i))
  | _ => .error (.typeError "object is not subscriptable")

/-- The text of a JSON string. -/
def asStr? : Json → Option String
  | str s => some s
  | _ => none

end Json

/-- The integer nearest to a number, the even one of two. -/
def roundHalfEven (x : ℚ) : Int :=
  let low := x.floor
  if x - low < 1 / 2 then low
  else if 1 / 2 < x - low then low + 1
  else if low % 2 = 0 then low
  else low + 1

/-- `round(x, digits)`. -/
def pyRound (x : ℚ) (digits : Nat) : ℚ := roundHalfEven (x * 10 ^ digits) / 10 ^ digits

/-- `int(x)` of a number. -/
def pyTrunc (x : ℚ) : Int := if 0 ≤ x then x.floor else x.ceil

/-- `\s` of Python's `re` on text: the characters `str.isspace` accepts. -/
def isPySpace (c : Char) : Bool :=
  let n := c.toNat
  (9 ≤ n && n ≤ 13) || (28 ≤ n && n ≤ 32) || n == 0x85 || n == 0xa0 || n == 0x1680 ||
    (0x2000 ≤ n && n ≤ 0x200a) || n == 0x2028 || n == 0x2029 || n == 0x202f ||
    n == 0x205f || n == 0x3000

/-- `needle in hay` on text. -/
def pyIn (needle hay : String) : Bool := decide (needle.toList <:+: hay.toList)

/-- `text.strip()`. -/
def pyStrip (text : String) : String :=
  String.ofList ((text.toList.dropWhile isPySpace).reverse.dropWhile isPySpace).reverse

/-- `text.startswith(start)`. -/
def pyStartsWith (text start : String) : Bool := start.toList.isPrefixOf text.toList

/-- `text.replace(old, new)` of a single character. -/
def pyReplace (old : Char) (new text : String) : String :=
  String.ofList (text.toList.flatMap fun c => if c = old then new.toList else [c])

/-- `text[:n]`. -/
def pyTake (n : Nat) (text : String) : String := String.ofList (text.toList.take n)

/-- `text.split()`. -/
def pySplit (text : String) : List String :=
  ((text.toList.splitOnP isPySpace).filter (!·.isEmpty)).map String.ofList

/-- `text.split(separator)[0]`. -/
def pyHead (separator : Char) (text : String) : String :=
  String.ofList (text.toList.takeWhile (· ≠ separator))

/-- Digits with single underscores between them; `digit` says whether one came just before. -/
def readDigits : List Char → Bool → Nat → Option Nat
  | [], digit, n => if digit then some n else none
  | c :: rest, digit, n =>
      if c.isDigit then readDigits rest true (n * 10 + (c.toNat - '0'.toNat))
      else if c = '_' ∧ digit = true then readDigits rest false n
      else none

/-- `int(text)` for text in ASCII, with `none` for a `ValueError`. -/
def pyInt (text : String) : Option Int :=
  match (pyStrip text).toList with
  | '-' :: digits => (readDigits digits false 0).map fun n => -(n : Int)
  | '+' :: digits => (readDigits digits false 0).map fun n => (n : Int)
  | digits => (readDigits digits false 0).map fun n => (n : Int)

end GaiaOS
