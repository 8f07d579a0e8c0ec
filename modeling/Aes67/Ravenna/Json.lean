import Mathlib
import Aes67.Lib.Binary64
import Aes67.Lib.OrdMap

/-!
# JSON values, replies and TAI times

What the NMOS APIs share: the values a request body holds once it is parsed, the shape of an
answer, and the times activations are scheduled at.

* `Json` with `Json.get`, which reads a missing member as null;
* `ApiResponse`, `jsonResponse`, `errorResponse`;
* `TaiTime` with `taiText`, `parseTai`, `taiSum` and `taiReached`.
-/

namespace Aes67.Ravenna

/-! ## Values -/

/-- `JsonValue`. The members of an object stand in key order. -/
inductive Json
  | null
  | bool (b : Bool)
  | num (d : Double)
  | str (t : Text)
  | obj (members : List (Text × Json))
  | arr (items : List Json)

namespace Json

def isObject : Json → Bool
  | obj _ => true
  | _ => false

/-- `JsonValue::asObject`, empty on a value of another kind. -/
def asObject : Json → List (Text × Json)
  | obj members => members
  | _ => []

/-- `JsonValue::operator[]`. -/
def member (j : Json) (key : Text) : Json := (lookupEntry key j.asObject).getD null

/-- `JsonValue::operator[]` with a key written out. -/
def get (j : Json) (key : String) : Json := j.member key.toList

/-- A whole number. -/
def ofNat (n : ℕ) : Json := num (.fin n)

end Json

/-! ## Replies -/

/-- `ApiResponse`, with the value its body is written from. -/
structure ApiResponse where
  status : ℕ
  body : Json

def jsonResponse (status : ℕ) (value : Json) : ApiResponse := ⟨status, value⟩

/-- The summary `errorResponse` gives a status. -/
def summary (status : ℕ) : String :=
  if status = 404 then "Not Found"
  else if status = 405 then "Method Not Allowed"
  else if status = 423 then "Locked"
  else if status = 500 then "Internal Server Error"
  else if status = 501 then "Not Implemented"
  else "Bad Request"

def errorResponse (status : ℕ) (detail : Text) : ApiResponse :=
  jsonResponse status (.obj [("code".toList, .ofNat status), ("debug".toList, .str detail),
    ("error".toList, .str (summary status).toList)])

/-- An answer of the 2xx kind. -/
def ApiResponse.ok (r : ApiResponse) : Bool := 200 ≤ r.status && r.status ≤ 299

/-! ## Times -/

def kNanosPerSecond : UInt32 := 1000000000

/-- `TaiTime`. -/
structure TaiTime where
  seconds : UInt64 := 0
  nanos : UInt32 := 0
  deriving DecidableEq

def taiText (time : TaiTime) : Text :=
  showNat time.seconds.toNat ++ ':' :: showNat time.nanos.toNat

/-- `parseTai`: `<seconds>:<nanoseconds>`, digits on both sides. -/
def parseTai (text : Text) : Option TaiTime :=
  match cut [':'] text with
  | none => none
  | some (seconds, nanos) =>
    if seconds = [] ∨ nanos = [] then none
    else if ¬ (seconds.all Char.isDigit ∧ nanos.all Char.isDigit) then none
    else match stoull seconds, stoull nanos with
      | some s, some n =>
        if n ≥ kNanosPerSecond.toNat then none else some ⟨.ofNat s, .ofNat n⟩
      | _, _ => none

def taiSum (left right : TaiTime) : TaiTime :=
  let nanos := left.nanos + right.nanos
  if nanos ≥ kNanosPerSecond then
    ⟨left.seconds + right.seconds + 1, nanos - kNanosPerSecond⟩
  else ⟨left.seconds + right.seconds, nanos⟩

def taiReached (due now : TaiTime) : Bool :=
  if now.seconds ≠ due.seconds then now.seconds > due.seconds else now.nanos ≥ due.nanos

end Aes67.Ravenna
