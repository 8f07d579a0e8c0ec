import Aes67.Discovery.SAPListener
import Aes67.Discovery.SAPAnnouncer

/-!
# Reading SAP packets

`SAPListener::parseAnnouncement`, and the listener's loop from the bytes a socket hands it. A
`std::string` of the listener is the characters of its bytes.

* `parseSDPInfo`: the name, the address and the port of a description;
* `parseAnnouncement`: what a datagram says;
* `SAPListener.receive`: one datagram, as long as the buffer of the loop takes it;
* **`parseAnnouncement_announced`**, **`parseAnnouncement_withdrawn`**: what the listener reads in
  the announcer's packets.
-/

namespace Aes67

open Ravenna.DnsSd (Octets octets put16)

/-- The characters of a string of bytes. -/
def textOf (s : Octets) : Text := s.map fun c => Char.ofNat c.toNat

/-! ## The description -/

/-- What follows the last space of a `c=` line, up to its suffix. -/
def connectionAddress (line : Text) : Text :=
  if ' ' ∈ line then ((line.reverse.takeWhile (· ≠ ' ')).reverse).takeWhile (· ≠ '/') else []

/-- The word between the first two spaces of an `m=` line. -/
def portOf (line : Text) : Option Text :=
  match cut [' '] (line.drop 2) with
  | some (_, rest) => (cut [' '] rest).map Prod.fst
  | none => none

def parseSDPLine (announcement : SAPAnnouncement) (line : Text) : SAPAnnouncement :=
  if line.take 2 = ['s', '='] then { announcement with sessionName := line.drop 2 }
  else if line.take 2 = ['c', '='] then
    { announcement with multicastAddress := connectionAddress line }
  else if line.take 2 = ['m', '='] then
    match portOf line with
    | some port => { announcement with port := (stoi port).getD 0 }
    | none => announcement
  else announcement

def parseSDPInfo (sdp : Text) (announcement : SAPAnnouncement) : SAPAnnouncement :=
  ((getlines '\n' sdp).map fun line =>
    if line.getLast? = some '\r' then line.dropLast else line).foldl parseSDPLine announcement

/-! ## The packet -/

/-- The payload behind the header: without the type it may begin with, and not too short. -/
def payload (data : Octets) : Option Octets :=
  let payloadStart := 8 + (data.getD 1 0).toNat * 4
  let rest := data.drop payloadStart
  if data.length ≤ payloadStart ∨ rest.length < 5 then none
  else if rest.take 2 = octets "v=" then some rest
  else match (rest.take 64).findIdx? (· == 0) with
    | some typeLen => if (rest.drop (typeLen + 1)).length < 5 then none
        else some (rest.drop (typeLen + 1))
    | none => some rest

/-- `"v=0"`. -/
def versionLine : Text := ['v', '=', '0']

/-- The identity a header of eight bytes gives. -/
def identified (data : Octets) (announcement : SAPAnnouncement) : SAPAnnouncement :=
  if data.length < 8 then announcement
  else
    let u i : ℕ := (data.getD i 0).toNat
    { announcement with
      msgIdHash := .ofNat (u 2 * 2 ^ 8 + u 3)
      originatingSource := .ofNat (u 4 * 2 ^ 24 + u 5 * 2 ^ 16 + u 6 * 2 ^ 8 + u 7) }

/-- `SAPListener::parseAnnouncement` at a time. -/
def parseAnnouncement (data : Octets) (sourceAddress : Text) (now : ℤ) : SAPAnnouncement :=
  let announcement : SAPAnnouncement := { sourceAddress := sourceAddress, lastSeen := now }
  let sapHeader := data.getD 0 0
  if data.length < 4 ∨ 4096 < data.length then announcement
  else if (sapHeader >>> 5) &&& 7 != 1 then announcement
  else
    let announcement := identified data
      { announcement with isDeletion := (sapHeader >>> 2) &&& 1 != 0 }
    if (sapHeader >>> 1) &&& 1 != 0 || sapHeader &&& 1 != 0 then announcement
    else if announcement.isDeletion then announcement
    else match payload data with
      | some sdp =>
        if contains versionLine (textOf sdp) then
          parseSDPInfo (textOf sdp) { announcement with sessionDescription := textOf sdp }
        else announcement
      | none => announcement

/-- A datagram as it arrives: its bytes, who sent it, and when. -/
structure Reception where
  datagram : Octets
  sourceAddress : Text
  now : ℤ

/-- What the loop reads: its buffer holds 2047 bytes. -/
def Reception.read (r : Reception) : SAPAnnouncement :=
  parseAnnouncement (r.datagram.take 2047) r.sourceAddress r.now

/-- `listenLoop` with one datagram. -/
def SAPListener.receive (listener : SAPListener) (r : Reception) : SAPListener :=
  (listener.hear r.read).1

/-- `ntohl`, of a little-endian machine. -/
def ntohl (x : UInt32) : UInt32 :=
  .ofNat (x.toUInt8.toNat * 2 ^ 24 + (x >>> 8).toUInt8.toNat * 2 ^ 16 +
    (x >>> 16).toUInt8.toNat * 2 ^ 8 + (x >>> 24).toUInt8.toNat)

/-! ## What is read in the announcer's packets -/

variable {body : Octets} {hash : UInt16} {source : UInt32} {deletion : Bool} {address : Text}
  {now : ℤ} {a : SAPAnnouncement}

theorem length_kPayloadType : kPayloadType.length = 16 := rfl

theorem length_buildPacket : (buildPacket body hash source deletion).length = 24 + body.length := by
  simp only [buildPacket, List.length_append, length_kPayloadType, put16, addressBytes,
    List.length_cons, List.length_nil]

/-- The description leaves what the header said. -/
theorem parseSDPInfo_frame (sdp : Text) (a : SAPAnnouncement) :
    let read := parseSDPInfo sdp a
    read.sessionDescription = a.sessionDescription ∧ read.sourceAddress = a.sourceAddress ∧
      read.lastSeen = a.lastSeen ∧ read.isDeletion = a.isDeletion ∧ read.key = a.key := by
  have step (a : SAPAnnouncement) (line : Text) :
      (parseSDPLine a line).sessionDescription = a.sessionDescription ∧
      (parseSDPLine a line).sourceAddress = a.sourceAddress ∧
      (parseSDPLine a line).lastSeen = a.lastSeen ∧
      (parseSDPLine a line).isDeletion = a.isDeletion ∧ (parseSDPLine a line).key = a.key := by
    unfold parseSDPLine
    split_ifs
    · exact ⟨rfl, rfl, rfl, rfl, rfl⟩
    · exact ⟨rfl, rfl, rfl, rfl, rfl⟩
    · split <;> exact ⟨rfl, rfl, rfl, rfl, rfl⟩
    · exact ⟨rfl, rfl, rfl, rfl, rfl⟩
  unfold parseSDPInfo
  generalize List.map _ _ = lines
  induction lines generalizing a with
  | nil => exact ⟨rfl, rfl, rfl, rfl, rfl⟩
  | cons line lines ih =>
    obtain ⟨h1, h2, h3, h4, h5⟩ := ih (parseSDPLine a line)
    obtain ⟨s1, s2, s3, s4, s5⟩ := step a line
    exact ⟨h1.trans s1, h2.trans s2, h3.trans s3, h4.trans s4, h5.trans s5⟩

theorem getD_buildPacket : (buildPacket body hash source deletion).getD 0 0 =
    ((1 : UInt8) <<< 5) ||| (if deletion then (1 : UInt8) <<< 2 else 0) := rfl

theorem drop_buildPacket : (buildPacket body hash source deletion).drop 8 = kPayloadType ++ body :=
  rfl

theorem payload_buildPacket (h : 5 ≤ body.length) :
    payload (buildPacket body hash source deletion) = some body := by
  have hauth : 8 + ((buildPacket body hash source deletion).getD 1 0).toNat * 4 = 8 := rfl
  have htype : (kPayloadType ++ body).take 2 ≠ octets "v=" := by
    rw [List.take_append_of_le_length (by rw [length_kPayloadType]; omega)]
    decide
  have hnul : ((kPayloadType ++ body).take 64).findIdx? (· == 0) = some 15 := by
    have h15 : kPayloadType.findIdx? (· == 0) = some 15 := by decide
    rw [List.take_append, List.take_of_length_le (by rw [length_kPayloadType]; omega),
      List.findIdx?_append, h15]
    rfl
  have hbody : (kPayloadType ++ body).drop (15 + 1) = body :=
    List.drop_left' length_kPayloadType
  unfold payload
  rw [hauth]
  dsimp only
  rw [drop_buildPacket, if_neg, if_neg htype, hnul]
  · dsimp only
    rw [hbody, if_neg (by omega)]
  · rw [length_buildPacket, List.length_append, length_kPayloadType]
    omega

theorem identified_buildPacket : identified (buildPacket body hash source deletion) a =
    { a with msgIdHash := hash, originatingSource := ntohl source } := by
  have hhash : UInt16.ofNat ((hash >>> 8).toUInt8.toNat * 2 ^ 8 + hash.toUInt8.toNat) = hash := by
    have hlt := hash.toNat_lt
    rw [← UInt16.toNat_inj]
    simp [Nat.shiftRight_eq_div_pow]
    omega
  unfold identified
  rw [if_neg (by rw [length_buildPacket]; omega)]
  exact congrArg (fun h : UInt16 => { a with msgIdHash := h, originatingSource := ntohl source })
    hhash

theorem contains_versionLine (h : octets "v=0" <+: body) :
    contains versionLine (textOf body) = true := by
  obtain ⟨rest, rfl⟩ := h
  rw [contains_iff, textOf, List.map_append]
  have : (octets "v=0").map (fun c => Char.ofNat c.toNat) = versionLine := by decide
  rw [this]
  exact (List.prefix_append _ _).isInfix

/-- **An announcement is read whole**: the body, and the identity it was given. -/
theorem parseAnnouncement_announced (hv : octets "v=0" <+: body) (h5 : 5 ≤ body.length)
    (hfit : 24 + body.length ≤ 2047) :
    parseAnnouncement (buildPacket body hash source false) address now =
      parseSDPInfo (textOf body)
        { sessionDescription := textOf body
          sourceAddress := address
          lastSeen := now
          msgIdHash := hash
          originatingSource := ntohl source } := by
  unfold parseAnnouncement
  rw [if_neg (by rw [length_buildPacket]; omega), getD_buildPacket, identified_buildPacket,
    payload_buildPacket h5]
  dsimp only
  rw [contains_versionLine hv]
  rfl

/-- **A withdrawal is read as the identity it carries.** -/
theorem parseAnnouncement_withdrawn (hfit : 24 + body.length ≤ 2047) :
    parseAnnouncement (buildPacket body hash source true) address now =
      { sourceAddress := address
        lastSeen := now
        isDeletion := true
        msgIdHash := hash
        originatingSource := ntohl source } := by
  unfold parseAnnouncement
  rw [if_neg (by rw [length_buildPacket]; omega), getD_buildPacket, identified_buildPacket]
  rfl

end Aes67
