import Aes67.Sdp.Image
import Aes67.Ravenna.Connection

/-!
# The file follows the leg

An activation writes a new description whenever the leg it resolved differs from the one the current
description gives, and what it writes is read again by everybody else. A transport parameter is only
checked for its type and its range.

* `parseString_readdressed`: when a description with another address and port is read back;
* `find?_legOf_destination`, `find?_legOf_port`: what acceptable overrides make of a leg;
* `Rewritable`: the port is a port, and a description that has to be written again can be;
* **`followsLeg_activated`**: which activation leaves a description that gives what is reported.
-/

namespace Aes67.Ravenna

open Sdp (SDPSession Legible parseString generate)

/-! ## Another address and port -/

/-- The session `followSdpToLeg` writes. -/
def readdressed (s : SDPSession) (address : Text) (port : UInt16) : SDPSession :=
  { s with connectionAddress := address, port := port, sessionVersion := s.sessionVersion + 1 }

/-- An address that keeps its place in a description of the session. -/
structure Survives (s : SDPSession) (address : Text) : Prop where
  ne : address ≠ []
  space : ' ' ∉ address
  slash : '/' ∉ address
  line : '\n' ∉ address
  head : address.head?.all fun c => !isSpace c
  trimmed : s.ttl = 0 → Trimmed address

variable {s s' : SDPSession} {sdp file address : Text} {port : UInt16}

/-- The session is legible and valid again, if its address and port are. -/
theorem legible_readdressed (h : parseString sdp = some s) (hne : address ≠ [])
    (hspace : ' ' ∉ address) (hslash : '/' ∉ address) (hline : '\n' ∉ address)
    (hhead : address.head?.all fun c => !isSpace c) (hp : port ≠ 0) :
    Sdp.Legible (readdressed s address port) ∧ (readdressed s address port).Valid := by
  obtain ⟨hl, hv, -⟩ := Sdp.legible_of_parseString h
  exact ⟨{ hl with connectionAddress := ⟨hspace, hslash, hline, hhead⟩ },
    { hv with connectionAddress_ne := hne, port_ne := hp }⟩

/-- **When a description with another address and port is read back**: the session needs an origin
address and a packet time, the address has to keep its place, and the port may not be zero. -/
theorem parseString_readdressed (now : UInt64) (h : parseString sdp = some s) :
    (∃ s', parseString (generate now (readdressed s address port)) = some s' ∧
      s'.connectionAddress = address ∧ s'.port = port) ↔
      s.originAddress ≠ [] ∧ s.ptimeUs ≠ 0 ∧ Survives s address ∧ port ≠ 0 := by
  constructor
  · rintro ⟨s', hs', rfl, rfl⟩
    obtain ⟨hl', hv', -⟩ := Sdp.legible_of_parseString hs'
    obtain ⟨hspace, hslash, hline, hhead⟩ := hl'.connectionAddress
    obtain ⟨hl, hv⟩ := legible_readdressed h hv'.connectionAddress_ne hspace hslash hline hhead
      hv'.port_ne
    have hcomplete : ¬ (s.originAddress = [] ∨ s.ptimeUs = 0) := fun h0 => by
      rw [Sdp.parseString_generate_eq_none now hl hv h0] at hs'
      cases hs'
    obtain ⟨horigin, hptime⟩ := not_or.mp hcomplete
    refine ⟨horigin, hptime, ⟨hv'.connectionAddress_ne, hspace, hslash, hline, hhead, fun httl => ?_⟩,
      hv'.port_ne⟩
    rw [Sdp.parseString_generate now hl hv horigin hptime] at hs'
    have hsame := congrArg SDPSession.connectionAddress (Option.some.inj hs')
    exact (if_pos httl).symm.trans hsame
  · rintro ⟨horigin, hptime, hs, hp⟩
    obtain ⟨hl, hv⟩ := legible_readdressed h hs.ne hs.space hs.slash hs.line hs.head hp
    refine ⟨_, Sdp.parseString_generate now hl hv horigin hptime, ?_, rfl⟩
    change (if s.ttl = 0 then Aes67.trim address else address) = address
    split_ifs with httl
    · exact hs.trimmed httl
    · rfl

/-- An address that keeps its place is read back, where anything is. -/
theorem Survives.eq (hs : Survives s address) (now : UInt64) (h : parseString sdp = some s)
    (hp : port ≠ 0) (h' : parseString (generate now (readdressed s address port)) = some s') :
    s'.connectionAddress = address := by
  obtain ⟨hl, hv⟩ := legible_readdressed h hs.ne hs.space hs.slash hs.line hs.head hp
  have hcomplete : ¬ (s.originAddress = [] ∨ s.ptimeUs = 0) := fun h0 => by
    rw [Sdp.parseString_generate_eq_none now hl hv h0] at h'
    cases h'
  obtain ⟨horigin, hptime⟩ := not_or.mp hcomplete
  obtain ⟨r, hr, haddress, -⟩ := (parseString_readdressed now h).mpr ⟨horigin, hptime, hs, hp⟩
  rwa [Option.some.inj (h'.symm.trans hr)]

/-! ## The leg -/

theorem sessionOf_eq (sdp : Text) : sessionOf sdp = parseString sdp := by
  unfold sessionOf
  split_ifs with h
  · rw [h]
    rfl
  · rfl

theorem find?_overlay (leg overrides : JsonObject) (name : Text) :
    (overlay leg overrides).find? name = (overrides.find? name).or (leg.find? name) :=
  overrides.find?_foldl_insert name leg

/-- A value with "auto" replaced by what was chosen. -/
def unlessAuto (chosen : Json) : Option Json → Option Json
  | some (.str t) => if t = "auto".toList then some chosen else some (.str t)
  | value => value

theorem find?_resolve_self (name : String) (chosen : Json) (leg : JsonObject) :
    (resolve name chosen leg).find? name.toList = unlessAuto chosen (leg.find? name.toList) := by
  unfold resolve
  match h : leg.find? name.toList with
  | some (.str t) =>
    dsimp only [unlessAuto]
    split_ifs
    · exact leg.find?_insert_self _ _
    · exact h
  | none | some .null | some (.bool _) | some (.num _) | some (.obj _) | some (.arr _) => exact h

theorem find?_resolve_of_ne {name : String} {k : Text} (h : k ≠ name.toList) (chosen : Json)
    (leg : JsonObject) : (resolve name chosen leg).find? k = leg.find? k := by
  unfold resolve
  match leg.find? name.toList with
  | some (.str t) =>
    dsimp only
    split_ifs
    · rw [OrdMap.find?_insert, if_neg h]
    · rfl
  | none | some .null | some (.bool _) | some (.num _) | some (.obj _) | some (.arr _) => rfl

variable {forSender : Bool} {leg params : JsonObject} {interfaceAddress : Text}

theorem find?_resolveAutoLeg_destination (h : parseString file = some s) :
    (resolveAutoLeg leg forSender file interfaceAddress).find? (destinationName forSender) =
      unlessAuto (.ofText s.connectionAddress) (leg.find? (destinationName forSender)) := by
  unfold resolveAutoLeg
  rw [sessionOf_eq, h]
  cases forSender with
  | true =>
    refine (find?_resolve_self "destination_ip" _ _).trans (congrArg _ ?_)
    rw [find?_resolve_of_ne (by decide), find?_resolve_of_ne (by decide),
      find?_resolve_of_ne (by decide)]
    rfl
  | false =>
    refine (find?_resolve_of_ne (by decide) _ _).trans ?_
    refine (find?_resolve_self "multicast_ip" _ _).trans (congrArg _ ?_)
    rw [find?_resolve_of_ne (by decide), find?_resolve_of_ne (by decide)]
    rfl

theorem find?_resolveAutoLeg_port (h : parseString file = some s) :
    (resolveAutoLeg leg forSender file interfaceAddress).find? "destination_port".toList =
      unlessAuto (.ofNat s.port.toNat) (leg.find? "destination_port".toList) := by
  unfold resolveAutoLeg
  rw [sessionOf_eq, h]
  have hport := find?_resolve_self "destination_port" (.ofNat s.port.toNat) leg
  cases forSender with
  | true =>
    refine (find?_resolve_of_ne (by decide) _ _).trans ?_
    rw [find?_resolve_of_ne (by decide), find?_resolve_of_ne (by decide)]
    exact hport
  | false =>
    refine (find?_resolve_of_ne (by decide) _ _).trans ?_
    rw [find?_resolve_of_ne (by decide), find?_resolve_of_ne (by decide)]
    exact hport

/-- A leg has no name for the destination of the other side. -/
theorem find?_resolveAutoLeg_other (h : leg.find? "destination_ip".toList = none) :
    (resolveAutoLeg leg false file interfaceAddress).find? "destination_ip".toList = none := by
  unfold resolveAutoLeg
  refine (find?_resolve_of_ne (by decide) _ _).trans ?_
  rw [find?_resolve_of_ne (by decide), find?_resolve_of_ne (by decide),
    find?_resolve_of_ne (by decide)]
  exact h

theorem ofText_of_ne {t : Text} (h : t ≠ []) : Json.ofText t = .str t := if_neg h

theorem connectionAddress_ne (h : parseString file = some s) : s.connectionAddress ≠ [] :=
  (Sdp.legible_of_parseString h).2.1.connectionAddress_ne

theorem find?_transportParamsFromSdp_destination (h : parseString file = some s) :
    (transportParamsFromSdp file forSender).find? (destinationName forSender) =
      some (.str s.connectionAddress) := by
  unfold transportParamsFromSdp
  rw [sessionOf_eq, h]
  dsimp only [addressOf]
  rw [OrdMap.find?_insert]
  cases forSender with
  | true =>
    rw [if_neg (by decide), if_pos rfl, ofText_of_ne (connectionAddress_ne h)]
    exact OrdMap.find?_insert_self _ _ _
  | false =>
    rw [if_neg (by decide), if_neg (by decide), ofText_of_ne (connectionAddress_ne h)]
    exact OrdMap.find?_insert_self _ _ _

theorem find?_transportParamsFromSdp_port (h : parseString file = some s) :
    (transportParamsFromSdp file forSender).find? "destination_port".toList =
      some (.ofNat s.port.toNat) := by
  unfold transportParamsFromSdp
  rw [sessionOf_eq, h]
  exact OrdMap.find?_insert_self _ _ _

theorem find?_transportParamsFromSdp_other :
    (transportParamsFromSdp file false).find? "destination_ip".toList = none := by
  unfold transportParamsFromSdp
  dsimp only
  rw [OrdMap.find?_insert, if_neg (by decide), if_neg (by decide), OrdMap.find?_insert,
    if_neg (by decide), OrdMap.find?_insert, if_neg (by decide), OrdMap.find?_insert,
    if_neg (by decide), OrdMap.find?_insert, if_neg (by decide)]
  rfl

/-! ## The overrides -/

/-- Overrides that pass the checks made on a patch. -/
def Acceptable (forSender : Bool) (params : JsonObject) : Prop :=
  ∀ name value, params.find? name = some value →
    checkTransportParam forSender name value = .ok () ∧ value ≠ .null

/-- The destination the overrides choose. -/
def chosenAddress (s : SDPSession) (forSender : Bool) (params : JsonObject) : Text :=
  match params.find? (destinationName forSender) with
  | some (.str t) => if t = "auto".toList then s.connectionAddress else t
  | _ => s.connectionAddress

/-- The port the overrides choose, a number like any other. -/
def chosenPort (s : SDPSession) (params : JsonObject) : Double :=
  match params.find? "destination_port".toList with
  | some (.num d) => d
  | _ => .fin s.port.toNat

theorem Acceptable.destination (h : Acceptable forSender params) :
    params.find? (destinationName forSender) = none ∨
      ∃ t, params.find? (destinationName forSender) = some (.str t) := by
  match hf : params.find? (destinationName forSender) with
  | none => exact Or.inl rfl
  | some (.str t) => exact Or.inr ⟨t, rfl⟩
  | some .null => exact absurd rfl (h _ _ hf).2
  | some (.bool _) | some (.num _) | some (.obj _) | some (.arr _) =>
    cases forSender <;> cases (h _ _ hf).1

theorem Acceptable.destination_port (h : Acceptable forSender params) :
    params.find? "destination_port".toList = none ∨
      params.find? "destination_port".toList = some (.str "auto".toList) ∨
      ∃ d, params.find? "destination_port".toList = some (.num d) := by
  match hf : params.find? "destination_port".toList with
  | none => exact Or.inl rfl
  | some (.num d) => exact Or.inr (Or.inr ⟨d, rfl⟩)
  | some (.str t) =>
    by_cases ht : t = "auto".toList
    · rw [ht]
      exact Or.inr (Or.inl rfl)
    · have hc : (if t = "auto".toList then (.ok () : Except Text Unit) else .error
          ("destination_port".toList ++ " has to be a port number or \"auto\"".toList)) = .ok () := by
        cases forSender <;> exact (h _ _ hf).1
      rw [if_neg ht] at hc
      cases hc
  | some .null => exact absurd rfl (h _ _ hf).2
  | some (.bool _) | some (.obj _) | some (.arr _) => cases forSender <;> cases (h _ _ hf).1

theorem Acceptable.other (h : Acceptable false params) :
    params.find? "destination_ip".toList = none := by
  cases hf : params.find? "destination_ip".toList with
  | none => rfl
  | some value => cases (h _ _ hf).1

variable {api : ConnectionApi} {state : ConnectionState}

theorem unlessAuto_str {a t : Text} :
    unlessAuto (.str a) (some (.str t)) = some (.str (if t = "auto".toList then a else t)) := by
  unfold unlessAuto
  dsimp only
  split_ifs <;> rfl

/-- The destination of a leg is the one the overrides choose. -/
theorem find?_legOf_destination (api : ConnectionApi) (h : parseString file = some s)
    (ha : Acceptable forSender state.transportParams) :
    (api.legOf forSender file state).find? (destinationName forSender) =
      some (.str (chosenAddress s forSender state.transportParams)) := by
  unfold ConnectionApi.legOf chosenAddress
  rw [find?_resolveAutoLeg_destination h, find?_overlay,
    find?_transportParamsFromSdp_destination h, ofText_of_ne (connectionAddress_ne h)]
  rcases ha.destination with hf | ⟨t, hf⟩
  · rw [hf, Option.none_or, unlessAuto_str, ite_self]
  · rw [hf, Option.some_or, unlessAuto_str]

/-- The port of a leg is the one the overrides choose. -/
theorem find?_legOf_port (h : parseString file = some s)
    (ha : Acceptable forSender state.transportParams) :
    (api.legOf forSender file state).find? "destination_port".toList =
      some (.num (chosenPort s state.transportParams)) := by
  unfold ConnectionApi.legOf chosenPort
  rw [find?_resolveAutoLeg_port h, find?_overlay, find?_transportParamsFromSdp_port h]
  rcases ha.destination_port with hf | hf | ⟨d, hf⟩
  · rw [hf]
    rfl
  · rw [hf]
    rfl
  · rw [hf]
    rfl

/-- What a chosen address is once "auto" is replaced, as it is wherever a leg is read. -/
theorem chosenAddress_of_auto
    (h : chosenAddress s forSender params = "auto".toList) : s.connectionAddress = "auto".toList := by
  unfold chosenAddress at h
  match hf : params.find? (destinationName forSender) with
  | some (.str t) =>
    rw [hf] at h
    dsimp only at h
    split_ifs at h with ht
    · exact h
    · exact absurd h ht
  | none | some .null | some (.bool _) | some (.num _) | some (.obj _) | some (.arr _) =>
    rw [hf] at h
    exact h

/-- The destination `followSdpToLeg` sees. -/
theorem destinationOf_legOf (h : parseString file = some s)
    (ha : Acceptable forSender state.transportParams) :
    destinationOf (api.legOf forSender file state) =
      some (.str (chosenAddress s forSender state.transportParams)) := by
  have hd := find?_legOf_destination api h ha
  unfold destinationOf
  cases forSender with
  | true =>
    replace hd : (api.legOf true file state).find? "destination_ip".toList = _ := hd
    rw [hd]
  | false =>
    have hother : (api.legOf false file state).find? "destination_ip".toList = none := by
      refine find?_resolveAutoLeg_other ?_
      rw [find?_overlay, ha.other, find?_transportParamsFromSdp_other]
      rfl
    rw [hother]
    exact hd

/-- The description an activation leaves. -/
theorem followSdpToLeg_legOf (api : ConnectionApi) (time : UInt64) (h : parseString file = some s)
    (ha : Acceptable forSender state.transportParams) :
    followSdpToLeg time file (api.legOf forSender file state) =
      if chosenAddress s forSender state.transportParams = s.connectionAddress ∧
        castUInt16 (chosenPort s state.transportParams) = s.port then file
      else generate time (readdressed s (chosenAddress s forSender state.transportParams)
        (castUInt16 (chosenPort s state.transportParams))) := by
  have hsame : (if chosenAddress s forSender state.transportParams ≠ "auto".toList then
      chosenAddress s forSender state.transportParams else s.connectionAddress) =
      chosenAddress s forSender state.transportParams := by
    split_ifs with hauto
    · rfl
    · rw [not_not] at hauto
      rw [chosenAddress_of_auto hauto, hauto]
  unfold followSdpToLeg
  rw [sessionOf_eq, h]
  dsimp only
  rw [destinationOf_legOf h ha, find?_legOf_port h ha]
  dsimp only
  simp only [hsame]
  rfl

/-! ## What is reported -/

/-- A parameter of the leg in an answer. -/
def reported (answer : Json) (name : Text) : Json :=
  match answer.get "transport_params" with
  | .arr (leg :: _) => leg.member name
  | _ => .null

theorem reported_stateAsJson (state : ConnectionState) (forSender : Bool) (name : Text) :
    reported (stateAsJson state forSender) name = ((overlay (transportParamsFromSdp
      state.transportFile forSender) state.transportParams).find? name).getD .null := by
  cases forSender <;> rfl

theorem reported_activeAsJson {value : Json} {name : Text}
    (h : (api.legOf forSender state.transportFile state).find? name = some value) :
    reported (api.activeAsJson state forSender) name = value := by
  unfold ConnectionApi.activeAsJson
  rw [reported_stateAsJson, find?_overlay]
  dsimp only
  rw [h]
  rfl

/-- The activation leaves a description that gives the destination and the port which
`GET /active` reports afterwards. -/
def FollowsLeg (api : ConnectionApi) (t : Told) : Prop :=
  ∃ s', parseString t.active.transportFile = some s' ∧
    reported (api.activeAsJson t.active t.forSender) (destinationName t.forSender) =
      .str s'.connectionAddress ∧
    reported (api.activeAsJson t.active t.forSender) "destination_port".toList =
      .ofNat s'.port.toNat

/-- The port is a whole number, not zero, and a description that has to be written again can be,
with the address in its place. -/
structure Rewritable (s : SDPSession) (forSender : Bool) (params : JsonObject) : Prop where
  port : ∃ n : UInt16, n ≠ 0 ∧ chosenPort s params = .fin n.toNat
  rewritten : chosenAddress s forSender params ≠ s.connectionAddress ∨
      chosenPort s params ≠ .fin s.port.toNat →
    s.originAddress ≠ [] ∧ s.ptimeUs ≠ 0 ∧ Survives s (chosenAddress s forSender params)

theorem castUInt16_toNat (n : UInt16) : castUInt16 (.fin n.toNat) = n := by
  have hlt := n.toNat_lt
  unfold castUInt16
  dsimp only
  rw [if_pos ⟨by simp, by simpa using hlt⟩]
  simpa using Sdp.ofInt_toNat16 n

/-- The leg that becomes active is the one that is reported, with an "auto" it took from the old
description read from the new one. -/
theorem reported_activated {env : Surroundings} (api' : ConnectionApi)
    (h : parseString file = some s) (ha : Acceptable forSender state.transportParams)
    (h' : parseString (api.activated env forSender file state).transportFile = some s') :
    reported (api'.activeAsJson (api.activated env forSender file state) forSender)
        (destinationName forSender) =
      .str (if chosenAddress s forSender state.transportParams = "auto".toList then
        s'.connectionAddress else chosenAddress s forSender state.transportParams) ∧
    reported (api'.activeAsJson (api.activated env forSender file state) forSender)
        "destination_port".toList = .num (chosenPort s state.transportParams) := by
  constructor
  · refine reported_activeAsJson ?_
    rw [ConnectionApi.legOf, find?_resolveAutoLeg_destination h', find?_overlay]
    dsimp only [ConnectionApi.activated]
    rw [find?_legOf_destination api h ha, Option.some_or, ofText_of_ne (connectionAddress_ne h'),
      unlessAuto_str]
  · refine reported_activeAsJson ?_
    rw [ConnectionApi.legOf, find?_resolveAutoLeg_port h', find?_overlay]
    dsimp only [ConnectionApi.activated]
    rw [find?_legOf_port h ha, Option.some_or]
    rfl

/-- **Which activation leaves a description that follows its leg.** -/
theorem followsLeg_activated {env : Surroundings} (api' : ConnectionApi) (t : Told)
    (h : parseString t.current = some s) (ha : Acceptable t.forSender t.requested.transportParams)
    (ht : t.active = api.activated env t.forSender t.current t.requested) :
    FollowsLeg api' t ↔ Rewritable s t.forSender t.requested.transportParams := by
  obtain ⟨forSender, id, staged, current, requested, active, accepted⟩ := t
  dsimp only at h ha ht
  subst ht
  have hfile := followSdpToLeg_legOf api env.time h ha
  change (api.activated env forSender current requested).transportFile = _ at hfile
  unfold FollowsLeg
  dsimp only
  have hauto : chosenAddress s forSender requested.transportParams = "auto".toList →
      Survives s (chosenAddress s forSender requested.transportParams) := fun h => by
    rw [h]
    exact ⟨by decide, by decide, by decide, by decide, by decide, fun _ => by decide⟩
  constructor
  · rintro ⟨s', hs', hdestination, hport⟩
    obtain ⟨hd, hp⟩ := reported_activated api' h ha hs'
    rw [hd] at hdestination
    rw [hp] at hport
    replace hport : chosenPort s requested.transportParams = .fin s'.port.toNat :=
      Json.num.inj hport
    have hp0 : s'.port ≠ 0 := (Sdp.legible_of_parseString hs').2.1.port_ne
    refine ⟨⟨s'.port, hp0, hport⟩, fun hchange => ?_⟩
    rw [hport, castUInt16_toNat] at hfile
    have hnot : ¬ (chosenAddress s forSender requested.transportParams = s.connectionAddress ∧
        s'.port = s.port) := by
      rintro ⟨h1, h2⟩
      exact hchange.elim (fun h => h h1) fun h => h (by rw [hport, h2])
    rw [if_neg hnot] at hfile
    rw [hfile] at hs'
    have haddress :
        s'.connectionAddress = chosenAddress s forSender requested.transportParams := by
      by_cases hc : chosenAddress s forSender requested.transportParams = "auto".toList
      · exact (hauto hc).eq env.time h hp0 hs'
      · rw [if_neg hc] at hdestination
        exact (Json.str.inj hdestination).symm
    obtain ⟨horigin, hptime, hs, -⟩ :=
      (parseString_readdressed env.time h).mp ⟨s', hs', haddress, rfl⟩
    exact ⟨horigin, hptime, hs⟩
  · rintro ⟨⟨n, hn, hport⟩, hrewritten⟩
    rw [hport, castUInt16_toNat] at hfile
    have hread : ∃ s', parseString (api.activated env forSender current requested).transportFile =
        some s' ∧ s'.connectionAddress = chosenAddress s forSender requested.transportParams ∧
        s'.port = n := by
      rw [hfile]
      by_cases hsame : chosenAddress s forSender requested.transportParams = s.connectionAddress ∧
        n = s.port
      · rw [if_pos hsame]
        exact ⟨s, h, hsame.1.symm, hsame.2.symm⟩
      · rw [if_neg hsame]
        obtain ⟨horigin, hptime, hs⟩ := hrewritten (by
          rw [hport]
          by_contra hcon
          obtain ⟨h1, h2⟩ := not_or.mp hcon
          rw [not_not] at h1 h2
          refine hsame ⟨h1, ?_⟩
          rw [← castUInt16_toNat n, h2, castUInt16_toNat])
        exact (parseString_readdressed env.time h).mpr ⟨horigin, hptime, hs, hn⟩
    obtain ⟨s', hs', haddress, hp⟩ := hread
    obtain ⟨hd, hq⟩ := reported_activated api' h ha hs'
    refine ⟨s', hs', ?_, ?_⟩
    · rw [hd, ← haddress, ite_self]
    · rw [hq, hport, ← hp]
      rfl

end Aes67.Ravenna
