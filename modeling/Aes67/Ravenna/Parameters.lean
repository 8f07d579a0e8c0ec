import Aes67.Ravenna.Leg

/-!
# What a leg says of each parameter

A leg is what the transport file gives, with the controller's overrides on top and every "auto"
replaced by what the device chose. What it says of a parameter depends on the override of that
parameter alone.

* `parameters`: the names of a side;
* `said`: the override, or what stands for it where it is left out or left to the device;
* `leftOut`, `leftToDevice`: what stands for it;
* **`find?_legOf`**: each parameter of a leg.
-/

namespace Aes67.Ravenna

open Sdp (SDPSession)

/-- The parameters of a leg. -/
def parameters (forSender : Bool) : List Text :=
  ["rtp_enabled".toList, "destination_port".toList, "source_ip".toList,
    destinationName forSender, (if forSender then "source_port" else "interface_ip").toList]

/-- What a state says of a parameter: its override, or what stands for it. -/
def said (params : JsonObject) (name : Text) (absent auto : Json) : Json :=
  match params.find? name with
  | none => absent
  | some (.str t) => if t = "auto".toList then auto else .str t
  | some value => value

/-- The port of a file, or the one the device takes. -/
def filePort (file : Text) : Json :=
  .ofNat (match sessionOf file with
    | some session => session.port.toNat
    | none => 5004)

/-- The address the device has itself. -/
def ownAddress (address : Text) : Text := if address = [] then "0.0.0.0".toList else address

/-- What stands for a parameter that is left out. -/
def leftOut (forSender : Bool) (file address name : Text) : Json :=
  if name = "rtp_enabled".toList then .bool true
  else if name = "destination_port".toList ∨ name = "source_port".toList then filePort file
  else if name = "interface_ip".toList then .str (ownAddress address)
  else if name = "source_ip".toList then addressOf (sessionOf file)
    (if forSender then SDPSession.originAddress else SDPSession.sourceAddress)
  else addressOf (sessionOf file) SDPSession.connectionAddress

/-- What stands for a parameter that is left to the device. A sender without a file has no
destination the device could choose, and sends from the device's own address. -/
def leftToDevice (forSender : Bool) (file address name : Text) : Json :=
  if name = "rtp_enabled".toList then .str "auto".toList
  else if forSender = true ∧ sessionOf file = none ∧ name = "source_ip".toList then
    .str (ownAddress address)
  else if forSender = true ∧ sessionOf file = none ∧ name = "destination_ip".toList then
    .str "auto".toList
  else leftOut forSender file address name

section Leg

variable {api : ConnectionApi} {forSender : Bool} {file : Text} {state : ConnectionState}
  {params : JsonObject} {name : Text} {given absent chosen : Json}

theorem find?_resolve (key : String) (chosen : Json) (leg : JsonObject) (name : Text) :
    (resolve key chosen leg).find? name =
      if name = key.toList then unlessAuto chosen (leg.find? name) else leg.find? name := by
  split_ifs with h
  · rw [h]
    exact find?_resolve_self key chosen leg
  · exact find?_resolve_of_ne h chosen leg

/-- A parameter that is resolved. -/
theorem unlessAuto_eq_said (h : unlessAuto chosen (some given) = some absent) :
    unlessAuto chosen ((params.find? name).or (some given)) =
      some (said params name absent chosen) := by
  unfold said
  match params.find? name with
  | none => exact h
  | some (.str t) =>
    dsimp only [Option.some_or, unlessAuto]
    split_ifs <;> rfl
  | some .null | some (.bool _) | some (.num _) | some (.obj _) | some (.arr _) => rfl

theorem unlessAuto_self : unlessAuto chosen (some chosen) = some chosen := by
  unfold unlessAuto
  split
  · next heq =>
    split_ifs
    · rfl
    · exact heq.symm
  · rfl

/-- What the file gives for a parameter, before anything is replaced. -/
theorem find?_transportParamsFromSdp (h : name ∈ parameters forSender) :
    (transportParamsFromSdp file forSender).find? name = some
      (if name = "source_port".toList ∨ name = "interface_ip".toList ∨
          sessionOf file = none ∧ name = "destination_port".toList then .str "auto".toList
        else leftOut forSender file [] name) := by
  unfold transportParamsFromSdp leftOut filePort
  cases hs : sessionOf file <;> cases forSender <;>
    simp only [parameters, destinationName, Bool.false_eq_true, if_true, if_false, List.mem_cons,
      List.not_mem_nil, or_false] at h <;>
    rcases h with rfl | rfl | rfl | rfl | rfl <;>
    simp +decide [OrdMap.find?_insert]

theorem unlessAuto_auto (o : Option Json) : unlessAuto (.str "auto".toList) o = o := by
  unfold unlessAuto
  split
  · split_ifs with h
    · rw [h]
    · rfl
  · rfl

theorem ownAddress_ne (address : Text) : ownAddress address ≠ [] := by
  unfold ownAddress
  split_ifs with h
  · decide
  · exact h

/-- What the device makes of an "auto" in a sender's leg. -/
theorem find?_resolveAutoLeg_sender {leg : JsonObject} {address : Text}
    (h : name ∈ parameters true) : (resolveAutoLeg leg true file address).find? name =
      unlessAuto (leftToDevice true file address name) (leg.find? name) := by
  have hown := ofText_of_ne (ownAddress_ne address)
  unfold resolveAutoLeg leftToDevice leftOut filePort
  rw [ownAddress] at hown ⊢
  simp only [parameters, destinationName, if_true, List.mem_cons, List.not_mem_nil, or_false] at h
  cases hs : sessionOf file with
  | none =>
    dsimp only
    rw [if_pos rfl]
    simp only [find?_resolve]
    rcases h with rfl | rfl | rfl | rfl | rfl <;> simp +decide only [if_true, if_false]
    · exact (unlessAuto_auto _).symm
    · rw [hown]
    · exact (unlessAuto_auto _).symm
  | some s =>
    dsimp only
    rw [if_pos rfl]
    simp only [find?_resolve]
    rcases h with rfl | rfl | rfl | rfl | rfl <;>
      simp +decide only [if_true, if_false, reduceCtorEq, false_and, and_false]
    · exact (unlessAuto_auto _).symm
    · rfl
    · rfl

theorem resolveAutoLeg_receiver (leg : JsonObject) (file address : Text) :
    resolveAutoLeg leg false file address =
      resolve "source_ip" (addressOf (sessionOf file) SDPSession.sourceAddress)
        (resolve "multicast_ip" (addressOf (sessionOf file) SDPSession.connectionAddress)
          (resolve "interface_ip" (.str (ownAddress address))
            (resolve "destination_port" (filePort file) leg))) := rfl

/-- What the device makes of an "auto" in a receiver's leg. -/
theorem find?_resolveAutoLeg_receiver {leg : JsonObject} {address : Text}
    (h : name ∈ parameters false) : (resolveAutoLeg leg false file address).find? name =
      unlessAuto (leftToDevice false file address name) (leg.find? name) := by
  rw [resolveAutoLeg_receiver]
  unfold leftToDevice leftOut
  simp only [parameters, destinationName, Bool.false_eq_true, if_false, List.mem_cons,
    List.not_mem_nil, or_false] at h
  simp only [find?_resolve]
  rcases h with rfl | rfl | rfl | rfl | rfl <;>
    simp +decide only [if_true, if_false, false_and]
  exact (unlessAuto_auto _).symm

/-- What the file gives becomes what stands for a parameter that is left out. -/
theorem unlessAuto_given {address : Text} (h : name ∈ parameters forSender) :
    unlessAuto (leftToDevice forSender file address name) (some
      (if name = "source_port".toList ∨ name = "interface_ip".toList ∨
          sessionOf file = none ∧ name = "destination_port".toList then .str "auto".toList
        else leftOut forSender file [] name)) = some (leftOut forSender file address name) := by
  have hsame : name ≠ "interface_ip".toList →
      leftOut forSender file [] name = leftOut forSender file address name := fun hne => by
    unfold leftOut
    rw [if_neg hne, if_neg hne]
  have hauto : ∀ c : Json, unlessAuto c (some (.str "auto".toList)) = some c := fun c => by
    unfold unlessAuto
    exact if_pos rfl
  by_cases hraw : name = "source_port".toList ∨ name = "interface_ip".toList ∨
      sessionOf file = none ∧ name = "destination_port".toList
  · rw [if_pos hraw, hauto]
    unfold leftToDevice
    rcases hraw with rfl | rfl | ⟨-, rfl⟩ <;> simp +decide only [and_false, if_false]
  · rw [if_neg hraw, hsame fun hi => hraw (Or.inr (Or.inl hi))]
    unfold leftToDevice
    split_ifs with h1 h2 h3
    · exact unlessAuto_auto _
    · obtain ⟨rfl, hs, rfl⟩ := h2
      unfold leftOut
      rw [hs]
      rfl
    · exact unlessAuto_auto _
    · exact unlessAuto_self

/-- **What a leg says of each parameter.** -/
theorem find?_legOf (h : name ∈ parameters forSender) :
    (api.legOf forSender file state).find? name = some (said state.transportParams name
      (leftOut forSender file api.interfaceAddress name)
      (leftToDevice forSender file api.interfaceAddress name)) := by
  have hresolved : (api.legOf forSender file state).find? name =
      unlessAuto (leftToDevice forSender file api.interfaceAddress name)
        ((state.transportParams.find? name).or
          ((transportParamsFromSdp file forSender).find? name)) := by
    unfold ConnectionApi.legOf
    rw [← find?_overlay]
    cases forSender with
    | true => exact find?_resolveAutoLeg_sender h
    | false => exact find?_resolveAutoLeg_receiver h
  rw [hresolved, find?_transportParamsFromSdp h]
  exact unlessAuto_eq_said (unlessAuto_given h)

end Leg

end Aes67.Ravenna
