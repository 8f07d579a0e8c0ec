import Aes67.Lib.Since
import Aes67.Ravenna.DnsRoundTrip
import Aes67.Ravenna.SessionCatalogue

/-!
# The responder

What a node says of its sessions on the link: unprompted, when it is asked, and when it goes. A goodbye
is about the sessions that are there when it is said.

* `MdnsResponder`, with `everything`, `announce`, `goodbye`, `announceExtras` and `service`;
* `Node.Op`, `Node.step`: sessions that come and go while the responder is at work;
* `Node.Announced`: what the link was last told of a name is that it is there;
* **`stale_iff`**: a name stands announced with no session behind it just when its session was removed
  while it stood announced and none of that name was added since;
* **`answer_iff`**: what a query finds is what is offered.
-/

namespace Aes67.Ravenna

open DnsSd

/-- A packet that goes out: what it is about, and whether it withdraws it. -/
structure Packet where
  session : SessionAdvertisement
  goodbye : Bool

def Packet.bytes (packet : Packet) : Octets :=
  if packet.goodbye then buildGoodbye packet.session true else buildAnnouncement packet.session true

/-- `MdnsResponder`, on the link. -/
structure MdnsResponder where
  hostName : Octets
  addressV4 : UInt32
  port : UInt16
  extras : List SessionAdvertisement := []
  announcesExtras : Bool := true

namespace MdnsResponder

variable (responder : MdnsResponder) (catalogue : SessionCatalogue)

def everything : List SessionAdvertisement :=
  catalogue.advertisements responder.hostName responder.port responder.addressV4 ++
    if responder.announcesExtras then responder.extras else []

def asksAbout (asked : List Octets) (advertised : List SessionAdvertisement) : Bool :=
  asked.any fun name => advertised.any fun service =>
    name == service.serviceType.map lower ||
      (!service.subtype.isEmpty && name == service.subtype.map lower)

def announce : List Packet := (responder.everything catalogue).map (⟨·, false⟩)

def goodbye : List Packet := (responder.everything catalogue).map (⟨·, true⟩)

/-- `announceExtras`: the packets, and the responder after. -/
def announceExtras (announce : Bool) : List Packet × MdnsResponder :=
  if announce = responder.announcesExtras then ([], responder)
  else (responder.extras.map (⟨·, !announce⟩), { responder with announcesExtras := announce })

/-- `service`, for one packet that has come. -/
def service (packet : Octets) : List Packet :=
  match parseQueryNames packet with
  | .error _ => []
  | .ok names =>
    if asksAbout names (responder.everything catalogue) then responder.announce catalogue else []

end MdnsResponder

/-! ## A node at work -/

/-- The catalogue, the responder, and what has gone out. -/
structure Node where
  catalogue : SessionCatalogue := {}
  responder : MdnsResponder
  sent : List Packet := []

namespace Node

inductive Op
  | catalogue (op : SessionCatalogue.Op)
  | announce
  | goodbye
  | announceExtras (announce : Bool)
  | service (packet : Octets)

def step (node : Node) : Op → Node
  | .catalogue op => { node with catalogue := node.catalogue.step op }
  | .announce => { node with sent := node.sent ++ node.responder.announce node.catalogue }
  | .goodbye => { node with sent := node.sent ++ node.responder.goodbye node.catalogue }
  | .announceExtras announce =>
    { node with
      sent := node.sent ++ (node.responder.announceExtras announce).1
      responder := (node.responder.announceExtras announce).2 }
  | .service packet =>
    { node with sent := node.sent ++ node.responder.service node.catalogue packet }

/-- What a packet says of the session of a name. -/
def About (name : Text) (packet : Packet) : Prop :=
  packet.session.serviceType = kRtspService ∧ packet.session.instanceName = octets (.ofList name)

instance (name : Text) (packet : Packet) : Decidable (About name packet) :=
  inferInstanceAs (Decidable (_ ∧ _))

/-- **The link was last told** that there is a session of the name. -/
def Announced (node : Node) (name : Text) : Prop :=
  ((node.sent.filter (About name)).getLast?).map Packet.goodbye = some false

/-- The name stands announced, and there is no session behind it. -/
def Stale (node : Node) (name : Text) : Prop :=
  node.Announced name ∧ node.catalogue.sessions.find? name = none

/-- The sessions have names of bytes, and what else is advertised is of another type. -/
structure Distinct (node : Node) : Prop where
  bytes : ∀ k session, node.catalogue.sessions.find? k = some session → ∀ c ∈ k, c.toNat < 256
  extras : ∀ service ∈ node.responder.extras, service.serviceType ≠ kRtspService

end Node

/-! ## What a packet is about -/

variable {name : Text}

theorem octets_ofList (text : Text) : octets (.ofList text) = text.map fun c => .ofNat c.toNat := by
  rw [octets, String.toList_ofList]

/-- Texts of bytes are told apart by their bytes. -/
theorem eq_of_octets {s t : Text} (hs : ∀ c ∈ s, c.toNat < 256) (ht : ∀ c ∈ t, c.toNat < 256)
    (h : octets (.ofList s) = octets (.ofList t)) : s = t := by
  rw [octets_ofList, octets_ofList] at h
  induction s generalizing t with
  | nil =>
    cases t with
    | nil => rfl
    | cons d t => cases h
  | cons c s ih =>
    cases t with
    | nil => cases h
    | cons d t =>
      obtain ⟨hc, hs⟩ := List.forall_mem_cons.mp hs
      obtain ⟨hd, ht⟩ := List.forall_mem_cons.mp ht
      rw [List.map_cons, List.map_cons, List.cons.injEq] at h
      have hnat := congrArg UInt8.toNat h.1
      rw [UInt8.toNat_ofNat_of_lt' hc, UInt8.toNat_ofNat_of_lt' hd] at hnat
      rw [ih hs ht h.2, Char.toNat_inj.mp hnat]

namespace MdnsResponder

variable {responder : MdnsResponder} {catalogue : SessionCatalogue}

/-- The advertisement of a session. -/
def advertised (responder : MdnsResponder) (k : Text) (session : RavennaSession) :
    SessionAdvertisement where
  instanceName := octets (.ofList k)
  hostName := responder.hostName
  port := responder.port
  addressV4 := responder.addressV4
  txtEntries := [octets "txtvers=1", octets "path=" ++ octets (.ofList session.path),
    octets "channels=" ++ octets (.ofList (showNat session.sdp.numChannels.toNat))]

theorem mem_everything {service : SessionAdvertisement} : service ∈ responder.everything catalogue ↔
    (∃ k session, catalogue.sessions.find? k = some session ∧
      service = responder.advertised k session) ∨
    responder.announcesExtras = true ∧ service ∈ responder.extras := by
  rw [everything, List.mem_append]
  refine or_congr ?_ ?_
  · rw [SessionCatalogue.advertisements, List.mem_map]
    constructor
    · rintro ⟨⟨k, session⟩, he, rfl⟩
      exact ⟨k, session, (OrdMap.mem_entries_iff _).mp he, rfl⟩
    · rintro ⟨k, session, hfind, rfl⟩
      exact ⟨(k, session), (OrdMap.mem_entries_iff _).mpr hfind, rfl⟩
  · split_ifs with h
    · exact (and_iff_right h).symm
    · exact iff_of_false List.not_mem_nil fun hboth => h hboth.1

end MdnsResponder

namespace Node

variable {node : Node}

/-- What is said of a name is said while there is a session of it. -/
theorem Distinct.find?_of_about (h : node.Distinct) (hname : ∀ c ∈ name, c.toNat < 256)
    {service : SessionAdvertisement} (hs : service ∈ node.responder.everything node.catalogue)
    {goodbye : Bool} (ha : About name ⟨service, goodbye⟩) :
    ∃ session, node.catalogue.sessions.find? name = some session := by
  rcases MdnsResponder.mem_everything.mp hs with ⟨k, session, hfind, rfl⟩ | ⟨-, hextra⟩
  · rw [← eq_of_octets (h.bytes k session hfind) hname ha.2]
    exact ⟨session, hfind⟩
  · exact absurd ha.1 (h.extras service hextra)

/-- A step that sends packets which say nothing of a name. -/
theorem announced_append {packets : List Packet} (h : ∀ packet ∈ packets, ¬ About name packet)
    {node' : Node} (hsent : node'.sent = node.sent ++ packets) :
    node'.Announced name ↔ node.Announced name := by
  have hnone : packets.filter (About name) = [] :=
    List.filter_eq_nil_iff.mpr fun packet hp => by simpa using h packet hp
  rw [Announced, hsent, List.filter_append, hnone, List.append_nil, Announced]

/-- **What is sent** in a step, but for a change of the catalogue, says nothing of a name that no
session has. -/
theorem Distinct.not_about (h : node.Distinct) (hname : ∀ c ∈ name, c.toNat < 256)
    (hnone : node.catalogue.sessions.find? name = none) (goodbye : Bool) :
    (∀ packet ∈ (node.responder.everything node.catalogue).map (⟨·, goodbye⟩), ¬ About name packet) ∧
    ∀ packet ∈ node.responder.extras.map (⟨·, goodbye⟩ : SessionAdvertisement → Packet),
      ¬ About name packet := by
  constructor
  · intro packet hp ha
    obtain ⟨service, hs, rfl⟩ := List.mem_map.mp hp
    obtain ⟨session, hfind⟩ := h.find?_of_about hname hs ha
    rw [hnone] at hfind
    cases hfind
  · intro packet hp ha
    obtain ⟨service, hs, rfl⟩ := List.mem_map.mp hp
    exact h.extras service hs ha.1

theorem catalogue_step {op : Op} (hop : ∀ change, op ≠ .catalogue change) :
    (node.step op).catalogue = node.catalogue := by
  cases op with
  | catalogue change => exact absurd rfl (hop change)
  | _ => rfl

/-- What an operation sends that leaves the catalogue alone. -/
theorem Distinct.sent_step (h : node.Distinct) (hname : ∀ c ∈ name, c.toNat < 256)
    (hnone : node.catalogue.sessions.find? name = none) {op : Op}
    (hop : ∀ change, op ≠ .catalogue change) : ∃ packets,
      (node.step op).sent = node.sent ++ packets ∧ ∀ packet ∈ packets, ¬ About name packet := by
  cases op with
  | catalogue change => exact absurd rfl (hop change)
  | announce => exact ⟨_, rfl, (h.not_about hname hnone false).1⟩
  | goodbye => exact ⟨_, rfl, (h.not_about hname hnone true).1⟩
  | announceExtras announce =>
    refine ⟨_, rfl, ?_⟩
    rw [MdnsResponder.announceExtras]
    split_ifs
    · exact fun _ hp => absurd hp List.not_mem_nil
    · exact (h.not_about hname hnone _).2
  | service packet =>
    refine ⟨_, rfl, ?_⟩
    rw [MdnsResponder.service]
    split
    · exact fun _ hp => absurd hp List.not_mem_nil
    · split_ifs
      · exact (h.not_about hname hnone false).1
      · exact fun _ hp => absurd hp List.not_mem_nil

/-- Nothing but a change of the catalogue changes whether a name is stale. -/
theorem Distinct.stale_step_iff (h : node.Distinct) (hname : ∀ c ∈ name, c.toNat < 256) {op : Op}
    (hop : ∀ change, op ≠ .catalogue change) : (node.step op).Stale name ↔ node.Stale name := by
  rw [Stale, Stale, catalogue_step hop]
  refine and_congr_left fun hnone => ?_
  obtain ⟨packets, hsent, habout⟩ := h.sent_step hname hnone hop
  exact announced_append habout hsent

/-! ## Names that stand announced -/

/-- The name has bytes, where a session is added. -/
def Op.Bytes : Op → Prop
  | .catalogue (.add session) => ∀ c ∈ session.name, c.toNat < 256
  | _ => True

/-- A session of the name is added. -/
def Op.Adds (name : Text) : Op → Prop
  | .catalogue (.add session) => session.name = name ∧ SessionCatalogue.Sound session
  | _ => False

/-- The session of the name is removed while the name stands announced. -/
def Withdraws (name : Text) (node : Node) (op : Op) : Prop :=
  op = .catalogue (.remove name) ∧ node.Announced name

theorem Distinct.step (h : node.Distinct) {op : Op} (hop : op.Bytes) : (node.step op).Distinct := by
  cases op with
  | catalogue change =>
    refine ⟨fun k session hfind => ?_, h.extras⟩
    cases change with
    | add added =>
      by_cases hs : SessionCatalogue.Sound added
      · simp only [Node.step, SessionCatalogue.step, SessionCatalogue.add_of_sound hs,
          OrdMap.find?_insert] at hfind
        split_ifs at hfind with hk
        · exact hk ▸ hop
        · exact h.bytes k session hfind
      · obtain ⟨error, herror⟩ :=
          SessionCatalogue.add_of_not_sound node.catalogue hs
        simp only [Node.step, SessionCatalogue.step, herror] at hfind
        exact h.bytes k session hfind
    | remove removed =>
      simp only [Node.step, SessionCatalogue.step, SessionCatalogue.remove,
        OrdMap.find?_erase] at hfind
      split_ifs at hfind
      exact h.bytes k session hfind
  | announceExtras announce =>
    refine ⟨h.bytes, ?_⟩
    simp only [Node.step, MdnsResponder.announceExtras]
    split_ifs <;> exact h.extras
  | _ => exact ⟨h.bytes, h.extras⟩

/-- **One step**: a name comes to stand announced with no session behind it where its session is
removed, and stays so until one is added. -/
theorem stale_step (h : node.Distinct) (hname : ∀ c ∈ name, c.toNat < 256) (op : Op) :
    (node.step op).Stale name ↔ Withdraws name node op ∨ node.Stale name ∧ ¬ op.Adds name := by
  cases op with
  | catalogue change =>
    have hsent : (node.step (.catalogue change)).Announced name ↔ node.Announced name := Iff.rfl
    rw [Stale, hsent, Stale, Withdraws]
    cases change with
    | add session =>
      have hno : Op.catalogue (.add session) ≠ .catalogue (.remove name) := fun he => by cases he
      rw [Op.Adds]
      by_cases hs : SessionCatalogue.Sound session
      · simp only [Node.step, SessionCatalogue.step, SessionCatalogue.add_of_sound hs,
          OrdMap.find?_insert, hno, false_and, false_or, hs, and_true]
        by_cases hk : session.name = name
        · simp [hk]
        · simp [hk, Ne.symm hk]
      · obtain ⟨error, herror⟩ :=
          SessionCatalogue.add_of_not_sound node.catalogue hs
        simp only [Node.step, SessionCatalogue.step, herror, hno, false_and, false_or, hs, and_false,
          not_false_eq_true, and_true]
    | remove removed =>
      simp only [Node.step, SessionCatalogue.step, SessionCatalogue.remove, OrdMap.find?_erase,
        Op.Adds, not_false_eq_true, and_true]
      by_cases hk : removed = name
      · simp only [hk, if_true, and_true, true_and]
        tauto
      · have hno : Op.catalogue (.remove removed) ≠ .catalogue (.remove name) := fun he =>
          hk (by cases he; rfl)
        simp only [hno, if_neg (Ne.symm hk), false_and, false_or]
  | _ =>
    rw [h.stale_step_iff hname fun _ he => by cases he]
    simp only [Withdraws, Op.Adds, reduceCtorEq, false_and, false_or, not_false_eq_true, and_true]

/-- **What stands announced with no session behind it.** After any run, a name does just when its
session was removed while it stood announced and none of that name has been added since: no goodbye
that came later was about it. -/
theorem stale_iff (responder : MdnsResponder)
    (hextras : ∀ service ∈ responder.extras, service.serviceType ≠ kRtspService) {ops : List Op}
    (hbytes : ∀ op ∈ ops, op.Bytes) (hname : ∀ c ∈ name, c.toNat < 256) :
    (ops.foldl Node.step { responder := responder }).Stale name ↔
      ∃ before after, ops = before ++ .catalogue (.remove name) :: after ∧
        (before.foldl Node.step { responder := responder }).Announced name ∧
        ∀ op ∈ after, ¬ op.Adds name := by
  have hdistinct : Distinct { responder := responder } :=
    ⟨fun _ _ h => absurd h (Option.some_ne_none _).symm, hextras⟩
  have hfresh : ¬ Stale { responder := responder } name := fun h =>
    absurd h.1 (Option.some_ne_none _).symm
  have hsince := @iff_since Node Op Node.step (Stale · name) Distinct (Withdraws name) (Op.Adds name)
    Op.Bytes { responder := responder } hfresh hdistinct (fun _ _ h hop => h.step hop)
    (fun _ op h _ => stale_step h hname op) ops hbytes
  rw [hsince]
  constructor
  · rintro ⟨before, _, after, rfl, ⟨rfl, hann⟩, hafter⟩
    exact ⟨before, after, rfl, hann, hafter⟩
  · rintro ⟨before, after, rfl, hann, hafter⟩
    exact ⟨before, _, after, rfl, ⟨rfl, hann⟩, hafter⟩

/-! A session is announced, withdrawn while it is there, announced again, and removed before the next
goodbye. -/

def departing : List Op :=
  [.catalogue (.add SessionCatalogue.stage), .announce, .goodbye, .announce,
    .catalogue (.remove "Stage".toList), .goodbye]

theorem stale_iff_departing :
    (departing.foldl Node.step
        { responder := { hostName := [], addressV4 := 0, port := 554 } }).Stale "Stage".toList ↔
      ∃ before after, departing = before ++ .catalogue (.remove "Stage".toList) :: after ∧
        (before.foldl Node.step
            { responder := { hostName := [], addressV4 := 0, port := 554 } }).Announced
          "Stage".toList ∧
        ∀ op ∈ after, ¬ op.Adds "Stage".toList :=
  stale_iff _ (fun _ h => absurd h List.not_mem_nil)
    (fun op hop => by
      simp only [departing, List.mem_cons, List.not_mem_nil, or_false] at hop
      rcases hop with rfl | rfl | rfl | rfl | rfl | rfl
      · exact SessionCatalogue.stageService.bytes
      all_goals trivial)
    SessionCatalogue.stageService.bytes

end Node

/-! ## What a query finds -/

namespace MdnsResponder

variable {responder : MdnsResponder} {catalogue : SessionCatalogue}

/-- **An advertisement that can be written**, as one that is read back. -/
structure Writable (session : SessionAdvertisement) : Prop where
  proper : Proper session
  inst : (encodeName (instanceFqdn session)).length ≤ 65535
  host : 6 + (encodeName session.hostName).length ≤ 65535

/-- A RAVENNA session that is announced is found. -/
theorem parse_announcement {session : SessionAdvertisement} (h : Writable session)
    (htype : session.serviceType = kRtspService) (hsub : session.subtype = kRavennaSessionSubtype) :
    parseServiceResponse (buildAnnouncement session true) kRtspService = .ok [announced session] := by
  have hother : spelled (labelsOf kRavennaSessionSubtype) ≠ kRtspService.map lower := by decide
  rw [← htype, buildAnnouncement, buildRecords_eq,
    parse_buildPacket (tells_told h.proper h.inst h.host (fun _ => by rw [hsub, htype]; exact hother)
      _ _) (answerCountFor_eq session true _ _), found_told]

theorem dotted_kRtspService : Dotted kRtspService :=
  ⟨octets "_rtsp", [octets "_tcp", octets "local"], by decide, by decide⟩

/-- **The answer to a query for RAVENNA sessions**, where there is one. -/
theorem service_buildQuery {k : Text} {session : RavennaSession}
    (h : catalogue.sessions.find? k = some session) :
    responder.service catalogue (buildQuery kRtspService) = responder.announce catalogue := by
  have hmem : responder.advertised k session ∈ responder.everything catalogue :=
    mem_everything.mpr (.inl ⟨k, session, h, rfl⟩)
  have hasks : asksAbout [kRtspService.map lower] (responder.everything catalogue) = true := by
    rw [asksAbout, List.any_cons, List.any_nil, Bool.or_false, List.any_eq_true]
    refine ⟨_, hmem, ?_⟩
    rw [advertised, beq_self_eq_true, Bool.true_or]
  rw [service, parseQueryNames_buildQuery dotted_kRtspService]
  dsimp only
  rw [if_pos hasks]

/-- What is answered is announced. -/
theorem mem_service {query : Octets} {packet : Packet}
    (h : packet ∈ responder.service catalogue query) :
    packet.session ∈ responder.everything catalogue ∧ packet.goodbye = false := by
  rw [service] at h
  split at h
  · exact absurd h List.not_mem_nil
  · split_ifs at h
    · obtain ⟨session, hs, rfl⟩ := List.mem_map.mp h
      exact ⟨hs, rfl⟩
    · exact absurd h List.not_mem_nil

/-- **What a query finds is what is offered**: after any run, an answer to it announces a session
with the path of a name just when one of that name is offered. -/
theorem answer_iff (responder : MdnsResponder)
    (hextras : ∀ service ∈ responder.extras, service.serviceType ≠ kRtspService)
    {ops : List SessionCatalogue.Op} {name : Text} (hown : SessionCatalogue.OwnPaths ops)
    (hbytes : ∀ session, .add session ∈ ops → ∀ c ∈ session.name, c.toNat < 256)
    (hname : ∀ c ∈ name, c.toNat < 256)
    (hwritable : ∀ k session, (ops.foldl SessionCatalogue.step {}).sessions.find? k = some session →
      Writable (responder.advertised k session)) :
    (∃ packet ∈ responder.service (ops.foldl SessionCatalogue.step {}) (buildQuery kRtspService),
      packet.session.serviceType = kRtspService ∧
      ∃ found, parseServiceResponse packet.bytes kRtspService = .ok [found] ∧
        octets "path=" ++ octets (.ofList (SessionCatalogue.pathFor name)) ∈ found.txtEntries) ↔
      ∃ session, SessionCatalogue.offered ops name = some session := by
  have hparse : ∀ k session,
      (ops.foldl SessionCatalogue.step {}).sessions.find? k = some session →
      parseServiceResponse (Packet.bytes ⟨responder.advertised k session, false⟩) kRtspService =
        .ok [announced (responder.advertised k session)] := fun k session hfind =>
    parse_announcement (hwritable k session hfind) rfl rfl
  have hoffered : ∀ k session,
      (ops.foldl SessionCatalogue.step {}).sessions.find? k = some session →
      session.path = SessionCatalogue.pathFor k ∧ (∀ c ∈ k, c.toNat < 256) ∧
        ∃ added, SessionCatalogue.offered ops k = some added := by
    intro k session hfind
    rw [SessionCatalogue.find?_run] at hfind
    obtain ⟨added, hadded, rfl⟩ := Option.map_eq_some_iff.mp hfind
    obtain ⟨hmem, hk, -⟩ := SessionCatalogue.mem_of_offered hadded
    rw [SessionCatalogue.path_stored (hown added hmem), hk]
    exact ⟨rfl, hk ▸ hbytes added hmem, added, hadded⟩
  have hpath : ∀ k : Text, (∀ c ∈ k, c.toNat < 256) →
      ∀ c ∈ SessionCatalogue.pathFor k, c.toNat < 256 := fun k hk => by
    have hprefix : "/by-name/".toList.all (fun c => decide (c.toNat < 256)) = true := by decide
    refine List.forall_mem_append.mpr ⟨fun c hc => ?_, hk⟩
    exact of_decide_eq_true (List.all_eq_true.mp hprefix c hc)
  constructor
  · rintro ⟨⟨service, goodbye⟩, hp, htype, found, hfound, hentry⟩
    obtain ⟨hs, rfl⟩ := mem_service hp
    rcases mem_everything.mp hs with ⟨k, session, hfind, rfl⟩ | ⟨-, hextra⟩
    · obtain ⟨hsession, hk, hadded⟩ := hoffered k session hfind
      rw [hparse k session hfind] at hfound
      obtain rfl := List.singleton_inj.mp (Except.ok.inj hfound)
      have hown : k = name := by
        simp only [announced, advertised, List.mem_cons, List.not_mem_nil, or_false] at hentry
        rcases hentry with he | he | he
        · exact absurd (congrArg List.head? he) (by simp [octets])
        · rw [hsession] at he
          exact (SessionCatalogue.pathFor_injective
            (eq_of_octets (hpath name hname) (hpath k hk) (List.append_cancel_left he))).symm
        · exact absurd (congrArg List.head? he) (by simp [octets])
      exact hown ▸ hadded
    · exact absurd htype (hextras service hextra)
  · rintro ⟨added, hadded⟩
    obtain ⟨session, hfind⟩ : ∃ session,
        (ops.foldl SessionCatalogue.step {}).sessions.find? name = some session :=
      ⟨_, by rw [SessionCatalogue.find?_run, hadded]; rfl⟩
    obtain ⟨hsession, -, -⟩ := hoffered name session hfind
    refine ⟨⟨responder.advertised name session, false⟩, ?_, rfl, _, hparse name session hfind, ?_⟩
    · rw [service_buildQuery hfind, announce]
      exact List.mem_map_of_mem (mem_everything.mpr (.inl ⟨name, session, hfind, rfl⟩))
    · rw [← hsession]
      exact List.mem_cons_of_mem _ List.mem_cons_self

def box : MdnsResponder where
  hostName := octets "Box.local"
  addressV4 := 0x0A000001
  port := 8554

theorem writable_stage :
    Writable (box.advertised "Stage".toList (SessionCatalogue.stored SessionCatalogue.stage)) where
  proper :=
    { inst := ⟨octets "Stage", [], by decide, by decide⟩
      type := dotted_kRtspService
      host := ⟨octets "Box", [octets "local"], by decide, by decide⟩
      entries := by decide
      txt := by decide }
  inst := by decide
  host := by decide

/-- The two microphones are found. -/
theorem answer_iff_stage :
    (∃ packet ∈ box.service (SessionCatalogue.changes.foldl SessionCatalogue.step {})
        (buildQuery kRtspService),
      packet.session.serviceType = kRtspService ∧
      ∃ found, parseServiceResponse packet.bytes kRtspService = .ok [found] ∧
        octets "path=" ++ octets (.ofList (SessionCatalogue.pathFor "Stage".toList)) ∈
          found.txtEntries) ↔
      ∃ session, SessionCatalogue.offered SessionCatalogue.changes "Stage".toList = some session := by
  have hadds : ∀ session, .add session ∈ SessionCatalogue.changes →
      session = SessionCatalogue.stage := by
    intro session hs
    rcases List.mem_cons.mp hs with he | hs
    · cases he
      rfl
    · cases List.mem_singleton.mp hs
  refine answer_iff box (fun _ h => absurd h List.not_mem_nil) (fun session hs => ?_)
    (fun session hs => ?_) SessionCatalogue.stageService.bytes fun k session hfind => ?_
  · exact hadds session hs ▸ .inl rfl
  · exact hadds session hs ▸ SessionCatalogue.stageService.bytes
  · rw [SessionCatalogue.find?_run] at hfind
    obtain ⟨added, hadded, rfl⟩ := Option.map_eq_some_iff.mp hfind
    obtain ⟨hmem, rfl, -⟩ := SessionCatalogue.mem_of_offered hadded
    rw [hadds added hmem]
    exact writable_stage

end MdnsResponder

end Aes67.Ravenna
