import StreamedInference.Proofs.Net.Address
import StreamedInference.Proofs.Program.Lifecycle
import StreamedInference.Proofs.Settings.Acceptance

/-!
# What a process announces and what it serves

A process announces the configured port and has its health checked at a text that is made of its
address and this port with a colon in between. An agent finds what is served only if this text is
that of a socket and the port is the one that the system has bound. The first is so for IPv4
addresses and not for IPv6 addresses, whose text has colons itself; the second is so unless the
configured port is zero, which is accepted and leaves the choice to the system.

## Main definitions

* `Json.member?`: a member of an object.
* `Surroundings.BindsAsAsked`: what is asked of the system.
* `Registration.IsSocket`: a text is that of the socket that is announced.

## Main results

* `Registration.isSocket_checkTarget_iff`: when the health check is made at this socket.
* `Program.announces_what_is_bound`: when a process announces what it serves.
-/

namespace StreamedInference

/-- The first member of an object with a name. -/
def Json.member? (name : String) : Json → Option Json
  | .object members => (members.find? fun m => m.1 == some name).map (·.2)
  | _ => none

/-- The system binds the port that it is asked for; if that is zero, it chooses one that is not. -/
def Surroundings.BindsAsAsked (w : Surroundings) : Prop :=
  ∀ (host : String) (port bound : UInt16),
    w.bind (host ++ ":" ++ toString port.toNat) = .ok bound →
      if port = 0 then bound ≠ 0 else bound = port

/-- No process listens at the port zero, so it listens at the port that it has asked for unless this
is zero. -/
theorem Surroundings.BindsAsAsked.eq_iff {w : Surroundings} (hw : w.BindsAsAsked) {host : String}
    {port bound : UInt16} (hb : w.bind (host ++ ":" ++ toString port.toNat) = .ok bound) :
    bound ≠ 0 ∧ (port = bound ↔ port ≠ 0) := by
  have hbound := hw host port bound hb
  by_cases hzero : port = 0
  · rw [if_pos hzero] at hbound
    exact ⟨hbound, fun h => absurd (h ▸ hzero) hbound, fun h => absurd hzero h⟩
  · rw [if_neg hzero] at hbound
    exact ⟨hbound ▸ hzero, fun _ => hzero, fun _ => hbound.symm⟩

namespace Registration

/-- A text is that of the socket at which the instance is announced. -/
def IsSocket (r : Registration) (text : String) : Prop :=
  ∃ socket, SocketAddress.ofText? text = some socket ∧ socket.address = r.address ∧
    socket.port = r.port

theorem toList_checkTarget (r : Registration) :
    r.checkTarget.toList = r.address.chars ++ ':' :: decimal r.port.toNat := by
  simp [checkTarget, IPAddress.toText]

/-- The health of an instance with an IPv6 address is checked at no socket. -/
theorem ofText?_checkTarget_v6 {r : Registration} {x : IPv6} (h : r.address = .v6 x) :
    SocketAddress.ofText? r.checkTarget = none := by
  have htext := r.toList_checkTarget
  rw [h] at htext
  exact SocketAddress.ofText?_v6 htext

/-- The health of an instance is checked at its socket exactly if it has an IPv4 address. -/
theorem isSocket_checkTarget_iff (r : Registration) :
    r.IsSocket r.checkTarget ↔ ∃ x, r.address = .v4 x := by
  have htext := r.toList_checkTarget
  cases h : r.address with
  | v4 x =>
    rw [h] at htext
    exact iff_of_true ⟨_, SocketAddress.ofText?_v4 htext, h.symm, rfl⟩ ⟨x, rfl⟩
  | v6 x =>
    refine iff_of_false ?_ nofun
    rintro ⟨socket, hsocket, -⟩
    simp [ofText?_checkTarget_v6 h] at hsocket

end Registration

/-- A process asks for its port at the end of the address that it listens at. -/
theorem Configuration.exists_listenAddress_eq {words : List String} {env : Environment}
    {c : Configuration} (h : load words env = .ok c) :
    ∃ host, c.listenAddress = host ++ ":" ++ toString c.port.toNat := by
  obtain ⟨l, -, hl⟩ := load_eq_ok_iff.mp h
  obtain ⟨rfl, -⟩ := ofLayer?_eq_ok_iff.mp hl
  exact ⟨_, rfl⟩

/-- A server that has come to serve has announced itself first. -/
theorem Server.Stands.head?_registryCalls {s : Server} {outcome : DrainOutcome}
    (h : s.Stands outcome) (hserves : .entered .serving ∈ s.history) :
    s.registryCalls.head? = some (.register s.setup.registration) := by
  obtain ⟨rest, hrest⟩ := h.history_isPrefix
  cases hhistory : s.history with
  | nil => simp [hhistory] at hserves
  | cons m history =>
    rw [hhistory] at hrest
    obtain rfl := (List.cons.inj hrest).1
    simp [registryCalls, hhistory]

namespace Program

variable {w : Surroundings} {words : List String} {env : Environment} {beside : Option String}
  {start : Server}

/-- **What a process announces and what it serves.** Let the system bind the port that it is asked
for, or any but zero if this is zero, and take any surroundings, command line and environment with
which a process makes a server. Its settings have been accepted, and it listens at a port other than
zero.

Take any run of the server that has come to serve, whatever clients, the transport, the clock and
those who can stop it do, and whatever the registry answers. It has announced itself first, at the
address that it is told to announce or has found. The agent is told this address, the port and
where the health of the server is checked.

* If the address is an IPv4 address, the health is checked at the text of the socket that is
  announced.
* If it is an IPv6 address, the health is checked at what is not the text of any socket.
* The port is the one at which the process listens unless the configured port is zero. -/
theorem announces_what_is_bound (hw : w.BindsAsAsked)
    (h : server? w words env beside = some start) :
    ∃ c bound, Configuration.load words (environment env beside) = .ok c ∧
      w.bind c.listenAddress = .ok bound ∧ bound ≠ 0 ∧
      ∀ s, Server.tasks.Reachable Server.befall start s → .entered .serving ∈ s.history →
        let r := start.setup.registration
        s.registryCalls.head? = some (.register r) ∧
          r.address = (ServerSetup.of c c.port w.route).announcedAddress.1 ∧
          (RegistryCall.register r).body = some r.payload ∧
          r.payload.member? "Address" = some (.text r.address.toText) ∧
          r.payload.member? "Port" = some (.natural r.port.toNat) ∧
          (r.payload.member? "Check").bind (·.member? "GRPC") = some (.text r.checkTarget) ∧
          (r.IsSocket r.checkTarget ↔ ∃ x, r.address = .v4 x) ∧
          ((∃ x, r.address = .v6 x) → SocketAddress.ofText? r.checkTarget = none) ∧
          (r.port = bound ↔ c.port ≠ 0) := by
  obtain ⟨c, hc⟩ := exists_load_of_server? h
  obtain ⟨host, hhost⟩ := Configuration.exists_listenAddress_eq hc
  obtain ⟨setup, registrar, sessions, engine', limit, hmade⟩ := exists_create?_of_server? h
  have hstands := Server.stands_of_create? hmade
  obtain ⟨engine, service, rfl, hfails, -⟩ := exists_service_of_server? hc h
  cases hb : w.bind c.listenAddress with
  | error cause => exact absurd (.binding hc hb) hfails
  | ok bound =>
    obtain ⟨hzero, hport⟩ := hw.eq_iff (hhost ▸ hb)
    refine ⟨c, bound, hc, hb, hzero, fun s hr hserves => ?_⟩
    obtain ⟨outcome, hs⟩ := hstands.of_reachable hr
    have hcall := hs.head?_registryCalls hserves
    rw [Server.setup_of_reachable hr] at hcall
    exact ⟨hcall, rfl, rfl, rfl, rfl, rfl, Registration.isSocket_checkTarget_iff _,
      fun ⟨_, hx⟩ => Registration.ofText?_checkTarget_v6 hx, hport⟩

/-- The port at the end of a text. -/
def portAtEnd? (text : String) : Option UInt16 :=
  (takePort (':' :: (text.toList.reverse.takeWhile (· != ':')).reverse)).map (·.1)

theorem portAtEnd?_append (host : String) (port : UInt16) :
    portAtEnd? (host ++ ":" ++ toString port.toNat) = some port := by
  have hdigits : ∀ c ∈ (decimal port.toNat).reverse, (c != ':') = true := by
    intro c hc
    have hdigit := isDigit_of_mem_decimal (List.mem_reverse.mp hc)
    rw [bne_iff_ne]
    rintro rfl
    exact absurd hdigit (by decide)
  have htext : (host ++ ":" ++ toString port.toNat).toList =
      host.toList ++ ':' :: decimal port.toNat := by
    rw [Nat.toString_eq_ofList_toDigits]
    simp [decimal]
  have hend : ((decimal port.toNat).reverse ++ ':' :: host.toList.reverse).takeWhile (· != ':') =
      (decimal port.toNat).reverse := by
    rw [List.takeWhile_append_of_pos hdigits]
    simp
  have hreverse : (host.toList ++ ':' :: decimal port.toNat).reverse =
      (decimal port.toNat).reverse ++ ':' :: host.toList.reverse := by simp
  rw [portAtEnd?, htext, hreverse, hend, List.reverse_reverse, takePort_decimal]
  rfl

/-- A system that binds every port. -/
def quay : Surroundings :=
  { harbour with
    bind := fun text =>
      match portAtEnd? text with
      | none => .error "invalid socket address"
      | some port => .ok (if port = 0 then 40000 else port) }

theorem bindsAsAsked_quay : quay.BindsAsAsked := by
  intro host port bound hb
  simp only [quay, portAtEnd?_append, Except.ok.injEq] at hb
  split
  · rw [if_pos ‹_›] at hb
    exact hb ▸ by decide
  · rw [if_neg ‹_›] at hb
    exact hb.symm

/-- The configuration of a process that is told an address and a port alone. -/
def advertising (x : IPAddress) (port : UInt16) : Configuration :=
  { Configuration.ofLayer fun _ => none with
    listenAddress := "0.0.0.0:" ++ toString port.toNat
    port := port
    registry := { advertised := some x } }

/-- What such a process announces. -/
def advertised (x : IPAddress) (port : UInt16) : Registration :=
  (ServerSetup.of (advertising x port) port none).registration

/-- A process announces an instance first and comes to serve. -/
def Announces (w : Surroundings) (words : List String) (r : Registration) : Prop :=
  ∃ start s, server? w words [] none = some start ∧
    Server.tasks.Reachable Server.befall start s ∧ .entered .serving ∈ s.history ∧
    s.registryCalls.head? = some (.register r)

/-- It does so if this is seen as soon as it has begun. -/
theorem announces_of_begin {r : Registration}
    (h : (server? w words [] none).any (fun start =>
      (begin start).server.history.contains (.entered .serving) &&
        (begin start).server.registryCalls.head? == some (.register r)) = true) :
    Announces w words r := by
  obtain ⟨start, hstart, hbegin⟩ := (Option.any_eq_true _ _).mp h
  rw [Bool.and_eq_true, List.contains_iff_mem, beq_iff_eq] at hbegin
  exact ⟨start, _, hstart, settle_reachable .start, hbegin⟩

/-- A process that is told an IPv4 address and a port announces what it serves. -/
theorem announces_what_is_bound_of_quay :
    let words := ["--advertise-ip", "192.0.2.7", "--grpc-port", "9000"]
    let r := advertised (.v4 ⟨192, 0, 2, 7⟩) 9000
    Announces quay words r ∧ r.checkTarget = "192.0.2.7:9000" ∧
      r.IsSocket r.checkTarget ∧ quay.bind "0.0.0.0:9000" = .ok r.port := by
  intro words r
  have hc : Configuration.load words (environment [] none) =
      .ok (advertising (.v4 ⟨192, 0, 2, 7⟩) 9000) := by decide +kernel
  obtain ⟨start, s, hstart, hr, hserves, hcall⟩ : Announces quay words r :=
    announces_of_begin (by decide +kernel)
  obtain ⟨c, bound, hc', hbound, -, hall⟩ := announces_what_is_bound bindsAsAsked_quay hstart
  obtain rfl := Except.ok.inj (hc.symm.trans hc')
  obtain ⟨hcall', -, -, -, -, -, hsocket, -, hport⟩ := hall s hr hserves
  have hsame : r = start.setup.registration :=
    RegistryCall.register.inj (Option.some.inj (hcall.symm.trans hcall'))
  rw [← hsame] at hsocket hport
  refine ⟨⟨start, s, hstart, hr, hserves, hcall⟩, by decide +kernel, hsocket.mpr ⟨_, rfl⟩, ?_⟩
  exact hbound.trans (congrArg _ (hport.mpr (by decide)).symm)

/-- A process that is told an IPv6 address has its health checked at what is no socket, and one that
is told the port zero announces this and not the port that is chosen for it. -/
theorem announces_unserved_of_quay :
    quay.BindsAsAsked ∧
      (∃ r, Announces quay ["--advertise-ip", "2001:db8::1"] r ∧
        r.checkTarget = "2001:db8::1:8083" ∧ SocketAddress.ofText? r.checkTarget = none) ∧
      (∃ r, Announces quay ["--advertise-ip", "192.0.2.7", "--grpc-port", "0"] r ∧
        r.port = 0 ∧ quay.bind "0.0.0.0:0" = .ok 40000) :=
  ⟨bindsAsAsked_quay,
    ⟨advertised (.v6 ⟨[0x2001, 0xdb8, 0, 0, 0, 0, 0, 1], rfl⟩) 8083,
      announces_of_begin (by decide +kernel), by decide +kernel, by decide +kernel⟩,
    ⟨advertised (.v4 ⟨192, 0, 2, 7⟩) 0, announces_of_begin (by decide +kernel), rfl,
      by decide +kernel⟩⟩

end Program

end StreamedInference
