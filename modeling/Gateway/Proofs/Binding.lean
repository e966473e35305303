import Gateway.Proofs.AddressReading
import Gateway.Settings.Basic

/-!
The address that the host binds. The configured host and the port are joined with a colon and read as a
socket address, so an address of version 6 has to be configured in brackets.
-/
namespace Gateway.Settings

variable {s : Settings} {port : UInt16}

theorem address_of_port_some (h : s.port = some port) : s.address =
    match SocketAddress.ofText? (addressText s.host port) with
    | some a => .ok a
    | none => .error (.invalidAddress (addressText s.host port)) := by
  simp only [address, requiredPort, h]
  rfl

/-- A host that makes, with the port, the text of a socket address has that address bound. -/
theorem address_of_text {a : SocketAddress} (hport : s.port = some a.port)
    (hhost : addressText s.host a.port = a.text)
    (hzone : ∀ w x y z, a.ip = .v4 w x y z → a.zone = 0) : s.address = .ok a := by
  rw [address_of_port_some hport, hhost, SocketAddress.ofText?_text a hzone]

theorem address_of_unread (hport : s.port = some port)
    (hunread : SocketAddress.ofText? (addressText s.host port) = none) :
    s.address = .error (.invalidAddress (addressText s.host port)) := by
  rw [address_of_port_some hport, hunread]

theorem addressText_v4 (a b c d : UInt8) (port : UInt16) :
    addressText (IpAddress.v4 a b c d).text port =
      SocketAddress.text { ip := .v4 a b c d, port } :=
  String.append_assoc

theorem addressText_brackets (g : Ip6) (port : UInt16) :
    addressText ("[" ++ (IpAddress.v6 g).text ++ "]") port =
      SocketAddress.text { ip := .v6 g, port } := by
  rw [addressText, SocketAddress.text]
  dsimp only
  rw [if_pos rfl, String.append_empty, String.append_assoc]

theorem toList_addressText (host : String) (port : UInt16) :
    (addressText host port).toList = host.toList ++ ':' :: Nat.toDigits 10 port.toNat := by
  simp [addressText]

/-- An address of version 4 in its text form is bound with the port. One of version 6 is refused, and bound
only if it is put in brackets. -/
theorem address_ipText (s : Settings) (port : UInt16) :
    (∀ a b c d, let ip := IpAddress.v4 a b c d
      { s with host := ip.text, port := some port }.address = .ok { ip, port }) ∧
    ∀ g, let ip := IpAddress.v6 g
      { s with host := ip.text, port := some port }.address =
          .error (.invalidAddress (ip.text ++ ":" ++ toString port.toNat)) ∧
        { s with host := "[" ++ ip.text ++ "]", port := some port }.address = .ok { ip, port } := by
  refine ⟨fun a b c d => ?_, fun g => ⟨?_, ?_⟩⟩
  · exact address_of_text (a := { ip := .v4 a b c d, port }) rfl (addressText_v4 a b c d port)
      fun _ _ _ _ _ => rfl
  · have hunread : SocketAddress.ofText? (addressText (IpAddress.v6 g).text port) = none :=
      SocketAddress.ofText?_bare port (IpAddress.written_groupsText g.groups)
        (toList_addressText _ port)
    exact address_of_unread rfl hunread
  · exact address_of_text (a := { ip := .v6 g, port }) rfl (addressText_brackets g port)
      fun _ _ _ _ _ => rfl

/-- The loopback address of version 6, which is not bound in its text form. -/
theorem address_ne_loopback :
    let s : Settings :=
      { host := "::1", port := some 8000, entry := "main", staticDir := "public", mount := none
        strip := false, level := "info", accessLog := true, accessLogFormat := "common"
        serverName := "devroute", maxBodySize := 10485760, keepAliveTimeout := 5, readTimeout := 60
        writeTimeout := 60 }
    let ip := IpAddress.v6 ⟨[0, 0, 0, 0, 0, 0, 0, 1], rfl⟩
    s.host = ip.text ∧ s.address = .error (.invalidAddress "::1:8000") ∧
      s.address ≠ .ok { ip, port := 8000 } := by decide

end Gateway.Settings
