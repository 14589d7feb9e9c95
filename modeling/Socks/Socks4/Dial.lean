import Socks.Socks4.RoundTrip

/-!
# The request the SOCKS4 dialer sends

`Dialer.DialContext` and `Dialer.BindContext` (`socks4/dial.go`) split the
target with `net.SplitHostPort`, parse its port, and build the request with
`Init` from `net.ParseIP(host)`; a host that `net.ParseIP` does not take is
sent as SOCKS4a, with the address `0.0.0.1` and the host as domain.

`net.ParseIP` belongs to the standard library, so its result is a parameter,
`parsed`, of what is built here: nil for a hostname, a 16-byte slice whose
`To4()` is the address for an IPv4 literal, and a 16-byte slice whose `To4()`
is nil for an IPv6 literal (one that is not IPv4-mapped).

* `dialRequest_reads_back`: for an IPv4 literal outside `0.0.0.0/24` and for a
  non-empty NUL-free hostname that fits the listener's limit, the proxy's
  `ReadFrom` reads back a valid request with the target's port and the
  dialer's user ID, whose `GetHost()` is the dotted quad or the hostname. An
  IPv6 literal is sent as a SOCKS4 request for `0.0.0.0`, which `Validate`
  rejects for `CONNECT`.
-/

namespace Socks.Socks4

/-- The request `DialContext` (`command = CmdConnect`) and `BindContext`
(`CmdBind`) build for the target `host:port`, `parsed` being
`net.ParseIP(host)`: `Init` copies `parsed.To4()`, and when `parsed` is nil
the address becomes `0.0.0.1` and the host the domain. -/
def dialRequest (command : UInt8) (host : Bytes) (port : UInt16) (parsed : NetIP)
    (userID : Bytes) : Request :=
  let req := Request.zero.init socksVersion command port parsed userID []
  if parsed = none then { req with ip := req.ip.copy [0, 0, 0, 1], domain := host } else req

section

variable {command : UInt8} {host : Bytes} {port : UInt16} {parsed : NetIP} {userID : Bytes}

theorem dialRequest_of_to4 {a b c d : UInt8} (ipv4 : parsed.to4 = some [a, b, c, d]) :
    dialRequest command host port parsed userID = ⟨4, command, port, ⟨a, b, c, d⟩, userID, []⟩ := by
  have parsedNe : parsed ≠ none := by rintro rfl; simp [NetIP.to4] at ipv4
  simp [dialRequest, parsedNe, Request.init, ipv4, NetIP.bytes, IP4.copy, socksVersion]

theorem dialRequest_none :
    dialRequest command host port none userID = ⟨4, command, port, ⟨0, 0, 0, 1⟩, userID, host⟩ := by
  simp [dialRequest, Request.init, NetIP.to4, NetIP.bytes, Request.zero, IP4.copy, socksVersion]

theorem dialRequest_of_to4_eq_none (parsedNe : parsed ≠ none) (notIPv4 : parsed.to4 = none) :
    dialRequest command host port parsed userID = ⟨4, command, port, IP4.zero, userID, []⟩ := by
  simp [dialRequest, parsedNe, Request.init, notIPv4, NetIP.bytes, Request.zero, IP4.copy,
    socksVersion]

/-- `ValidateHeader` of a built request for any address but `0.0.0.0`. -/
theorem validateHeader_of_ne_zero {a b c d : UInt8} {domain : Bytes}
    (cmd : command = cmdConnect ∨ command = cmdBind) (nonzero : ¬(a = 0 ∧ b = 0 ∧ c = 0 ∧ d = 0)) :
    (⟨4, command, port, ⟨a, b, c, d⟩, userID, domain⟩ : Request).validateHeader = none := by
  rcases cmd with rfl | rfl <;>
    simp_all [Request.validateHeader, NetIP.to4, NetIP.equal, NetIP.bytes, ipv4zero, IP4.toBytes,
      v4InV6Prefix, socksVersion, cmdConnect, cmdBind]

end

/-- **The dialer's request.** For a user ID without NUL that fits the
listener's limit, the request `DialContext` or `BindContext` writes is its
encoding, and:
an IPv4 literal outside `0.0.0.0/24` is read back as a valid SOCKS4 request
whose `GetHost()` is the dotted quad; a non-empty NUL-free hostname within the
limit is read back as a valid SOCKS4a request for `0.0.0.1` whose `GetHost()`
is the hostname; an IPv6 literal gives a SOCKS4 request for `0.0.0.0`, which
`Validate` rejects for `CONNECT`. -/
theorem dialRequest_reads_back {command : UInt8} (cmd : command = cmdConnect ∨ command = cmdBind)
    {host : Bytes} {port : UInt16} {parsed : NetIP} {userID : Bytes}
    (userNul : 0 ∉ userID) (userFits : userID.length ≤ 256) :
    let req := dialRequest command host port parsed userID
    ((req.writeTo (Sink.accepting [])).dst.written = req.encode ∧
      req.port = port ∧ req.userID = userID) ∧
    (∀ a b c d, parsed.to4 = some [a, b, c, d] → ¬(a = 0 ∧ b = 0 ∧ c = 0) →
      Request.ReadsBack req ∧ req.validate = none ∧ req.isSOCKS4a = false ∧
        req.getHost = IP4.toString ⟨a, b, c, d⟩) ∧
    (parsed = none → host ≠ [] → 0 ∉ host → host.length ≤ 256 →
      Request.ReadsBack req ∧ req.validate = none ∧ req.isSOCKS4a = true ∧
        req.ip = ⟨0, 0, 0, 1⟩ ∧ req.getHost = host) ∧
    (parsed ≠ none → parsed.to4 = none →
      req.ip = IP4.zero ∧ req.isSOCKS4a = false ∧ req.getHost = IP4.zero.toString ∧
        (command = cmdConnect → req.validate = some (.socks4 .errInvalidIP))) := by
  intro req
  refine ⟨⟨by simp [Request.writeTo_accepting], ?_⟩, ?_, ?_, ?_⟩
  · simp only [req, dialRequest]
    split <;> simp [Request.init]
  · intro a b c d ipv4 notZeroNet
    have built : req = ⟨4, command, port, ⟨a, b, c, d⟩, userID, []⟩ := dialRequest_of_to4 ipv4
    have notSocks4a : req.isSOCKS4a = false := by
      simp only [built, Request.isSOCKS4a]; simp_all
    have header : (⟨4, command, port, ⟨a, b, c, d⟩, userID, []⟩ : Request).validateHeader =
        none := validateHeader_of_ne_zero cmd (by tauto)
    have valid : req.validate = none := by
      simp [Request.validate, built, header, Request.validateDomain]
      simp_all [Request.isSOCKS4a]
    refine ⟨fun src s bytes => Request.readFrom_encode valid ?_ ?_ ?_ ?_ bytes, valid, notSocks4a,
      ?_⟩
    all_goals simp_all [built, Request.getHost]
  · rintro rfl hostNe hostNul hostFits
    have built : req = ⟨4, command, port, ⟨0, 0, 0, 1⟩, userID, host⟩ := dialRequest_none
    have header : (⟨4, command, port, ⟨0, 0, 0, 1⟩, userID, host⟩ : Request).validateHeader =
        none := validateHeader_of_ne_zero cmd (by simp)
    have valid : req.validate = none := by
      simp [Request.validate, built, header, Request.validateDomain, Request.isSOCKS4a, hostNe]
    refine ⟨fun src s bytes => Request.readFrom_encode valid ?_ ?_ ?_ ?_ bytes, valid, ?_, ?_, ?_⟩
    all_goals simp_all [built, Request.getHost, Request.isSOCKS4a]
  · intro parsedNe notIPv4
    have built : req = ⟨4, command, port, IP4.zero, userID, []⟩ :=
      dialRequest_of_to4_eq_none parsedNe notIPv4
    refine ⟨by simp [built], by simp [built, Request.isSOCKS4a, IP4.zero], ?_, ?_⟩
    · simp [built, Request.getHost, Request.isSOCKS4a, IP4.zero]
    · rintro rfl
      simp [built, Request.validate, Request.validateHeader, NetIP.to4, NetIP.equal, NetIP.bytes,
        ipv4zero, IP4.toBytes, IP4.zero, v4InV6Prefix, socksVersion, cmdConnect, cmdBind]

/-- The hostname `host`, port 80 and user ID `u`: read back as SOCKS4a with
`GetHost()` the hostname. -/
theorem dialRequest_reads_back_hostname :
    (cmdConnect = cmdConnect ∨ cmdConnect = cmdBind) ∧ (0 : UInt8) ∉ [117] ∧ [117].length ≤ 256 ∧
      Request.ReadsBack (dialRequest cmdConnect [104, 111, 115, 116] 80 none [117]) ∧
      (dialRequest cmdConnect [104, 111, 115, 116] 80 none [117]).getHost = [104, 111, 115, 116] :=
  have hostname := (dialRequest_reads_back (Or.inl rfl) (by decide) (by decide)).2.2.1 rfl
    (by decide) (by decide) (by decide)
  ⟨Or.inl rfl, by decide, by decide, hostname.1, hostname.2.2.2.2⟩

/-- The IPv6 literal `::1`, which `net.ParseIP` turns into the 16-byte
loopback address, is not sent as SOCKS4a: `Init` copies no address, so the
request asks for `0.0.0.0`, its `GetHost()` is `0.0.0.0`, and the proxy's
`ReadFrom` rejects it. -/
theorem dialRequest_sends_ipv6_literal_as_zero :
    let req : Request := dialRequest cmdConnect [58, 58, 49] 80 (some (List.replicate 15 0 ++ [1])) []
    let d : Decoded Request := Request.zero.readFrom ⟨[req.encode], .eof, by decide⟩
    req.encode = [4, 1, 0, 80, 0, 0, 0, 0, 0] ∧ req.isSOCKS4a = false ∧
      req.getHost = [48, 46, 48, 46, 48, 46, 48] ∧ d.err = some (.socks4 .errInvalidIP) := by
  decide

end Socks.Socks4
