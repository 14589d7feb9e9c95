import Socks.Socks5.Handshake

/-!
# SOCKS5 authentication sub-negotiations

`UserPassRequest` (`VER ULEN UNAME PLEN PASSWD`) and `UserPassReply`
(`VER STATUS`), and the two GSSAPI messages (`VER MTYP [LEN TOKEN]`), which
differ only in their error values: one definition serves both, applied to
each message's errors.
-/

namespace Socks.Socks5

/-! ## `UserPassRequest` -/

/-- `socks5.UserPassRequest`. -/
structure UserPassRequest where
  version : UInt8
  username : Bytes
  password : Bytes
  deriving DecidableEq, Repr

namespace UserPassRequest

/-- `Validate`. -/
def validate (r : UserPassRequest) : Option Error :=
  if r.version ≠ authVersionUserPass then some (.socks5 .errInvalidUserPassVersion)
  else if r.username.length = 0 then some (.socks5 .errEmptyUserPassUsername)
  else if r.password.length = 0 then some (.socks5 .errEmptyUserPassPassword)
  else if r.username.length > 255 ∨ r.password.length > 255 then some (.socks5 .errUserPassTooLong)
  else none

/-- `ReadFrom`: each length is checked against zero before its field is read,
and `Validate` runs at the end. -/
def readFrom (r : UserPassRequest) (src : Source) : Decoded UserPassRequest :=
  let g := src.readFull 2
  match g.err with
  | some e => ⟨r, g.data.length, some e, g.rest⟩
  | none =>
    let r := { r with version := g.data.getD 0 0 }
    let ulen := (g.data.getD 1 0).toNat
    if ulen = 0 then ⟨r, g.data.length, some (.socks5 .errEmptyUserPassUsername), g.rest⟩
    else
      let gu := g.rest.readFull ulen
      let total := g.data.length + gu.data.length
      match gu.err with
      | some e => ⟨r, total, some e, gu.rest⟩
      | none =>
        let r := { r with username := gu.data }
        let gl := gu.rest.readFull 1
        let total := total + gl.data.length
        match gl.err with
        | some e => ⟨r, total, some e, gl.rest⟩
        | none =>
          let pwlen := (gl.data.getD 0 0).toNat
          if pwlen = 0 then ⟨r, total, some (.socks5 .errEmptyUserPassPassword), gl.rest⟩
          else
            let gp := gl.rest.readFull pwlen
            let total := total + gp.data.length
            match gp.err with
            | some e => ⟨r, total, some e, gp.rest⟩
            | none =>
              let r := { r with password := gp.data }
              ⟨r, total, r.validate, gp.rest⟩

/-- `WriteTo`: lengths over 255 are refused before anything is written. -/
def writeTo (r : UserPassRequest) (dst : Sink) : Wrote :=
  if r.username.length > 255 ∨ r.password.length > 255 then
    ⟨0, some (.socks5 .errUserPassTooLong), dst⟩
  else
    let w := dst.write [r.version, r.username.length.toUInt8]
    match w.err with
    | some e => ⟨w.n, some e, w.dst⟩
    | none =>
      let wu := w.dst.write r.username
      match wu.err with
      | some e => ⟨w.n + wu.n, some e, wu.dst⟩
      | none =>
        let wl := wu.dst.write [r.password.length.toUInt8]
        match wl.err with
        | some e => ⟨w.n + wu.n + wl.n, some e, wl.dst⟩
        | none =>
          let wp := wl.dst.write r.password
          ⟨w.n + wu.n + wl.n + wp.n, wp.err, wp.dst⟩

/-- The request on the wire. -/
def encode (r : UserPassRequest) : Bytes :=
  [r.version, r.username.length.toUInt8] ++ r.username ++ [r.password.length.toUInt8] ++
    r.password

theorem validate_eq_none {r : UserPassRequest} :
    r.validate = none ↔
      r.version = authVersionUserPass ∧ r.username ≠ [] ∧ r.password ≠ [] ∧
        r.username.length ≤ 255 ∧ r.password.length ≤ 255 := by
  unfold validate; split_ifs <;> simp_all; omega

/-- On a writer that accepts everything, `WriteTo` of fields that fit their
length bytes writes `encode` and counts it. -/
theorem writeTo_accepting {r : UserPassRequest} (uFits : r.username.length ≤ 255)
    (pFits : r.password.length ≤ 255) (w : Bytes) :
    r.writeTo (Sink.accepting w) = ⟨r.encode.length, none, Sink.accepting (w ++ r.encode)⟩ := by
  have fits : ¬(r.username.length > 255 ∨ r.password.length > 255) := by omega
  simp [writeTo, encode, fits]; omega

end UserPassRequest

/-! ## `UserPassReply` -/

/-- `socks5.UserPassReply`. -/
structure UserPassReply where
  version : UInt8
  status : UInt8
  deriving DecidableEq, Repr

namespace UserPassReply

/-- `Validate`. -/
def validate (r : UserPassReply) : Option Error :=
  validateVersion authVersionUserPass (.socks5 .errInvalidUserPassReplyVersion) r.version

/-- `ReadFrom`. -/
def readFrom (r : UserPassReply) (src : Source) : Decoded UserPassReply :=
  let g := src.readFull 2
  match g.err with
  | some e => ⟨r, g.data.length, some e, g.rest⟩
  | none =>
    let r := ⟨g.data.getD 0 0, g.data.getD 1 0⟩
    ⟨r, g.data.length, r.validate, g.rest⟩

/-- The reply on the wire. -/
def encode (r : UserPassReply) : Bytes := [r.version, r.status]

/-- `WriteTo`. -/
def writeTo (r : UserPassReply) (dst : Sink) : Wrote := dst.write r.encode

theorem writeTo_accepting (r : UserPassReply) (w : Bytes) :
    r.writeTo (Sink.accepting w) = ⟨r.encode.length, none, Sink.accepting (w ++ r.encode)⟩ := by
  simp [writeTo]

end UserPassReply

/-! ## GSSAPI messages -/

/-- The fields `GSSAPIRequest` and `GSSAPIReply` share. -/
structure GSSAPIMessage where
  version : UInt8
  msgType : UInt8
  token : Bytes
  deriving DecidableEq, Repr

/-- The errors one of the two GSSAPI messages reports. -/
structure GSSAPIErrors where
  invalidVersion : Error
  emptyToken : Error
  tokenTooLong : Error

namespace GSSAPIMessage

variable (errs : GSSAPIErrors)

/-- `Validate`: an abort message needs no token. -/
def validate (r : GSSAPIMessage) : Option Error :=
  if r.version ≠ 1 then some errs.invalidVersion
  else if r.msgType = gssapiTypeAbort then none
  else if r.token.length = 0 then some errs.emptyToken
  else if r.token.length > 65535 then some errs.tokenTooLong
  else none

/-- `ReadFrom`: an abort message ends after `VER MTYP`; otherwise the
big-endian length, zero rejected, then the token and `Validate`. -/
def readFrom (r : GSSAPIMessage) (src : Source) : Decoded GSSAPIMessage :=
  let g := src.readFull 2
  match g.err with
  | some e => ⟨r, g.data.length, some e, g.rest⟩
  | none =>
    let r := { r with version := g.data.getD 0 0, msgType := g.data.getD 1 0 }
    if r.msgType = gssapiTypeAbort then ⟨r, g.data.length, none, g.rest⟩
    else
      let gl := g.rest.readFull 2
      let n := g.data.length + gl.data.length
      match gl.err with
      | some e => ⟨r, n, some e, gl.rest⟩
      | none =>
        let length := uint16 (gl.data.getD 0 0) (gl.data.getD 1 0)
        if length = 0 then ⟨r, n, some errs.emptyToken, gl.rest⟩
        else
          let gt := gl.rest.readFull length.toNat
          match gt.err with
          | some e => ⟨r, n + gt.data.length, some e, gt.rest⟩
          | none =>
            let r := { r with token := gt.data }
            ⟨r, n + gt.data.length, validate errs r, gt.rest⟩

/-- `WriteTo`: `Validate` first; an abort message is `VER MTYP` alone. -/
def writeTo (r : GSSAPIMessage) (dst : Sink) : Wrote :=
  match validate errs r with
  | some e => ⟨0, some e, dst⟩
  | none =>
    if r.msgType = gssapiTypeAbort then dst.write [r.version, r.msgType]
    else
      let w := dst.write ([r.version, r.msgType] ++ putUint16 r.token.length.toUInt16)
      match w.err with
      | some e => ⟨w.n, some e, w.dst⟩
      | none =>
        let w' := w.dst.write r.token
        ⟨w.n + w'.n, w'.err, w'.dst⟩

/-- The message on the wire. -/
def encode (r : GSSAPIMessage) : Bytes :=
  if r.msgType = gssapiTypeAbort then [r.version, r.msgType]
  else [r.version, r.msgType] ++ putUint16 r.token.length.toUInt16 ++ r.token

theorem validate_eq_none {r : GSSAPIMessage} :
    validate errs r = none ↔
      r.version = 1 ∧ (r.msgType ≠ gssapiTypeAbort → r.token ≠ [] ∧ r.token.length ≤ 65535) := by
  unfold validate; split_ifs <;> simp_all

/-- On a writer that accepts everything, `WriteTo` of a valid message writes
`encode` and counts it. -/
theorem writeTo_accepting {r : GSSAPIMessage} (valid : validate errs r = none) (w : Bytes) :
    writeTo errs r (Sink.accepting w) =
      ⟨r.encode.length, none, Sink.accepting (w ++ r.encode)⟩ := by
  by_cases abort : r.msgType = gssapiTypeAbort
  · simp [writeTo, valid, abort, encode]
  · simp [writeTo, valid, abort, encode]; omega

end GSSAPIMessage

/-- `socks5.GSSAPIRequest`. -/
abbrev GSSAPIRequest := GSSAPIMessage

/-- `socks5.GSSAPIReply`. -/
abbrev GSSAPIReply := GSSAPIMessage

/-- `ErrInvalidGSSAPIVersion`, `ErrEmptyGSSAPIToken`, `ErrGSSAPITokenTooLong`. -/
def GSSAPIRequest.errors : GSSAPIErrors :=
  ⟨.socks5 .errInvalidGSSAPIVersion, .socks5 .errEmptyGSSAPIToken, .socks5 .errGSSAPITokenTooLong⟩

/-- `ErrInvalidGSSAPIReplyVersion`, `ErrEmptyGSSAPIReplyToken`, `ErrGSSAPIReplyTooLong`. -/
def GSSAPIReply.errors : GSSAPIErrors :=
  ⟨.socks5 .errInvalidGSSAPIReplyVersion, .socks5 .errEmptyGSSAPIReplyToken,
    .socks5 .errGSSAPIReplyTooLong⟩

/-- `GSSAPIRequest.Validate`. -/
def GSSAPIRequest.validate (r : GSSAPIRequest) : Option Error :=
  GSSAPIMessage.validate GSSAPIRequest.errors r
/-- `GSSAPIRequest.ReadFrom`. -/
def GSSAPIRequest.readFrom (r : GSSAPIRequest) (src : Source) : Decoded GSSAPIRequest :=
  GSSAPIMessage.readFrom GSSAPIRequest.errors r src
/-- `GSSAPIRequest.WriteTo`. -/
def GSSAPIRequest.writeTo (r : GSSAPIRequest) (dst : Sink) : Wrote :=
  GSSAPIMessage.writeTo GSSAPIRequest.errors r dst

/-- `GSSAPIReply.Validate`. -/
def GSSAPIReply.validate (r : GSSAPIReply) : Option Error :=
  GSSAPIMessage.validate GSSAPIReply.errors r
/-- `GSSAPIReply.ReadFrom`. -/
def GSSAPIReply.readFrom (r : GSSAPIReply) (src : Source) : Decoded GSSAPIReply :=
  GSSAPIMessage.readFrom GSSAPIReply.errors r src
/-- `GSSAPIReply.WriteTo`. -/
def GSSAPIReply.writeTo (r : GSSAPIReply) (dst : Sink) : Wrote :=
  GSSAPIMessage.writeTo GSSAPIReply.errors r dst

end Socks.Socks5
