import Socks.Wire
import Socks.Stream.Source
import Socks.Stream.Limit
import Socks.Stream.Bufio
import Socks.Socks4.Request
import Socks.Socks4.RoundTrip
import Socks.Socks4.Limits
import Socks.Socks4.Accepted
import Socks.Socks4.Response
import Socks.Socks4.Listen
import Socks.Socks4.Serve
import Socks.Socks4.Relay
import Socks.Socks4.Dial
import Socks.Socks4.DialRun
import Socks.Socks4.DialProgress
import Socks.Socks4.Exchange
import Socks.Socks5.Handshake
import Socks.Socks5.Auth
import Socks.Socks5.Address
import Socks.Socks5.RoundTrip
import Socks.Socks5.Codec
import Socks.Framing
import Socks.Accounting
