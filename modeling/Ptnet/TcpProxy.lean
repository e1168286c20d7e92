import Ptnet.InOrder
import Ptnet.LibpcapCapture
import Ptnet.TunnelPackets

/-!
submodules/zdtun/zdtun.c and socks5.c: one TCP connection of a client, which zdtun ends and carries
on over a socket of its own. An event is a packet of the client, a socket that `select` reports or
a call of `zdtun_conn_close`, with the answers of the system to the calls that are made for it.
`log` is what has happened at the three sides: the client, the socket and the callbacks.
-/

namespace Ptnet.TcpProxy

open ByteMemory (Bytes)
open Connection
open DnsMessage (word16)
open DnsSpoof (ZdtunConn ipBytes)
open LibpcapCapture (TH_FIN TH_SYN TH_RST TH_ACK)
open TunnelPackets
open ZdtunPacket

def TH_PUSH : BitVec 8 := 0x08
def TH_URG : BitVec 8 := 0x20

def has (flags flag : BitVec 8) : Bool := flags &&& flag ≠ 0

def INITIAL_SEQ : BitVec 32 := 0x77EB77EB

def DEFAULT_TCP_WINDOW : Int := 65535

inductive ProxyMode where
  | none
  | dnat
  | socks5
  deriving DecidableEq, Repr

inductive Socks5Status where
  | hello
  | auth
  | connecting
  | skipBnd
  | established
  deriving DecidableEq, Repr

/-- `errno` as `close_with_socket_error` tells its values apart. -/
inductive Errno where
  | conReset
  | brokenPipe
  | conRefused
  | conAborted
  | unreachable
  | other
  deriving DecidableEq, Repr

def Errno.status : Errno → ConnStatus
  | .conReset => .reset
  | .brokenPipe | .conRefused | .conAborted | .other => .socketError
  | .unreachable => .unreachable

/-- Whether `close_with_socket_error` returns 0. -/
def Errno.harmless : Errno → Bool
  | .conReset | .brokenPipe | .conRefused | .conAborted => true
  | .unreachable | .other => false

structure TcpData where
  data : Bytes
  sofar : Nat := 0
  flags : BitVec 8
  deriving DecidableEq, Repr

def TcpData.rest (item : TcpData) : Bytes := item.data.drop item.sofar

def pending (queue : List TcpData) : Bytes := queue.flatMap TcpData.rest

inductive Effect where
  | openSocket
  | closeSocket
  | shutdown
  /-- What `send` took of the data of the client. -/
  | wrote (octets : Bytes)
  /-- A message of the SOCKS5 handshake, and the answer to it. -/
  | greeted (octets : Bytes)
  | answered (octets : Bytes)
  | received (octets : Bytes)
  /-- `recv`, asked for so many bytes, returned 0. -/
  | eof (asked : Nat)
  /-- `send_client` returned 0 for the segment, or another value. -/
  | delivered (segment : TcpSegment)
  | refused (segment : TcpSegment)
  /-- The payload of the client was put into the queue, acknowledged without being written, or came
      with a FIN. -/
  | queued (octets : Bytes)
  | discarded (octets : Bytes)
  | finished (octets : Bytes)
  /-- What the client has got, and how many bytes it has room for behind that. -/
  | window (ack size : BitVec 32)
  /-- `on_connection_close` -/
  | closed (status : ConnStatus)
  deriving DecidableEq, Repr

/-- The fields of `zdtun_t` that a connection depends on. -/
structure Tunnel where
  mtu : Nat := 1500
  socks5Ipver : Nat := 4
  /-- `socks5_user` and `socks5_pass` -/
  socks5Userpass : Option (Bytes × Bytes) := none
  deriving DecidableEq, Repr

/-- `zdtun_conn_t`; `sock` is `sock != INVALID_SOCKET`, `selected` and `writing` tell whether the
    socket is in `all_fds` and `write_fds`. -/
structure Conn where
  tuple : Tuple
  status : ConnStatus := .new
  sock : Bool := false
  selected : Bool := false
  writing : Bool := false
  proxyMode : ProxyMode := .none
  dnatIpver : Nat := 4
  socks5Status : Socks5Status := .hello
  socks5Skip : Nat := 0
  txQueue : List TcpData := []
  txQueueSize : BitVec 32 := 0
  clientSeq : BitVec 32 := 0
  zdtunSeq : BitVec 32 := 0
  windowSize : BitVec 32 := 0
  mss : BitVec 16 := 0
  windowScale : BitVec 8 := 0
  finAckSent : Bool := false
  clientClosed : Bool := false
  log : List Effect := []
  deriving DecidableEq, Repr

/-- The answers while a segment is sent: `SO_SNDBUF` and `SIOCOUTQ` of the socket, and whether
    `send_client` returns 0. -/
structure Send where
  sndbuf : Int := 0
  outq : Int := 0
  ok : Bool := true

namespace Conn

variable (conn : Conn)

def record (effects : List Effect) : Conn := { conn with log := conn.log ++ effects }

def isOpen : Bool := !conn.status.isClosed

def sockIpver (tun : Tunnel) : Nat :=
  match conn.proxyMode with
  | .dnat => conn.dnatIpver
  | .socks5 => tun.socks5Ipver
  | .none => conn.tuple.ipver

def headers (tun : Tunnel) : ZdtunConn := ⟨conn.tuple, conn.sockIpver tun⟩

def socks5InProgress : Bool := conn.proxyMode = .socks5 && conn.socks5Status ≠ .established

end Conn

section Sending

variable (tun : Tunnel) (conn : Conn)

/-- `get_available_sndbuf`; without a socket both calls fail. -/
def getAvailableSndbuf (send : Send) : Nat :=
  let bufsize := if conn.sock then send.sndbuf else 0
  let queued := if conn.sock then send.outq else 0
  let size := if bufsize = 0 then DEFAULT_TCP_WINDOW else bufsize
  (BitVec.ofInt 32 (size - queued) - conn.txQueueSize).toInt.toNat

/-- The field `th_win`. -/
def advertised (send : Send) : BitVec 16 :=
  let maxWin := BitVec.ofNat 32 0xFFFF <<< conn.windowScale.toNat
  let tcpwin := min (getAvailableSndbuf conn send) maxWin.toNat
  BitVec.ofNat 16 (tcpwin >>> conn.windowScale.toNat)

/-- The segment which `build_reply_tcpip` makes. -/
def buildReply (flags : BitVec 8) (payload opts : Bytes) (send : Send) : TcpSegment :=
  { seq := conn.zdtunSeq
    ack := if has flags TH_ACK then conn.clientSeq else 0
    flags
    win := advertised conn send
    opts
    payload }

/-- `close_socket`, and `sock = INVALID_SOCKET` which follows it. -/
def closeSocket : Conn :=
  if conn.sock then
    { conn with
      sock := false, selected := false, writing := false, log := conn.log ++ [.closeSocket] }
  else conn

/-- `zdtun_conn_close` behind the reset. -/
def finishClose (status : ConnStatus) : Conn :=
  { conn with
    txQueue := [], status := status.closing
    log := conn.log ++ [.closed status.closing] }

/-- Whether `zdtun_parse_pkt` accepts what was built. -/
def parses (segment : TcpSegment) : Bool :=
  let packet := buildReplyTcpip (conn.headers tun) segment
  (zdtunParsePkt (fun _ => (0, 0)) (packet.take (packet.length % 65536))).2.isSome

/-- `send_to_client`; the close it asks for finds `fin_ack_sent` and sends no reset. -/
def sendToClient (segment : TcpSegment) (ok : Bool) : Conn × Bool :=
  if !parses tun conn segment then (conn, false)
  else if ok then (conn.record [.delivered segment], true)
  else
    let marked := { conn with finAckSent := true, log := conn.log ++ [.refused segment] }
    (if marked.isOpen then finishClose (closeSocket marked) .clientError else marked, false)

def zdtunConnClose (status : ConnStatus) (reset : Send) : Conn :=
  if conn.status.isClosed then conn
  else
    let shut := closeSocket conn
    if shut.finAckSent then finishClose shut status
    else
      let segment := buildReply shut (TH_RST ||| TH_ACK) [] [] reset
      finishClose (sendToClient tun shut segment reset.ok).1 status

def closeWithSocketError (errno : Errno) (reset : Send) : Conn × Bool :=
  (zdtunConnClose tun conn errno.status reset, errno.harmless)

def sendFlags (flags : BitVec 8) (send : Send) : Conn × Bool :=
  sendToClient tun conn (buildReply conn flags [] [] send) send.ok

/-- `default_mss`, as it is stored in 16 bits. -/
def defaultMss : BitVec 16 :=
  BitVec.ofInt 16 (tun.mtu - TCP_HEADER_LEN - (conn.headers tun).iphdrLen)

def synAckOptions : Bytes :=
  [2, 4] ++ word16 (defaultMss tun conn).toNat ++
    [3, 3, UInt8.ofNat conn.windowScale.toNat, 0]

def sendSynAck (send : Send) : Conn × Bool :=
  let segment := buildReply conn (TH_SYN ||| TH_ACK) [] (synAckOptions tun conn) send
  let (sent, ok) := sendToClient tun conn segment send.ok
  (if ok then { sent with zdtunSeq := sent.zdtunSeq + 1 } else sent, ok)

def tcpSocketFinAck (send : Send) : Conn :=
  let (sent, ok) := sendFlags tun conn (TH_FIN ||| TH_ACK) send
  if ok then { sent with zdtunSeq := sent.zdtunSeq + 1 } else sent

end Sending

section Socks5

variable (tun : Tunnel) (conn : Conn)

/-- A message of the handshake; `failure` is what `send` fails with. -/
def greet (octets : Bytes) (status : Socks5Status) (failure : Option Errno) (reset : Send) :
    Conn × Bool :=
  match failure with
  | some errno => closeWithSocketError tun conn errno reset
  | none => ({ conn with socks5Status := status, log := conn.log ++ [.greeted octets] }, true)

def helloMessage : Bytes := [5, 1, if tun.socks5Userpass.isSome then 2 else 0]

def authMessage (userpass : Bytes × Bytes) : Bytes :=
  [1, UInt8.ofNat userpass.1.length] ++ userpass.1 ++ [UInt8.ofNat userpass.2.length] ++ userpass.2

def requestMessage (tuple : Tuple) : Bytes :=
  let size := if tuple.ipver = 4 then 4 else 16
  [5, 1, 0, if tuple.ipver = 4 then 1 else 4] ++ ipBytes tuple.dstIp size ++ word16 tuple.dstPort

def socks5Connect (failure : Option Errno) (reset : Send) : Conn × Bool :=
  greet tun conn (helloMessage tun) .hello failure reset

def socks5Auth (userpass : Bytes × Bytes) (failure : Option Errno) (reset : Send) : Conn × Bool :=
  greet tun conn (authMessage userpass) .auth failure reset

def socks5Req (failure : Option Errno) (reset : Send) : Conn × Bool :=
  greet tun conn (requestMessage conn.tuple) .connecting failure reset

def socks5Failed (status : ConnStatus) (harmless : Bool) (reset : Send) : Conn × Bool :=
  (zdtunConnClose tun conn status reset, harmless)

/-- `handle_socks5_reply` in the state `SOCKS5_SKIP_BND`. -/
def skipBnd (len : Nat) (reset : Send) : Conn × Bool :=
  if len ≤ conn.socks5Skip then
    let left := conn.socks5Skip - len
    ({ conn with
      socks5Skip := left
      socks5Status := if left = 0 then .established else .skipBnd }, true)
  else socks5Failed tun conn .socks5Error false reset

/-- What an unsuccessful answer to the request closes the connection with. -/
def connectFailure (code : Nat) : ConnStatus × Bool :=
  if code = 3 ∨ code = 4 then (.unreachable, true)
  else if code = 5 then (.socketError, true)
  else (.socks5Error, false)

/-- The bytes of the address and of the port behind the first four of the answer. -/
def boundLength (atyp : Nat) : Option Nat :=
  if atyp = 1 then some 6 else if atyp = 4 then some 18 else none

def handleSocks5Reply (data : Bytes) (failure : Option Errno) (reset : Send) : Conn × Bool :=
  match conn.socks5Status with
  | .hello =>
      if data.length ≠ 2 ∨ byteAt data 0 ≠ 5 then socks5Failed tun conn .socks5Error false reset
      else if byteAt data 1 = 0 then socks5Req tun conn failure reset
      else
        match tun.socks5Userpass with
        | some userpass =>
            if byteAt data 1 = 2 then socks5Auth tun conn userpass failure reset
            else socks5Failed tun conn .socks5Error false reset
        | none => socks5Failed tun conn .socks5Error false reset
  | .auth =>
      if data.length < 2 ∨ byteAt data 0 ≠ 1 ∨ byteAt data 1 ≠ 0 then
        socks5Failed tun conn .socks5Error false reset
      else socks5Req tun conn failure reset
  | .connecting =>
      if data.length < 4 ∨ byteAt data 0 ≠ 5 then socks5Failed tun conn .socks5Error false reset
      else if byteAt data 1 ≠ 0 then
        let (status, harmless) := connectFailure (byteAt data 1)
        socks5Failed tun conn status harmless reset
      else
        match boundLength (byteAt data 3) with
        | none => socks5Failed tun conn .socks5Error false reset
        | some skip =>
            let skipping := { conn with socks5Skip := skip, socks5Status := .skipBnd }
            if 4 < data.length then skipBnd tun skipping (data.length - 4) reset
            else (skipping, true)
  | .skipBnd => skipBnd tun conn data.length reset
  | .established => socks5Failed tun conn .socks5Error false reset

end Socks5

section Options

/-- What the loop over the options of a SYN finds. -/
structure SynOptions where
  mss : BitVec 16
  scale : BitVec 8 := 0
  /-- Whether a byte was read which is not there. -/
  overread : Bool := false
  deriving DecidableEq, Repr

/-- What one option changes; `body` is the memory behind its length. -/
def takeOption (kind len : UInt8) (body : Bytes) (found : SynOptions) : SynOptions :=
  if kind = 2 ∧ len = 4 then
    { found with
      mss := BitVec.ofNat 16 (be16 body 0), overread := found.overread || decide (body.length < 2) }
  else if kind = 3 ∧ len = 3 then
    { found with
      scale := (body.getD 0 0).toBitVec
      overread := found.overread || decide (body.length < 1) }
  else found

/-- The loop over the options; `memory` is all that follows the header. A NOP makes the number of
    bytes that are left larger. -/
def scanOptions (optslen : UInt8) (memory : Bytes) (found : SynOptions) : SynOptions :=
  if optslen ≤ 1 then found
  else
    match memory with
    | [] => { found with overread := true }
    | kind :: rest =>
        if kind = 1 then scanOptions (optslen + 1) rest found
        else
          match rest with
          | [] => { found with overread := true }
          | len :: body =>
              if kind = 0 ∨ len < 2 ∨ optslen < len then found
              else
                scanOptions (optslen - len) (body.drop (len.toNat - 2))
                  (takeOption kind len body found)
  termination_by memory.length
  decreasing_by
    · simp
    · simp
      omega

end Options

section Events

/-- How `connect` of the non-blocking socket ends. -/
inductive Connect where
  | ok
  | inProgress
  | failed (errno : Errno)

/-- The answers while a packet of the client is handled. `memory` is what lies behind the packet in
    the buffer. -/
structure ForwardEnv where
  socket : Bool := true
  connect : Connect := .inProgress
  hello : Option Errno := none
  calloc : Bool := true
  memory : Bytes := []
  send : Send := {}
  reset : Send := {}
  /-- For the close by the caller of `zdtun_forward`. -/
  caller : Send := {}

/-- The answers while a socket is read; `fionread` tells whether there are more bytes. -/
structure ReadEnv where
  recv : Except Errno Bytes
  fionread : Bool := false
  socks5 : Option Errno := none
  send : Send := {}
  reset : Send := {}

/-- How a `send` on the socket ends. -/
inductive Sent where
  | took (count : Nat)
  | again
  | failed (errno : Errno)

/-- What `getsockopt` says of a connection that was in progress. -/
inductive SoError where
  | failed
  | connected
  | error (errno : Errno)

structure WriteEnv where
  sends : List Sent := []
  soError : SoError := .connected
  hello : Option Errno := none
  send : Send := {}
  reset : Send := {}

inductive Event where
  | forward (pkt : TcpSegment) (env : ForwardEnv)
  | readable (env : ReadEnv)
  | writable (env : WriteEnv)
  | close (status : ConnStatus) (reset : Send)

end Events

section Handling

variable (tun : Tunnel) (conn : Conn)

def tcpSocketSyn (hello : Option Errno) (send reset : Send) : Conn × Bool :=
  let connected := { conn with writing := false, status := .connected }
  if connected.proxyMode = .socks5 then socks5Connect tun connected hello reset
  else sendSynAck tun connected send

/-- `ntohs(th_win) << scale`, as it is stored. -/
def scaledWindow (win : BitVec 16) (scale : BitVec 8) : BitVec 32 :=
  BitVec.ofNat 32 (win.toNat <<< scale.toNat)

/-- The options of a SYN, read from the packet and what lies behind it. -/
def synOptions (pkt : TcpSegment) (memory : Bytes) : SynOptions :=
  scanOptions (UInt8.ofNat pkt.opts.length) (pkt.opts ++ pkt.payload ++ memory)
    { mss := defaultMss tun conn }

/-- The part of `handle_tcp_fwd` which opens the socket. -/
def openConnection (pkt : TcpSegment) (env : ForwardEnv) : Conn × Bool :=
  if !env.socket then ({ conn with status := .socketError }, false)
  else
    let found := synOptions tun conn pkt env.memory
    let window := scaledWindow pkt.win found.scale
    let opened :=
      { conn with
        sock := true, selected := true, windowSize := window, windowScale := found.scale
        mss := found.mss
        log := conn.log ++ [.openSocket, .window (INITIAL_SEQ + 1) window] }
    match env.connect with
    | .failed errno => ((closeWithSocketError tun opened errno env.reset).1, true)
    | .ok =>
        tcpSocketSyn tun { opened with clientSeq := pkt.seq + 1, zdtunSeq := INITIAL_SEQ } env.hello
          env.send env.reset
    | .inProgress =>
        ({ opened with
          clientSeq := pkt.seq + 1, zdtunSeq := INITIAL_SEQ, status := .connecting
          writing := true }, true)

def isKeepAlive (pkt : TcpSegment) : Bool :=
  has pkt.flags TH_ACK && decide (pkt.seq + 1 = conn.clientSeq)

/-- The payload goes to the end of the queue: `enqueue_tcp_data`. -/
def enqueueTcpData (pkt : TcpSegment) (env : ForwardEnv) : Conn × Bool :=
  if !env.calloc then (zdtunConnClose tun conn .error env.reset, false)
  else
    ({ conn with
      txQueue := conn.txQueue ++ [{ data := pkt.payload, flags := pkt.flags }]
      txQueueSize := conn.txQueueSize + BitVec.ofNat 32 pkt.payload.length
      writing := true
      log := conn.log ++ [.queued pkt.payload] }, true)

def clientFinished (pkt : TcpSegment) (env : ForwardEnv) : Conn × Bool :=
  let shutdown := if conn.sock then [Effect.shutdown] else []
  let (acked, ok) := sendFlags tun
    { conn with
      clientSeq := conn.clientSeq + BitVec.ofNat 32 pkt.payload.length + 1
      clientClosed := true
      log := conn.log ++ (shutdown ++ [.finished pkt.payload]) } TH_ACK env.send
  (if acked.sock then acked else zdtunConnClose tun acked .closed env.reset, ok)

def updateWindow (pkt : TcpSegment) : Conn :=
  let window := scaledWindow pkt.win conn.windowScale
  let inFlight := conn.zdtunSeq - pkt.ack
  let size := window - inFlight
  { conn with
    windowSize := size
    selected := conn.selected || decide (0 < size)
    log := conn.log ++ [.window pkt.ack window] }

/-- What `handle_tcp_fwd` does about the payload. -/
def forwardPayload (pkt : TcpSegment) (env : ForwardEnv) : Conn × Bool :=
  if pkt.payload = [] then (conn, true)
  else if conn.sock then enqueueTcpData tun conn pkt env
  else
    sendFlags tun
      { conn with
        clientSeq := conn.clientSeq + BitVec.ofNat 32 pkt.payload.length
        log := conn.log ++ [.discarded pkt.payload] } TH_ACK env.send

/-- A packet in sequence, or a keep-alive, which is neither a reset nor a FIN. -/
def forwardData (pkt : TcpSegment) (env : ForwardEnv) : Conn × Bool :=
  if has pkt.flags TH_ACK && conn.sock then
    if isKeepAlive conn pkt then
      let (acked, ok) := sendFlags tun conn TH_ACK env.send
      if ok then forwardPayload tun acked pkt env else (acked, false)
    else forwardPayload tun (updateWindow conn pkt) pkt env
  else forwardPayload tun conn pkt env

def handleTcpFwd (pkt : TcpSegment) (env : ForwardEnv) : Conn × Bool :=
  if has pkt.flags TH_URG then (zdtunConnClose tun conn .error env.reset, false)
  else if conn.status = .connecting then (conn, true)
  else if conn.status = .new then openConnection tun conn pkt env
  else if !isKeepAlive conn pkt && decide (pkt.seq ≠ conn.clientSeq + conn.txQueueSize) then
    (conn, true)
  else if conn.socks5InProgress then (zdtunConnClose tun conn .socks5Error env.reset, false)
  else if has pkt.flags TH_RST then (zdtunConnClose tun conn .closed env.reset, true)
  else if has pkt.flags TH_FIN && has pkt.flags TH_ACK then clientFinished tun conn pkt env
  else forwardData tun conn pkt env

/-- `recv` returned 0. -/
def serverFinished (asked : Nat) (env : ReadEnv) : Conn :=
  let noted := conn.record [.eof asked]
  let finished :=
    if noted.finAckSent then noted
    else { tcpSocketFinAck tun noted env.send with finAckSent := true }
  let shut := closeSocket finished
  if shut.clientClosed then zdtunConnClose tun shut .closed env.reset else shut

def serverData (octets : Bytes) (env : ReadEnv) : Conn × Bool :=
  let noted := conn.record [.received octets]
  if noted.windowSize.toNat < octets.length then
    (zdtunConnClose tun noted .error env.reset, false)
  else
    let flags := if env.fionread then TH_ACK else TH_ACK ||| TH_PUSH
    let (sent, ok) := sendToClient tun noted (buildReply noted flags octets [] env.send) env.send.ok
    if ok then
      let left := sent.windowSize - BitVec.ofNat 32 octets.length
      ({ sent with
        zdtunSeq := sent.zdtunSeq + BitVec.ofNat 32 octets.length
        windowSize := left
        selected := sent.selected && decide (left ≠ 0) }, true)
    else (sent, false)

/-- `handle_tcp_reply`; the result of the function only ends the loop over the connections. -/
def handleTcpReply (env : ReadEnv) : Conn :=
  let toRecv := min conn.windowSize.toNat conn.mss.toNat
  match env.recv with
  | .error errno => (closeWithSocketError tun conn errno env.reset).1
  | .ok octets =>
      let data := octets.take toRecv
      if data = [] then serverFinished tun conn toRecv env
      else if conn.socks5InProgress then
        let (answered, ok) :=
          handleSocks5Reply tun (conn.record [.answered data]) data env.socks5 env.reset
        if ok && decide (answered.socks5Status = .established) then
          (sendSynAck tun answered env.send).1
        else answered
      else (serverData tun conn data env).1

def handleTcpConnectAsync (env : WriteEnv) : Conn :=
  match env.soError with
  | .failed => zdtunConnClose tun conn .socketError env.reset
  | .connected => (tcpSocketSyn tun conn env.hello env.send env.reset).1
  | .error errno => (closeWithSocketError tun conn errno env.reset).1

/-- The loop over the queue: what was written, what is left and the error, if one ended it. -/
def drain : List TcpData → List Sent → Bytes × List TcpData × Option Errno
  | [], _ => ([], [], none)
  | item :: others, sends =>
      match sends.headD .again with
      | .failed errno => ([], item :: others, some errno)
      | .again => ([], item :: others, none)
      | .took count =>
          if count < item.rest.length then
            (item.rest.take count, { item with sofar := item.sofar + count } :: others, none)
          else
            let (octets, queue, failure) := drain others sends.tail
            (item.rest ++ octets, queue, failure)

def handleQueuedTcpData (env : WriteEnv) : Conn :=
  let (octets, queue, failure) := drain conn.txQueue env.sends
  let wrote := { conn with txQueue := queue, log := conn.log ++ [.wrote octets] }
  match failure with
  | some errno => (closeWithSocketError tun wrote errno env.reset).1
  | none =>
      let waiting := { wrote with writing := wrote.writing && decide (queue ≠ []) }
      if octets = [] then waiting
      else
        (sendFlags tun
          { waiting with
            clientSeq := waiting.clientSeq + BitVec.ofNat 32 octets.length
            txQueueSize := waiting.txQueueSize - BitVec.ofNat 32 octets.length } TH_ACK env.send).1

/-- One event. `zdtun_forward` refuses closed connections, its callers close the connection when it
    fails, and `zdtun_handle_fd` goes by the sets of the sockets. -/
def step (conn : Conn) : Event → Conn
  | .forward pkt env =>
      if conn.status.isClosed then conn
      else
        let (forwarded, ok) := handleTcpFwd tun conn pkt env
        if ok then forwarded else zdtunConnClose tun forwarded .error env.caller
  | .readable env => if conn.sock && conn.selected then handleTcpReply tun conn env else conn
  | .writable env =>
      if conn.sock && conn.writing then
        if conn.txQueue ≠ [] then handleQueuedTcpData tun conn env
        else handleTcpConnectAsync tun conn env
      else conn
  | .close status reset => zdtunConnClose tun conn status reset

end Handling

end Ptnet.TcpProxy
