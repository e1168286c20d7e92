import Ptnet.LibpcapCapture

/-!
core/capture_vpn.c: the callbacks of zdtun, the handling of one packet from the tunnel and the loop
of `run_vpn`. zdtun itself is what it does between two returns to the loop: for a connection that is
open, a list of changes of its status and of callbacks. A connection with a closed status is not
looked up, iterated or served again, and replies are sent for open connections only.
-/

namespace Ptnet.VpnCapture

open Connection Pcapdroid
open CaptureClient (Requests)
open Detection (Ndpi Policy)
open LibpcapCapture (TH_SYN TH_ACK DNS_FLAGS_MASK DNS_TYPE_REQUEST DNS_PACKET_SIZE findConnection
  removeConnection)

/-- The settings of the VPN mode; an IPv4 address is what `dst_ip.ip4` holds. -/
structure VpnConfig where
  ipv4Enabled : Bool := true
  ipv6Enabled : Bool := true
  internalDns : BitVec 32 := 0
  ipv6Dns : Ip := 0
  socks5Enabled : Bool := false
  /-- The protocols and ports of `pd_add_port_map`. -/
  portMappings : List (Nat × Nat) := []
  deriving DecidableEq, Repr

/-- The `pkt_context_t` of one turn of the loop. -/
structure Context where
  turn : Nat
  pctx : PktContext
  deriving DecidableEq, Repr

/-- What the loop does about packets, in order. `egress` is a call of `pd_account_stats` with a
    published context, in the turn `turn`. -/
inductive Action where
  | forwarding (context : Context)
  | egress (turn : Nat) (context : Context)
  | ingress (pctx : PktContext)
  | wrote (pkt : Pkt)
  | spoofed (query : Pkt)
  deriving DecidableEq, Repr

/-- The state of `run_vpn`. `connections` are the open connections of zdtun, `statuses` holds the
    status zdtun has for the connection of a record, `fwPctx` a record's field `vpn.fw_pctx`. -/
structure Vpn where
  pd : Pd
  config : VpnConfig := {}
  connections : List Slot := []
  statuses : Ref → ConnStatus := fun _ => .new
  fwPctx : Ref → Option Context := fun _ => none
  running : Bool := true
  finalized : Bool := false
  nextPurgeMs : Nat := 0
  numDroppedConnections : Nat := 0
  numDiscardedFragments : Nat := 0
  numDnsRequests : Nat := 0
  turn : Nat := 0
  log : List Action := []

namespace Vpn

variable (vpn : Vpn)

/-- `data->vpn.fw_pctx`; what a record held is lost once it is freed. -/
def published (ref : Ref) : Option Context := if vpn.pd.alive ref then vpn.fwPctx ref else none

def isOpen (conn : Slot) : Bool := decide (conn ∈ vpn.connections)

/-- `conn->status = status` -/
def setStatus (conn : Slot) (status : ConnStatus) : Vpn :=
  { vpn with
    statuses := Function.update vpn.statuses conn.data status
    connections :=
      if status.isClosed then removeConnection vpn.connections conn else vpn.connections }

end Vpn

/-- How the `write` of a reply into the tunnel ends. -/
inductive Written where
  | whole
  | part
  | noBuffers
  | broken
  deriving DecidableEq, Repr

/-- A packet for the client, with the answers of the environment to `remote2vpn`. -/
structure Reply where
  pkt : Pkt
  nowMs : Nat
  ms : Int
  ndpi : Ndpi
  payload : ChunkResult := .added
  written : Written := .whole

/-- The account of the packet that is being forwarded, if nobody has accounted it yet. -/
def accountForwarded (ndpi : Ndpi) (vpn : Vpn) (ref : Ref) : Vpn :=
  let used := { vpn with pd := vpn.pd.access ref }
  match vpn.published ref with
  | none => used
  | some context =>
      { used with
        pd := pdAccountStats ndpi used.pd context.pctx
        fwPctx := Function.update used.fwPctx ref none
        log := used.log ++ [.egress used.turn context] }

def blockPacket (ndpi : Ndpi) (vpn : Vpn) (conn : Slot) : Vpn :=
  let counted := vpn.pd.modify conn.data fun data =>
    { data with blockedPkts := data.blockedPkts + 1 }.touch CONN_UPDATE_STATS
  { vpn with pd := (pdNotifyConnectionUpdate ndpi counted conn.tuple conn.data).1 }

/-- `remote2vpn`; the result tells whether it returns 0. -/
def remote2vpn (reply : Reply) (vpn : Vpn) (conn : Slot) : Vpn × Bool :=
  if !vpn.running then (vpn, true)
  else
    let accounted := accountForwarded reply.ndpi vpn conn.data
    let pctx : PktContext := ⟨reply.pkt, reply.ms, false, conn.tuple, conn.data⟩
    let refreshed := { accounted.pd with nowMs := reply.nowMs }
    let processed :=
      { accounted with pd := pdProcessPacket reply.ndpi reply.payload refreshed pctx }
    if (processed.pd.heap conn.data).toBlock then
      (blockPacket reply.ndpi processed conn, false)
    else
      let wrote := { processed with log := processed.log ++ [.wrote reply.pkt] }
      match reply.written with
      | .whole =>
          ({ wrote with
            pd := pdAccountStats reply.ndpi wrote.pd pctx
            log := wrote.log ++ [.ingress pctx] }, true)
      | .part => (wrote, false)
      | .noBuffers => (processed, false)
      | .broken => ({ processed with running := false }, false)

/-- `handle_new_connection`; the uid is the one the resolver returns. -/
def handleNewConnection (ndpi : Ndpi) (env : NewConnEnv) (uid : Int) (vpn : Vpn) (tuple : Tuple) :
    Vpn × Option Slot :=
  let resolved := if 0 ≤ uid then uid else UID_UNKNOWN
  match pdNewConnection ndpi env vpn.pd tuple resolved with
  | (pd, none) => ({ vpn with pd := pd }, none)
  | (pd, some ref) => ({ vpn with pd := pd }, some ⟨tuple, ref⟩)

/-- What `connection_closed` writes into a record it could queue. -/
def closeRecord (status : ConnStatus) (data : PdConn) : PdConn :=
  { data with status := status, toPurge := true }

def connectionClosed (ndpi : Ndpi) (vpn : Vpn) (conn : Slot) : Vpn :=
  let touched := vpn.pd.modify conn.data fun data => data.touch CONN_UPDATE_STATS
  let (notified, queued) := pdNotifyConnectionUpdate ndpi touched conn.tuple conn.data
  if !queued then { vpn with pd := pdPurgeConnection notified conn.data }
  else
    let ended := pdGiveupDpi ndpi notified conn.data conn.tuple
    { vpn with pd := ended.modify conn.data (closeRecord (vpn.statuses conn.data)) }

/-- What `update_conn_status` writes into a record. -/
def followStatus (status : ConnStatus) (data : PdConn) : PdConn :=
  { data with status := status, toPurge := data.toPurge || status.isClosed }

def updateConnStatus (vpn : Vpn) (conn : Slot) : Vpn :=
  { vpn with pd := vpn.pd.modify conn.data (followStatus (vpn.statuses conn.data)) }

/-- What zdtun does while it serves a connection. `advance` is a status that is not closed, and
    `socketError` the closed status of a connection that gets no socket, which no callback
    announces. `stop` is the app's. -/
inductive Callback where
  | stop
  | advance (status : ConnStatus)
  | sendClient (reply : Reply)
  | accountPacket
  | connectionClose (ndpi : Ndpi) (status : ConnStatus)
  | socketError

/-- One callback; a nested `zdtun_conn_close` announces a connection twice. -/
def callback (conn : Slot) (vpn : Vpn) : Callback → Vpn
  | .stop => { vpn with running := false }
  | .advance status =>
      if vpn.isOpen conn && !status.isClosed then vpn.setStatus conn status else vpn
  | .sendClient reply => if vpn.isOpen conn then (remote2vpn reply vpn conn).1 else vpn
  | .accountPacket => if vpn.isOpen conn then updateConnStatus vpn conn else vpn
  | .connectionClose ndpi status =>
      connectionClosed ndpi (vpn.setStatus conn status.closing) conn
  | .socketError => if vpn.isOpen conn then vpn.setStatus conn .socketError else vpn

def runCallbacks (conn : Slot) (callbacks : List Callback) (vpn : Vpn) : Vpn :=
  callbacks.foldl (callback conn) vpn

def serve (vpn : Vpn) (work : Slot × List Callback) : Vpn :=
  if vpn.isOpen work.1 then runCallbacks work.1 work.2 vpn else vpn

/-- What precedes the close callback in `zdtun_conn_close` is the reset that a TCP connection
    sends, with a nested close where that fails. -/
structure Closing where
  reset : List Callback := []
  ndpi : Ndpi

def zdtunConnClose (closing : Closing) (status : ConnStatus) (vpn : Vpn) (conn : Slot) : Vpn :=
  let reset := if conn.tuple.ipproto = IPPROTO_TCP then closing.reset else []
  serve vpn (conn, reset ++ [.connectionClose closing.ndpi status])

/-- `destroy_conn` for connections that are idle. -/
def zdtunPurgeExpired (idle : List (Slot × Closing)) (vpn : Vpn) : Vpn :=
  idle.foldl (fun current item => zdtunConnClose item.2 .closed current item.1) vpn

/-- A packet from the tunnel with the answers of the environment while it is handled. -/
structure TunPacket where
  parsed : Option Pkt
  ms : Int := 0
  ndpi : Ndpi
  payload : ChunkResult := .added
  uid : Int := 0
  env : NewConnEnv := {}
  /-- The connections a forced purge closes before a new one is opened. -/
  forcePurge : List (Slot × Closing) := []
  /-- Whether `spoof_dns_reply` writes a reply. -/
  spoofs : Bool := true
  forward : List Callback := []
  /-- `zdtun_forward` returns a value other than 0. -/
  failed : Bool := false
  closing : Closing
  /-- The local port, if the socket of the connection has one. -/
  localPort : Option Nat := none

def zdtunLookup (packet : TunPacket) (vpn : Vpn) (tuple : Tuple) (create : Bool) :
    Vpn × Option Slot :=
  match findConnection vpn.connections tuple with
  | some conn => (vpn, some conn)
  | none =>
      if create then
        let purged := zdtunPurgeExpired packet.forcePurge vpn
        match handleNewConnection packet.ndpi packet.env packet.uid purged tuple with
        | (refused, none) => (refused, none)
        | (opened, some conn) =>
            ({ opened with
              connections := opened.connections ++ [conn]
              statuses := Function.update opened.statuses conn.data .new
              -- the record has been allocated with calloc
              fwPctx := Function.update opened.fwPctx conn.data none }, some conn)
      else (vpn, none)

section Packet

variable (config : VpnConfig) (policy : Policy) (tuple : Tuple)

def ip4 (ip : Ip) : BitVec 32 := ip.extractLsb' 96 32

def isInternalDns : Bool :=
  config.ipv4Enabled && tuple.ipver = 4 && ip4 tuple.dstIp = config.internalDns

/-- The packets `run_vpn` does not look up: private DNS to the internal server, and an IP version
    that is not enabled. -/
def isIgnored : Bool :=
  (isInternalDns config tuple && tuple.dstPort = 853) ||
    (tuple.ipver = 6 && !config.ipv6Enabled) || (tuple.ipver = 4 && !config.ipv4Enabled)

def isTcpEstablished (pkt : Pkt) : Bool :=
  pkt.tuple.ipproto = IPPROTO_TCP && (pkt.thFlags &&& TH_SYN = 0 || pkt.thFlags &&& TH_ACK ≠ 0)

def pdCheckPortMap : Bool :=
  (tuple.ipproto = IPPROTO_TCP || tuple.ipproto = IPPROTO_UDP) &&
    config.portMappings.contains (tuple.ipproto, tuple.dstPort)

def shouldProxify (data : PdConn) : PdConn × Bool :=
  if !config.socks5Enabled then (data, false)
  else if policy.tlsList.isSome && !Detection.matchesDecryptionWhitelist policy tuple data then
    ({ data with decryptionIgnored := true }, false)
  else (data, tuple.ipproto = IPPROTO_TCP)

/-- What precedes the inspection of the first packet. -/
def routeConnection (data : PdConn) : PdConn :=
  if data.sentPkts = 0 then
    if pdCheckPortMap config tuple then { data with portMappingApplied := true }
    else
      let (checked, proxify) := shouldProxify config policy tuple data
      if proxify then { checked with proxied := true } else checked
  else data

def isDnsServer : Bool :=
  isInternalDns config tuple ||
    (config.ipv6Enabled && tuple.ipver = 6 && tuple.dstIp = config.ipv6Dns) ||
    policy.knownDnsServers.matchIp tuple.dstIp tuple.ipver

/-- `check_dns_req_allowed`; the second result tells that a request is counted. -/
def checkDnsReqAllowed (pkt : Pkt) : Bool × Bool :=
  if tuple.ipproto = IPPROTO_ICMP || !isDnsServer config policy tuple then (true, false)
  else if tuple.ipproto = IPPROTO_UDP && tuple.dstPort = 53 && DNS_PACKET_SIZE ≤ pkt.l7.length then
    (true, pkt.dnsFlags &&& DNS_FLAGS_MASK = DNS_TYPE_REQUEST)
  else (!policy.blockPrivateDns, false)

end Packet

/-- `check_dns_req_allowed` for the first packet of a connection, and its effect on the record. -/
def checkDnsRequest (vpn : Vpn) (pctx : PktContext) : Vpn :=
  let data := vpn.pd.heap pctx.data
  let (allowed, counted) := checkDnsReqAllowed vpn.config vpn.pd.policy pctx.tuple pctx.pkt
  let asked := data.sentPkts = 0 ∧ !data.portMappingApplied ∧ counted
  { vpn with
    pd := vpn.pd.modify pctx.data (Detection.checkDnsBlocked allowed)
    numDnsRequests := if asked then vpn.numDnsRequests + 1 else vpn.numDnsRequests }

def spoofDnsReply (packet : TunPacket) (vpn : Vpn) (pctx : PktContext) : Vpn :=
  if packet.spoofs then { vpn with log := vpn.log ++ [.spoofed pctx.pkt] } else vpn

def checkFirstPacket (packet : TunPacket) (vpn : Vpn) (pctx : PktContext) : Vpn :=
  let checked := checkDnsRequest vpn pctx
  let data := checked.pd.heap pctx.data
  if data.sentPkts = 0 ∧ data.toBlock ∧ data.l7proto = NDPI_PROTOCOL_DNS ∧
      pctx.tuple.ipproto = IPPROTO_UDP then
    zdtunConnClose packet.closing .closed (spoofDnsReply packet checked pctx)
      ⟨pctx.tuple, pctx.data⟩
  else checked

/-- The processing of a packet whose connection is known; the result is its context, if the
    packet is to be forwarded. -/
def processTunPacket (packet : TunPacket) (pkt : Pkt) (vpn : Vpn) (conn : Slot) :
    Vpn × Option PktContext :=
  let pctx : PktContext := ⟨pkt, packet.ms, true, conn.tuple, conn.data⟩
  let routed := vpn.pd.modify conn.data (routeConnection vpn.config vpn.pd.policy conn.tuple)
  let processed := { vpn with pd := pdProcessPacket packet.ndpi packet.payload routed pctx }
  let checked := checkFirstPacket packet processed pctx
  if (checked.pd.heap conn.data).toBlock then (blockPacket packet.ndpi checked conn, none)
  else (checked, some pctx)

/-- What `run_vpn` does with a packet before it is forwarded. -/
def acceptPacket (packet : TunPacket) (vpn : Vpn) : Vpn × Option PktContext :=
  match packet.parsed with
  | none => (vpn, none)
  | some pkt =>
      if pkt.isFragment then
        ({ vpn with numDiscardedFragments := vpn.numDiscardedFragments + 1 }, none)
      else if isIgnored vpn.config pkt.tuple then (vpn, none)
      else
        let create := !isTcpEstablished pkt
        match zdtunLookup packet vpn pkt.tuple create with
        | (found, some conn) => processTunPacket packet pkt found conn
        | (missed, none) =>
            if create then
              ({ missed with numDroppedConnections := missed.numDroppedConnections + 1 }, none)
            else (missed, none)

/-- The local port of the socket, once the first packet has been forwarded. -/
def writePort (packet : TunPacket) (tuple : Tuple) (data : PdConn) : PdConn :=
  match packet.localPort with
  | some port =>
      if data.sentPkts = 1 ∧ tuple.ipver = 4 then { data with localPort := port } else data
  | none => data

def recordPort (packet : TunPacket) (vpn : Vpn) (conn : Slot) : Vpn :=
  { vpn with pd := vpn.pd.modify conn.data (writePort packet conn.tuple) }

/-- `data->vpn.fw_pctx = &pctx` -/
def publish (vpn : Vpn) (pctx : PktContext) : Vpn :=
  let context : Context := ⟨vpn.turn, pctx⟩
  { vpn with
    pd := vpn.pd.access pctx.data
    fwPctx := Function.update vpn.fwPctx pctx.data (some context)
    log := vpn.log ++ [.forwarding context] }

/-- `zdtun_forward` and whether it returns 0; a connection that is closed takes nothing. -/
def zdtunForward (packet : TunPacket) (vpn : Vpn) (conn : Slot) : Vpn × Bool :=
  (serve vpn (conn, packet.forward), !(packet.failed && vpn.isOpen conn))

/-- A failure counts as a dropped connection, unless the host is unreachable. -/
def countFailure (vpn : Vpn) (conn : Slot) : Vpn :=
  if vpn.statuses conn.data ≠ .unreachable then
    { vpn with numDroppedConnections := vpn.numDroppedConnections + 1 }
  else vpn

def forwardPacket (packet : TunPacket) (vpn : Vpn) (pctx : PktContext) : Vpn :=
  let conn : Slot := ⟨pctx.tuple, pctx.data⟩
  let (forwarded, success) := zdtunForward packet (publish vpn pctx) conn
  if !success then zdtunConnClose packet.closing .error (countFailure forwarded conn) conn
  else recordPort packet (accountForwarded packet.ndpi forwarded conn.data) conn

/-- The block of the loop that handles a packet; its context ends with it. -/
def handleTunPacket (packet : TunPacket) (vpn : Vpn) : Vpn :=
  let handled :=
    match acceptPacket packet vpn with
    | (rejected, none) => rejected
    | (admitted, some pctx) => forwardPacket packet admitted pctx
  { handled with turn := handled.turn + 1 }

/-- What `select` reports. -/
inductive Input where
  | tunPacket (packet : TunPacket)
  | readError
  /-- `zdtun_handle_fd` for the sockets that are ready. -/
  | sockets (works : List (Slot × List Callback))

/-- One turn of the loop. -/
structure Turn where
  nowMs : Nat
  input : Input
  pass : Pass
  idle : List (Slot × Closing) := []

def handleInput (vpn : Vpn) : Input → Vpn
  | .tunPacket packet => handleTunPacket packet vpn
  | .readError => vpn
  | .sockets works => works.foldl serve vpn

def Vpn.refreshTime (vpn : Vpn) (nowMs : Nat) : Vpn :=
  { vpn with pd := { vpn.pd with nowMs := nowMs } }

def loopTurn (turn : Turn) (vpn : Vpn) : Vpn :=
  let handled := handleInput (vpn.refreshTime turn.nowMs) turn.input
  let kept :=
    { handled with pd := pdHousekeeping turn.pass handled.connections handled.pd }
  if kept.nextPurgeMs ≤ kept.pd.nowMs then
    let purged := zdtunPurgeExpired turn.idle kept
    { purged with nextPurgeMs := purged.pd.nowMs + PERIODIC_PURGE_TIMEOUT_MS }
  else kept

/-- `zdtun_finalize` destroys all connections. -/
def zdtunFinalize (closings : Slot → Closing) (vpn : Vpn) : Vpn :=
  { zdtunPurgeExpired (vpn.connections.map fun conn => (conn, closings conn)) vpn with
    finalized := true }

/-- The loop ends when the app stops it, after a failed write, or because `select` fails. -/
inductive Event where
  | allocator (reallocs : List Bool)
  | request (wanted : Requests)
  | stop
  | loopTurn (turn : Turn)
  | finalize (closings : Slot → Closing)

def step (vpn : Vpn) : Event → Vpn
  | .allocator reallocs => { vpn with pd := { vpn.pd with reallocs := reallocs } }
  | .request wanted => { vpn with pd := wanted.apply vpn.pd }
  | .stop => { vpn with running := false }
  | .loopTurn turn => if vpn.running && !vpn.finalized then loopTurn turn vpn else vpn
  | .finalize closings => if vpn.finalized then vpn else zdtunFinalize closings vpn

/-- The state `run_vpn` enters its loop in. -/
def start (settings : Pd) (config : VpnConfig) : Vpn where
  pd := (CaptureClient.start settings).pd
  config := config
  nextPurgeMs := settings.nowMs + PERIODIC_PURGE_TIMEOUT_MS

/-- The end of `pd_run`. -/
def finish (jni : Jni) (vpn : Vpn) : Pd :=
  connsClear (connsClear (sendConnectionsDump jni vpn.pd) .newConns true) .connsUpdates true

end Ptnet.VpnCapture
