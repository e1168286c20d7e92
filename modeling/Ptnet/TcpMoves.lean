import Ptnet.TcpProxy

/-!
What one event can do to a connection of zdtun: a few moves, each of which says all that it
changes. The functions of the source are taken apart here once; what holds of all runs follows
from the moves.
-/

namespace Ptnet.TcpProxy

open ByteMemory (Bytes)
open Connection
open DnsSpoof (ZdtunConn)
open LibpcapCapture (TH_FIN TH_SYN TH_RST TH_ACK)
open Relation (ReflTransGen)
open TunnelPackets
open ZdtunPacket

structure Built (conn : Conn) (flags : BitVec 8) (payload : Bytes) (segment : TcpSegment) :
    Prop where
  seq : segment.seq = conn.zdtunSeq
  ack : has flags TH_ACK = true → segment.ack = conn.clientSeq
  flags : segment.flags = flags
  payload : segment.payload = payload

inductive Terminal (conn : Conn) : Effect → Prop where
  | closeSocket : Terminal conn .closeSocket
  | closed (status : ConnStatus) (final : status.isClosed = true) : Terminal conn (.closed status)
  | reset (segment : TcpSegment) (unfinished : conn.finAckSent = false)
      (built : Built conn (TH_RST ||| TH_ACK) [] segment) : Terminal conn (.delivered segment)
  | refused (segment : TcpSegment) : Terminal conn (.refused segment)

def isAnnouncement : Effect → Bool
  | .closed _ => true
  | _ => false

def isRefusedReset : Effect → Bool
  | .refused segment => has segment.flags TH_RST
  | _ => false

/-- The calls of `on_connection_close`. -/
def announcements (log : List Effect) : Nat := log.countP isAnnouncement

def refusedResets (log : List Effect) : Nat := log.countP isRefusedReset

/-- The connection is closed; `lead` precedes what the close does. -/
structure Ended (conn : Conn) (lead : List Effect) (after : Conn) : Prop where
  wasOpen : conn.status.isClosed = false
  status : after.status.isClosed = true
  sock : after.sock = false
  selected : after.selected = false
  writing : after.writing = false
  queue : after.txQueue = []
  log : ∃ tail, after.log = conn.log ++ (lead ++ tail) ∧ (∀ effect ∈ tail, Terminal conn effect) ∧
    tail.count .closeSocket = (if conn.sock then 1 else 0) + lead.count .openSocket ∧
    announcements tail = 1 + refusedResets tail

/-- What can precede a close in one step. -/
inductive Lead (early : Prop) (conn : Conn) : List Effect → Prop where
  | nothing : Lead early conn []
  | dialed (ack size : BitVec 32) (fresh : conn.status = .new) :
      Lead early conn [.openSocket, .window ack size]
  | answered (octets : Bytes) (timely : early ∨ conn.status = .connected)
      (asked : conn.socks5InProgress = true) : Lead early conn [.answered octets]
  | received (octets : Bytes) (timely : early ∨ conn.status = .connected)
      (direct : conn.socks5InProgress = false) (socket : conn.sock = true) :
      Lead early conn [.received octets]
  | wrote (octets left : Bytes) (taken : octets ++ left = pending conn.txQueue)
      (socket : conn.sock = true) : Lead early conn [.wrote octets]
  | eof (asked : Nat) (room : asked = min conn.windowSize.toNat conn.mss.toNat)
      (selected : conn.selected = true) : Lead early conn [.eof asked]

/-- A packet whose number is the next, or one before the last acknowledged. -/
def Fits (conn : Conn) (pkt : TcpSegment) : Prop :=
  pkt.seq = conn.clientSeq + conn.txQueueSize ∨ isKeepAlive conn pkt = true

inductive Learn (pkt : TcpSegment) : Conn → Conn → Prop where
  | keepAlive (conn : Conn) (segment : TcpSegment) (built : Built conn TH_ACK [] segment)
      (settled : conn.status = .connected) (direct : conn.socks5InProgress = false)
      (alive : isKeepAlive conn pkt = true) : Learn pkt conn (conn.record [.delivered segment])
  | window (conn : Conn) (socket : conn.sock = true) (settled : conn.status = .connected)
      (direct : conn.socks5InProgress = false) (acking : has pkt.flags TH_ACK = true)
      (next : pkt.seq = conn.clientSeq + conn.txQueueSize) : Learn pkt conn (updateWindow conn pkt)

inductive Take (tun : Tunnel) (pkt : TcpSegment) (env : ForwardEnv) : Conn → Conn → Prop where
  | dial (conn : Conn) (fresh : conn.status = .new) :
      Take tun pkt env conn
        { conn with
          sock := true, selected := true
          windowSize := scaledWindow pkt.win (synOptions tun conn pkt env.memory).scale
          windowScale := (synOptions tun conn pkt env.memory).scale
          mss := (synOptions tun conn pkt env.memory).mss
          clientSeq := pkt.seq + 1, zdtunSeq := INITIAL_SEQ, status := .connecting
          writing := true
          log := conn.log ++ [.openSocket, .window (INITIAL_SEQ + 1)
            (scaledWindow pkt.win (synOptions tun conn pkt env.memory).scale)] }
  | fin (conn : Conn) (settled : conn.status = .connected) (direct : conn.socks5InProgress = false)
      (flags : has pkt.flags TH_FIN = true ∧ has pkt.flags TH_ACK = true) (fits : Fits conn pkt) :
      Take tun pkt env conn
        { conn with
          clientSeq := conn.clientSeq + BitVec.ofNat 32 pkt.payload.length + 1
          clientClosed := true
          log := conn.log ++ ((if conn.sock then [.shutdown] else []) ++
            [.finished pkt.payload]) }
  | queue (conn : Conn) (settled : conn.status = .connected)
      (direct : conn.socks5InProgress = false) (socket : conn.sock = true) (fits : Fits conn pkt)
      (payload : pkt.payload ≠ []) :
      Take tun pkt env conn
        { conn with
          txQueue := conn.txQueue ++ [{ data := pkt.payload, flags := pkt.flags }]
          txQueueSize := conn.txQueueSize + BitVec.ofNat 32 pkt.payload.length
          writing := true
          log := conn.log ++ [.queued pkt.payload] }
  | discard (conn : Conn) (settled : conn.status = .connected)
      (direct : conn.socks5InProgress = false) (socket : conn.sock = false) (fits : Fits conn pkt)
      (payload : pkt.payload ≠ []) :
      Take tun pkt env conn
        { conn with
          clientSeq := conn.clientSeq + BitVec.ofNat 32 pkt.payload.length
          log := conn.log ++ [.discarded pkt.payload] }

/-- An answer of the SOCKS5 server and the message which it leads to. -/
inductive Turn (tun : Tunnel) (tuple : Tuple) :
    Socks5Status → Bytes → Bytes → Socks5Status → Prop where
  | request : Turn tun tuple .hello [5, 0] (requestMessage tuple) .connecting
  | login (userpass : Bytes × Bytes) (known : tun.socks5Userpass = some userpass) :
      Turn tun tuple .hello [5, 2] (authMessage userpass) .auth
  | accepted (rest : Bytes) :
      Turn tun tuple .auth (1 :: 0 :: rest) (requestMessage tuple) .connecting

theorem Turn.unfinished {tun : Tunnel} {tuple : Tuple} {status next : Socks5Status}
    {data octets : Bytes} (turn : Turn tun tuple status data octets next) :
    next ≠ .established := by
  cases turn with
  | request | login | accepted => decide

/-- What is left of the last answer behind `data`: its first four bytes come at once, the address
    and the port in any pieces. -/
def Skips (conn : Conn) (data : Bytes) (left : Nat) : Prop :=
  (conn.socks5Status = .connecting ∧ ∃ reserved atyp bound size,
      data = 5 :: 0 :: reserved :: atyp :: bound ∧ boundLength atyp.toNat = some size ∧
      bound.length + left = size) ∨
    (conn.socks5Status = .skipBnd ∧ data.length + left = conn.socks5Skip)

/-- What the socket and the handshake make of a connection; where `early` is false, nothing is read
    before the end of the connect was noticed. -/
inductive Move (tun : Tunnel) (early : Prop) : Conn → Conn → Prop where
  | ack (conn : Conn) (segment : TcpSegment) (built : Built conn TH_ACK [] segment)
      (settled : conn.status = .connected) (direct : conn.socks5InProgress = false) :
      Move tun early conn (conn.record [.delivered segment])
  | socketError (conn : Conn) (fresh : conn.status = .new) :
      Move tun early conn { conn with status := .socketError }
  | ended (conn after : Conn) (lead : List Effect) (leads : Lead early conn lead)
      (closes : Ended conn lead after) : Move tun early conn after
  | accept (conn : Conn) (segment : TcpSegment) (dialing : conn.status = .connecting)
      (socket : conn.sock = true) (direct : conn.proxyMode ≠ .socks5)
      (built : Built conn (TH_SYN ||| TH_ACK) [] segment) :
      Move tun early conn
        { conn with
          writing := false, status := .connected, zdtunSeq := conn.zdtunSeq + 1
          log := conn.log ++ [.delivered segment] }
  | hello (conn : Conn) (dialing : conn.status = .connecting) (socket : conn.sock = true)
      (proxied : conn.proxyMode = .socks5) :
      Move tun early conn
        { conn with
          writing := false, status := .connected, socks5Status := .hello
          log := conn.log ++ [.greeted (helloMessage tun)] }
  | greet (conn : Conn) (data octets : Bytes) (status : Socks5Status)
      (timely : early ∨ conn.status = .connected) (asked : conn.socks5InProgress = true)
      (socket : conn.sock = true)
      (turn : Turn tun conn.tuple conn.socks5Status data octets status) :
      Move tun early conn
        { conn with
          socks5Status := status
          log := conn.log ++ ([.answered data] ++ [.greeted octets]) }
  | skip (conn : Conn) (data : Bytes) (left : Nat) (timely : early ∨ conn.status = .connected)
      (asked : conn.socks5InProgress = true) (socket : conn.sock = true)
      (skips : Skips conn data left) (more : left ≠ 0) :
      Move tun early conn
        { conn with
          socks5Skip := left, socks5Status := .skipBnd
          log := conn.log ++ [.answered data] }
  | established (conn : Conn) (data : Bytes) (segment : TcpSegment)
      (timely : early ∨ conn.status = .connected) (asked : conn.socks5InProgress = true)
      (socket : conn.sock = true) (skips : Skips conn data 0)
      (built : Built conn (TH_SYN ||| TH_ACK) [] segment) :
      Move tun early conn
        { conn with
          socks5Skip := 0, socks5Status := .established
          zdtunSeq := conn.zdtunSeq + 1
          log := conn.log ++ ([.answered data] ++ [.delivered segment]) }
  | eof (conn : Conn) (asked : Nat) (segment : TcpSegment)
      (timely : early ∨ conn.status = .connected) (socket : conn.sock = true)
      (room : asked = min conn.windowSize.toNat conn.mss.toNat) (selected : conn.selected = true)
      (built : Built conn (TH_FIN ||| TH_ACK) [] segment) :
      Move tun early conn
        { conn with
          zdtunSeq := conn.zdtunSeq + 1, finAckSent := true
          sock := false, selected := false, writing := false
          log := conn.log ++ ([.eof asked] ++ ([.delivered segment] ++ [.closeSocket])) }
  | data (conn : Conn) (octets : Bytes) (segment : TcpSegment)
      (timely : early ∨ conn.status = .connected) (socket : conn.sock = true)
      (direct : conn.socks5InProgress = false) (nonempty : octets ≠ [])
      (room : octets.length ≤ conn.windowSize.toNat)
      (flags : BitVec 8) (plain : has flags TH_SYN = false ∧ has flags TH_RST = false ∧
        has flags TH_FIN = false)
      (acking : has flags TH_ACK = true) (built : Built conn flags octets segment) :
      Move tun early conn
        { conn with
          zdtunSeq := conn.zdtunSeq + BitVec.ofNat 32 octets.length
          windowSize := conn.windowSize - BitVec.ofNat 32 octets.length
          selected := conn.selected &&
            decide (conn.windowSize - BitVec.ofNat 32 octets.length ≠ 0)
          log := conn.log ++ ([.received octets] ++ [.delivered segment]) }
  | flush (conn : Conn) (octets : Bytes) (left : List TcpData) (socket : conn.sock = true)
      (waiting : conn.txQueue ≠ []) (taken : octets ++ pending left = pending conn.txQueue) :
      Move tun early conn
        { conn with
          txQueue := left
          writing := conn.writing && decide (left ≠ [])
          clientSeq := conn.clientSeq + BitVec.ofNat 32 octets.length
          txQueueSize := conn.txQueueSize - BitVec.ofNat 32 octets.length
          log := conn.log ++ [.wrote octets] }

abbrev Moves (tun : Tunnel) (early : Prop) : Conn → Conn → Prop := ReflTransGen (Move tun early)

section Closing

variable (tun : Tunnel)

/-- The packets that are built for the connection are accepted by the parser. -/
structure Sound (conn : Conn) : Prop where
  tcp : conn.tuple.ipproto = IPPROTO_TCP
  mss : conn.mss.toNat + 60 < 65536

structure Held (conn : Conn) : Prop where
  selected : conn.selected = true → conn.sock = true
  writing : conn.writing = true → conn.sock = true

/-- What the status says of the socket, and the sets of the sockets. -/
structure Shape (conn : Conn) : Prop extends Held conn where
  closed : conn.status.isClosed = true → conn.sock = false
  fresh : conn.status = .new →
    conn.sock = false ∧ conn.finAckSent = false ∧ conn.txQueue = [] ∧ conn.log = []
  dialing : conn.status = .connecting →
    conn.txQueue = [] ∧ (conn.sock = true → conn.writing = true)
  finished : conn.finAckSent = true → conn.sock = false
  half : conn.status = .connected → conn.sock = false → conn.finAckSent = true
  busy : conn.writing = true → conn.status = .connecting ∨ conn.txQueue ≠ []
  waiting : conn.sock = true → conn.txQueue ≠ [] → conn.writing = true
  blocked : conn.sock = true → conn.selected = false → conn.windowSize = 0
  asked : conn.socks5InProgress = true → conn.txQueue = []

theorem connected_open (conn : Conn) (settled : conn.status = .connected) :
    conn.status.isClosed = false := by
  rw [settled]
  rfl

theorem open_cases (conn : Conn) (isOpen : conn.status.isClosed = false) :
    conn.status = .new ∨ conn.status = .connecting ∨ conn.status = .connected := by
  cases status : conn.status with
  | new => exact .inl rfl
  | connecting => exact .inr (.inl rfl)
  | connected => exact .inr (.inr rfl)
  | closed | error | socketError | clientError | reset | unreachable | socks5Error =>
      rw [status] at isOpen
      exact absurd isOpen (by decide)

section Parsing

variable (conn : Conn) (segment : TcpSegment)

theorem buildReplyTcpip_length (headers : ZdtunConn) :
    (buildReplyTcpip headers segment).length =
      headers.iphdrLen + (TCP_HEADER_LEN + segment.opts.length + segment.payload.length) := by
  rw [buildReplyTcpip, List.length_append, DnsSpoof.makeIphdr_length, List.length_append,
    tcpHeader_length _ _ _ (by rfl)]

theorem parses_sound (sound : Sound conn) (whole : segment.opts.length % 4 = 0)
    (short : segment.opts.length ≤ 40)
    (fits : segment.opts.length + segment.payload.length + 60 < 65536) :
    parses tun conn segment = true := by
  have header : (conn.headers tun).iphdrLen ≤ IPV6_HEADER_LEN := by
    rw [ZdtunConn.iphdrLen]
    split <;> decide
  simp only [IPV6_HEADER_LEN] at header
  have total : (conn.headers tun).iphdrLen + (Reply.tcp segment).length < 65536 := by
    simp only [Reply.length, TCP_HEADER_LEN]
    omega
  have length := buildReplyTcpip_length segment (conn.headers tun)
  have small : (buildReplyTcpip (conn.headers tun) segment).length % 65536 =
      (buildReplyTcpip (conn.headers tun) segment).length := by
    rw [length]
    exact Nat.mod_eq_of_lt total
  obtain ⟨pkt, arrives⟩ := reply_arrives (conn.headers tun) (fun _ => (0, 0)) (.tcp segment)
    sound.tcp ⟨whole, short⟩ total
  have parsed : zdtunParsePkt (fun _ => (0, 0)) (buildReplyTcpip (conn.headers tun) segment) =
      (fun _ => (0, 0), some pkt) := arrives.parsed
  rw [parses, small, List.take_length, parsed]
  rfl

end Parsing

def refuse (conn : Conn) (segment : TcpSegment) : Conn :=
  finishClose (closeSocket { conn with
    finAckSent := true, log := conn.log ++ [.refused segment] }) .clientError

theorem sendToClient_sound (conn : Conn) (segment : TcpSegment) (ok : Bool)
    (accepted : parses tun conn segment = true) (isOpen : conn.status.isClosed = false) :
    sendToClient tun conn segment ok =
      if ok then (conn.record [.delivered segment], true) else (refuse conn segment, false) := by
  cases ok with
  | true => simp [sendToClient, accepted]
  | false => simp [sendToClient, accepted, refuse, Conn.isOpen, isOpen]

section CloseSocket

variable (conn : Conn)

def closing : List Effect := if conn.sock then [.closeSocket] else []

theorem closeSocket_log : (closeSocket conn).log = conn.log ++ closing conn := by
  rw [closeSocket, closing]
  split <;> simp

@[simp] theorem closeSocket_sock : (closeSocket conn).sock = false := by
  rw [closeSocket]
  split <;> simp_all

@[simp] theorem closeSocket_status : (closeSocket conn).status = conn.status := by
  rw [closeSocket]
  split <;> rfl

@[simp] theorem closeSocket_finAckSent : (closeSocket conn).finAckSent = conn.finAckSent := by
  rw [closeSocket]
  split <;> rfl

@[simp] theorem closeSocket_zdtunSeq : (closeSocket conn).zdtunSeq = conn.zdtunSeq := by
  rw [closeSocket]
  split <;> rfl

@[simp] theorem closeSocket_clientSeq : (closeSocket conn).clientSeq = conn.clientSeq := by
  rw [closeSocket]
  split <;> rfl

theorem closeSocket_headers : (closeSocket conn).headers tun = conn.headers tun := by
  rw [closeSocket]
  split <;> rfl

theorem closeSocket_idle (held : Held conn) :
    (closeSocket conn).selected = false ∧ (closeSocket conn).writing = false := by
  rw [closeSocket]
  split
  · exact ⟨rfl, rfl⟩
  · next socket =>
      exact ⟨Bool.eq_false_iff.mpr fun set => socket (held.selected set),
        Bool.eq_false_iff.mpr fun set => socket (held.writing set)⟩

end CloseSocket

section Ends

variable (conn : Conn)

theorem closing_terminal (effect : Effect) (member : effect ∈ closing conn) :
    Terminal conn effect := by
  rw [closing] at member
  split at member
  · rw [List.mem_singleton.mp member]
    exact .closeSocket
  · cases member

theorem closing_counts : (closing conn).count .closeSocket = (if conn.sock then 1 else 0) ∧
    announcements (closing conn) = 0 ∧ refusedResets (closing conn) = 0 := by
  rw [closing]
  split
  · exact ⟨rfl, rfl, rfl⟩
  · exact ⟨rfl, rfl, rfl⟩

theorem announcements_append (first last : List Effect) :
    announcements (first ++ last) = announcements first + announcements last :=
  List.countP_append

theorem refusedResets_append (first last : List Effect) :
    refusedResets (first ++ last) = refusedResets first + refusedResets last :=
  List.countP_append

theorem refuse_ended (segment : TcpSegment) (held : Held conn)
    (isOpen : conn.status.isClosed = false) (plain : has segment.flags TH_RST = false) :
    Ended conn [] (refuse conn segment) := by
  let marked : Conn := { conn with finAckSent := true, log := conn.log ++ [.refused segment] }
  obtain ⟨selected, writing⟩ := closeSocket_idle marked ⟨held.selected, held.writing⟩
  obtain ⟨sockets, announced, resets⟩ := closing_counts conn
  have none : refusedResets [.refused segment] = 0 := by
    simp [refusedResets, isRefusedReset, plain]
  refine ⟨isOpen, ConnStatus.closing_closed .clientError, closeSocket_sock marked, selected, writing, rfl,
    [.refused segment] ++ (closing conn ++ [.closed (ConnStatus.closing .clientError)]), ?_, ?_, ?_, ?_⟩
  · have log := closeSocket_log marked
    have same : closing marked = closing conn := rfl
    rw [same] at log
    simp only [refuse, finishClose]
    rw [show (closeSocket { conn with finAckSent := true, log := conn.log ++ [.refused segment] }).log =
      conn.log ++ [.refused segment] ++ closing conn from log]
    simp
  · intro effect member
    simp only [List.mem_append, List.mem_singleton] at member
    rcases member with refused | socket | closed
    · rw [refused]
      exact .refused segment
    · exact closing_terminal conn effect socket
    · rw [closed]
      exact .closed _ (ConnStatus.closing_closed _)
  · rw [List.count_append, List.count_append, sockets]
    simp
  · rw [announcements_append, announcements_append, refusedResets_append, refusedResets_append,
      announced, resets, none]
    rfl

/-- `zdtun_conn_close` of an open connection; a reset that is refused closes it once more. -/
theorem zdtunConnClose_ended (status : ConnStatus) (reset : Send) (sound : Sound conn)
    (held : Held conn) (isOpen : conn.status.isClosed = false) :
    Ended conn [] (zdtunConnClose tun conn status reset) := by
  obtain ⟨selected, writing⟩ := closeSocket_idle conn held
  obtain ⟨sockets, announced, resets⟩ := closing_counts conn
  have log := closeSocket_log conn
  have final := ConnStatus.closing_closed status
  -- No reset goes out behind a FIN+ACK of our own.
  by_cases fin : conn.finAckSent = true
  · have result : zdtunConnClose tun conn status reset =
        finishClose (closeSocket conn) status := by
      simp [zdtunConnClose, isOpen, fin]
    rw [result]
    refine ⟨isOpen, final, closeSocket_sock conn, selected, writing, rfl,
      closing conn ++ [.closed status.closing], ?_, ?_, ?_, ?_⟩
    · simp [finishClose, log]
    · intro effect member
      rcases List.mem_append.mp member with socket | closed
      · exact closing_terminal conn effect socket
      · rw [List.mem_singleton.mp closed]
        exact .closed _ final
    · rw [List.count_append, sockets]
      simp
    · rw [announcements_append, refusedResets_append, announced, resets]
      rfl
  · generalize built : buildReply (closeSocket conn) (TH_RST ||| TH_ACK) [] [] reset = segment
    have accepted : parses tun (closeSocket conn) segment = true := by
      have same : parses tun (closeSocket conn) segment = parses tun conn segment := by
        rw [parses, parses, closeSocket_headers]
      rw [same, ← built]
      exact parses_sound tun conn _ sound rfl (Nat.zero_le _) (by simp [buildReply])
    have sends := sendToClient_sound tun (closeSocket conn) segment reset.ok accepted
      ((closeSocket_status conn).symm ▸ isOpen)
    have result : zdtunConnClose tun conn status reset =
        finishClose (sendToClient tun (closeSocket conn) segment reset.ok).1 status := by
      simp [zdtunConnClose, isOpen, fin, built]
    have isReset : Terminal conn (.delivered segment) := by
      refine .reset segment (Bool.eq_false_iff.mpr fin) ⟨?_, fun _ => ?_, ?_, ?_⟩
      · rw [← built]
        exact closeSocket_zdtunSeq conn
      · rw [← built]
        exact closeSocket_clientSeq conn
      · rw [← built]
        rfl
      · rw [← built]
        rfl
    rw [result, sends]
    cases reset.ok with
    | true =>
        refine ⟨isOpen, final, closeSocket_sock conn, selected, writing, rfl,
          closing conn ++ ([.delivered segment] ++ [.closed status.closing]), ?_, ?_, ?_, ?_⟩
        · simp [finishClose, Conn.record, log]
        · intro effect member
          simp only [List.mem_append, List.mem_singleton] at member
          rcases member with socket | delivered | closed
          · exact closing_terminal conn effect socket
          · rw [delivered]
            exact isReset
          · rw [closed]
            exact .closed _ final
        · rw [List.count_append, List.count_append, sockets]
          simp
        · rw [announcements_append, announcements_append, refusedResets_append,
            refusedResets_append, announced, resets]
          rfl
    | false =>
        -- The refused write closes the connection inside the close: two callbacks, one socket.
        let marked : Conn := { closeSocket conn with
          finAckSent := true, log := (closeSocket conn).log ++ [.refused segment] }
        have still : closeSocket marked = marked := by
          have none : marked.sock = false := closeSocket_sock conn
          rw [closeSocket, none]
          rfl
        have flag : has segment.flags TH_RST = true := by
          rw [← built]
          show has (TH_RST ||| TH_ACK) TH_RST = true
          decide
        have one : refusedResets [.refused segment] = 1 := by
          simp [refusedResets, isRefusedReset, flag]
        have refused : refuse (closeSocket conn) segment = finishClose marked .clientError := by
          rw [refuse, still]
        have twice := ConnStatus.closing_closed .clientError
        simp only [Bool.false_eq_true, if_false, refused]
        refine ⟨isOpen, final, closeSocket_sock conn, selected, writing, rfl,
          closing conn ++ ([.refused segment] ++ ([.closed (ConnStatus.closing .clientError)] ++
            [.closed status.closing])), ?_, ?_, ?_, ?_⟩
        · simp [finishClose, marked, log]
        · intro effect member
          simp only [List.mem_append, List.mem_singleton] at member
          rcases member with socket | refused | nested | closed
          · exact closing_terminal conn effect socket
          · rw [refused]
            exact .refused segment
          · rw [nested]
            exact .closed _ twice
          · rw [closed]
            exact .closed _ final
        · rw [List.count_append, List.count_append, List.count_append, sockets]
          simp
        · rw [announcements_append, announcements_append, announcements_append,
            refusedResets_append, refusedResets_append, refusedResets_append, announced, resets,
            one]
          rfl

/-- A close behind changes of other fields, with what they logged as its lead. -/
theorem Ended.behind {conn middle after : Conn} {lead : List Effect}
    (closes : Ended middle [] after) (log : middle.log = conn.log ++ lead)
    (isOpen : conn.status.isClosed = false) (zdtunSeq : middle.zdtunSeq = conn.zdtunSeq)
    (clientSeq : middle.clientSeq = conn.clientSeq)
    (finAckSent : middle.finAckSent = conn.finAckSent)
    (sockets : (if middle.sock then 1 else 0) =
      (if conn.sock then 1 else 0) + lead.count .openSocket) : Ended conn lead after := by
  obtain ⟨_, status, sock, selected, writing, queue, tail, logged, terminal, counted, announced⟩ :=
    closes
  refine ⟨isOpen, status, sock, selected, writing, queue, tail, ?_, ?_, ?_, announced⟩
  · rw [logged, log]
    simp
  · intro effect member
    cases terminal effect member with
    | closeSocket => exact .closeSocket
    | closed status final => exact .closed status final
    | reset segment unfinished built =>
        exact .reset segment (finAckSent.symm.trans unfinished) ⟨built.seq.trans zdtunSeq,
          fun flag => (built.ack flag).trans clientSeq, built.flags, built.payload⟩
    | refused segment => exact .refused segment
  · rw [counted, ← sockets]
    simp

end Ends

section Kept

variable {conn after : Conn} {early : Prop}

theorem Learn.held {pkt : TcpSegment} (learn : Learn pkt conn after) (held : Held conn) :
    Held after := by
  cases learn with
  | keepAlive => exact ⟨held.selected, held.writing⟩
  | window socket => exact ⟨fun _ => socket, held.writing⟩

variable {tun} in
theorem Take.held {pkt : TcpSegment} {env : ForwardEnv} (take : Take tun pkt env conn after) (held : Held conn) :
    Held after := by
  cases take with
  | dial => exact ⟨fun _ => rfl, fun _ => rfl⟩
  | fin => exact ⟨held.selected, held.writing⟩
  | queue settled direct socket => exact ⟨held.selected, fun _ => socket⟩
  | discard => exact ⟨held.selected, held.writing⟩

variable {tun} in
theorem Move.held (move : Move tun early conn after) (held : Held conn) : Held after := by
  cases move with
  | ack => exact ⟨held.selected, held.writing⟩
  | socketError => exact ⟨held.selected, held.writing⟩
  | ended _ lead leads closes =>
      exact ⟨fun set => absurd set (by simp [closes.selected]),
        fun set => absurd set (by simp [closes.writing])⟩
  | accept | hello => exact ⟨held.selected, fun set => absurd set (by simp)⟩
  | greet | skip | established => exact ⟨held.selected, held.writing⟩
  | eof => exact ⟨fun set => absurd set (by simp), fun set => absurd set (by simp)⟩
  | data octets segment timely socket => exact ⟨fun _ => socket, fun _ => socket⟩
  | flush octets left socket => exact ⟨held.selected, fun _ => socket⟩

def SoundOpen (conn : Conn) : Prop := conn.status.isClosed = false → Sound conn

theorem Learn.sound {pkt : TcpSegment} (learn : Learn pkt conn after)
    (sound : SoundOpen conn) : SoundOpen after := by
  cases learn with
  | keepAlive | window =>
      exact fun isOpen => ⟨(sound isOpen).tcp, (sound isOpen).mss⟩

theorem Move.sound (move : Move tun early conn after) (sound : SoundOpen conn) :
    SoundOpen after := by
  cases move with
  | socketError =>
      exact fun isOpen => absurd (show ConnStatus.socketError.isClosed = false from isOpen)
        (by decide)
  | ended _ lead leads closes =>
      intro isOpen
      rw [closes.status] at isOpen
      cases isOpen
  | accept segment dialing | hello dialing =>
      have before := sound (by rw [dialing]; rfl)
      exact fun _ => ⟨before.tcp, before.mss⟩
  | ack | greet | skip | established | eof | data | flush =>
      exact fun isOpen => ⟨(sound isOpen).tcp, (sound isOpen).mss⟩

theorem Take.sound {pkt : TcpSegment} {env : ForwardEnv} (take : Take tun pkt env conn after) (sound : SoundOpen conn)
    (opening : conn.status = .new → after.mss.toNat + 60 < 65536) : SoundOpen after := by
  cases take with
  | dial fresh =>
      have before := sound (by rw [fresh]; rfl)
      exact fun _ => ⟨before.tcp, opening fresh⟩
  | fin settled | queue settled | discard settled =>
      have before := sound (connected_open conn settled)
      exact fun _ => ⟨before.tcp, before.mss⟩

variable {tun} in
theorem Moves.held (moves : Moves tun early conn after) (held : Held conn) : Held after := by
  induction moves with
  | refl => exact held
  | tail _ move ih => exact move.held ih

theorem Moves.sound (moves : Moves tun early conn after) (sound : SoundOpen conn) :
    SoundOpen after := by
  induction moves with
  | refl => exact sound
  | tail _ move ih => exact move.sound tun ih

end Kept

section Sends

variable {early : Prop} (conn : Conn)

variable {tun} in
theorem Moves.ended {conn after : Conn} (closes : Ended conn [] after) : Moves tun early conn after :=
  .single (.ended conn after [] .nothing closes)

theorem close_moves (status : ConnStatus) (reset : Send) (sound : SoundOpen conn)
    (held : Held conn) : Moves tun early conn (zdtunConnClose tun conn status reset) := by
  cases final : conn.status.isClosed with
  | true =>
      have same : zdtunConnClose tun conn status reset = conn := if_pos final
      rw [same]
  | false => exact Moves.ended (zdtunConnClose_ended tun conn status reset (sound final) held final)

theorem buildReply_built (flags : BitVec 8) (payload opts : Bytes) (send : Send) :
    Built conn flags payload (buildReply conn flags payload opts send) :=
  ⟨rfl, fun flag => if_pos flag, rfl, rfl⟩

theorem sendFlags_cases (flags : BitVec 8) (send : Send) (sound : Sound conn)
    (isOpen : conn.status.isClosed = false) : ∃ segment, Built conn flags [] segment ∧
      sendFlags tun conn flags send =
        if send.ok then (conn.record [.delivered segment], true) else (refuse conn segment, false) :=
  ⟨buildReply conn flags [] [] send, buildReply_built conn flags [] [] send,
    sendToClient_sound tun conn _ send.ok (parses_sound tun conn _ sound rfl (Nat.zero_le _)
      (by simp [buildReply])) isOpen⟩

theorem sendSynAck_cases (send : Send) (sound : Sound conn)
    (isOpen : conn.status.isClosed = false) :
    ∃ segment, Built conn (TH_SYN ||| TH_ACK) [] segment ∧
      sendSynAck tun conn send =
        if send.ok then
          ({ conn with
            zdtunSeq := conn.zdtunSeq + 1, log := conn.log ++ [.delivered segment] }, true)
        else (refuse conn segment, false) := by
  let segment := buildReply conn (TH_SYN ||| TH_ACK) [] (synAckOptions tun conn) send
  have length : segment.opts.length = 8 := by
    simp [segment, buildReply, synAckOptions, DnsMessage.word16_length]
  have accepted : parses tun conn segment = true := by
    apply parses_sound tun conn segment sound
    · rw [length]
    · rw [length]
      decide
    · rw [length]
      simp [segment, buildReply]
  refine ⟨segment, buildReply_built conn _ _ _ send, ?_⟩
  have sends := sendToClient_sound tun conn segment send.ok accepted isOpen
  have walk : sendSynAck tun conn send =
      (if (sendToClient tun conn segment send.ok).2 then
        { (sendToClient tun conn segment send.ok).1 with
          zdtunSeq := (sendToClient tun conn segment send.ok).1.zdtunSeq + 1 }
      else (sendToClient tun conn segment send.ok).1,
        (sendToClient tun conn segment send.ok).2) := rfl
  rw [walk, sends]
  cases send.ok <;> rfl

theorem ack_moves (send : Send) (sound : SoundOpen conn) (held : Held conn)
    (settled : conn.status = .connected) (direct : conn.socks5InProgress = false) :
    Moves tun early conn (sendFlags tun conn TH_ACK send).1 := by
  have isOpen := connected_open conn settled
  obtain ⟨segment, built, sends⟩ := sendFlags_cases tun conn TH_ACK send (sound isOpen) isOpen
  have plain : has segment.flags TH_RST = false := by
    rw [built.flags]
    decide
  rw [sends]
  cases send.ok with
  | true => exact .single (.ack conn segment built settled direct)
  | false => exact Moves.ended (refuse_ended conn segment held isOpen plain)

end Sends

section Forwarding

variable {early : Prop} (conn : Conn)

/-- A close behind changes which neither number anything nor open a socket. -/
theorem close_behind (middle : Conn) (lead : List Effect) (status : ConnStatus) (reset : Send)
    (leads : Lead early conn lead) (sound : Sound middle) (held : Held middle)
    (isOpen : conn.status.isClosed = false) (still : middle.status.isClosed = false)
    (log : middle.log = conn.log ++ lead) (zdtunSeq : middle.zdtunSeq = conn.zdtunSeq)
    (clientSeq : middle.clientSeq = conn.clientSeq)
    (finAckSent : middle.finAckSent = conn.finAckSent)
    (sockets : (if middle.sock then 1 else 0) =
      (if conn.sock then 1 else 0) + lead.count .openSocket) :
    Moves tun early conn (zdtunConnClose tun middle status reset) :=
  .single (.ended conn _ lead leads
    ((zdtunConnClose_ended tun middle status reset sound held still).behind log isOpen zdtunSeq
      clientSeq finAckSent sockets))

theorem tcpSocketSyn_moves (hello : Option Errno) (send reset : Send) (sound : Sound conn)
    (held : Held conn) (dialing : conn.status = .connecting) (socket : conn.sock = true) :
    Moves tun early conn (tcpSocketSyn tun conn hello send reset).1 := by
  let connected : Conn := { conn with writing := false, status := .connected }
  have isOpen : conn.status.isClosed = false := by
    rw [dialing]
    rfl
  have ready : Sound connected := ⟨sound.tcp, sound.mss⟩
  have idle : Held connected :=
    ⟨held.selected, fun set => absurd (show false = true from set) (by decide)⟩
  by_cases proxied : conn.proxyMode = .socks5
  · have walk : tcpSocketSyn tun conn hello send reset =
        socks5Connect tun connected hello reset := if_pos proxied
    rw [walk, socks5Connect]
    cases hello with
    | some errno =>
        exact close_behind tun conn connected [] errno.status reset .nothing ready idle isOpen rfl
          (List.append_nil _).symm rfl rfl rfl rfl
    | none => exact .single (.hello conn dialing socket proxied)
  · have walk : tcpSocketSyn tun conn hello send reset = sendSynAck tun connected send :=
      if_neg proxied
    obtain ⟨segment, built, sends⟩ := sendSynAck_cases tun connected send ready rfl
    have plain : has segment.flags TH_RST = false := by
      rw [built.flags]
      decide
    rw [walk, sends]
    cases send.ok with
    | true =>
        exact .single (.accept conn segment dialing socket proxied
          ⟨built.seq, built.ack, built.flags, built.payload⟩)
    | false =>
        exact Moves.ended ((refuse_ended connected segment idle rfl plain).behind
          (List.append_nil _).symm isOpen rfl rfl rfl rfl)

def Takes (pkt : TcpSegment) (env : ForwardEnv) (after : Conn) : Prop :=
  ∃ taken, (conn = taken ∨ Take tun pkt env conn taken) ∧ SoundOpen taken ∧ Moves tun False taken after

theorem Takes.of_moves {tun : Tunnel} {conn after : Conn} (pkt : TcpSegment) (env : ForwardEnv)
    (sound : SoundOpen conn) (moves : Moves tun False conn after) : Takes tun conn pkt env after :=
  ⟨conn, .inl rfl, sound, moves⟩

theorem Takes.of_take {tun : Tunnel} {conn taken after : Conn} {pkt : TcpSegment} {env : ForwardEnv}
    (take : Take tun pkt env conn taken) (sound : SoundOpen taken) (moves : Moves tun False taken after) :
    Takes tun conn pkt env after :=
  ⟨taken, .inr take, sound, moves⟩

theorem openConnection_takes (pkt : TcpSegment) (env : ForwardEnv) (sound : Sound conn)
    (shape : Shape conn) (fresh : conn.status = .new)
    (mss : (synOptions tun conn pkt env.memory).mss.toNat + 60 < 65536) :
    Takes tun conn pkt env (openConnection tun conn pkt env).1 := by
  have isOpen : conn.status.isClosed = false := by
    rw [fresh]
    rfl
  have noSocket := (shape.fresh fresh).1
  cases socket : env.socket with
  | false =>
      have walk : openConnection tun conn pkt env = ({ conn with status := .socketError }, false) := by
        simp [openConnection, socket]
      rw [walk]
      exact Takes.of_moves pkt env (fun _ => sound) (.single (.socketError conn fresh))
  | true =>
      let found := synOptions tun conn pkt env.memory
      let window := scaledWindow pkt.win found.scale
      let opened : Conn :=
        { conn with
          sock := true, selected := true, windowSize := window, windowScale := found.scale
          mss := found.mss
          log := conn.log ++ [.openSocket, .window (INITIAL_SEQ + 1) window] }
      let dialed : Conn :=
        { opened with
          clientSeq := pkt.seq + 1, zdtunSeq := INITIAL_SEQ, status := .connecting
          writing := true }
      have dial : Take tun pkt env conn dialed := .dial conn fresh
      have ready : Sound dialed := ⟨sound.tcp, mss⟩
      cases connect : env.connect with
      | failed errno =>
          have walk : (openConnection tun conn pkt env).1 =
              zdtunConnClose tun opened errno.status env.reset := by
            simp [openConnection, socket, connect, closeWithSocketError, opened, window, found]
          rw [walk]
          exact Takes.of_moves pkt env (fun _ => sound) (close_behind tun conn opened
            [.openSocket, .window (INITIAL_SEQ + 1) window] errno.status env.reset
            (.dialed _ _ fresh) ⟨sound.tcp, mss⟩ ⟨fun _ => rfl, fun _ => rfl⟩ isOpen
            isOpen rfl rfl rfl rfl (by simp [opened, noSocket]))
      -- connect may finish at once: then the handshake goes on in the same call.
      | ok =>
          have walk : openConnection tun conn pkt env =
              tcpSocketSyn tun dialed env.hello env.send env.reset := by
            simp [openConnection, socket, connect, opened, window, found, dialed, tcpSocketSyn]
          rw [walk]
          exact Takes.of_take dial (fun _ => ready) (tcpSocketSyn_moves tun dialed env.hello env.send
            env.reset ready ⟨fun _ => rfl, fun _ => rfl⟩ rfl rfl)
      | inProgress =>
          have walk : openConnection tun conn pkt env = (dialed, true) := by
            simp [openConnection, socket, connect, opened, window, found, dialed]
          rw [walk]
          exact Takes.of_take dial (fun _ => ready) .refl

theorem forwardPayload_takes (pkt : TcpSegment) (env : ForwardEnv) (sound : SoundOpen conn)
    (held : Held conn) (settled : conn.status = .connected)
    (direct : conn.socks5InProgress = false) (fits : Fits conn pkt) :
    Takes tun conn pkt env (forwardPayload tun conn pkt env).1 := by
  by_cases payload : pkt.payload = []
  · have walk : forwardPayload tun conn pkt env = (conn, true) := if_pos payload
    rw [walk]
    exact Takes.of_moves pkt env sound .refl
  · have keeps {taken : Conn} (take : Take tun pkt env conn taken) : SoundOpen taken :=
      take.sound tun sound fun fresh => absurd (settled.symm.trans fresh) (by decide)
    cases socket : conn.sock with
    | true =>
        have walk : forwardPayload tun conn pkt env = enqueueTcpData tun conn pkt env := by
          rw [forwardPayload, if_neg payload, if_pos socket]
        rw [walk]
        cases calloc : env.calloc with
        | true =>
            have queued : enqueueTcpData tun conn pkt env =
                ({ conn with
                  txQueue := conn.txQueue ++ [{ data := pkt.payload, flags := pkt.flags }]
                  txQueueSize := conn.txQueueSize + BitVec.ofNat 32 pkt.payload.length
                  writing := true
                  log := conn.log ++ [.queued pkt.payload] }, true) := by
              simp [enqueueTcpData, calloc]
            have take : Take tun pkt env conn _ := .queue conn settled direct socket fits payload
            rw [queued]
            exact Takes.of_take take (keeps take) .refl
        | false =>
            have closed : enqueueTcpData tun conn pkt env =
                (zdtunConnClose tun conn .error env.reset, false) := by
              simp [enqueueTcpData, calloc]
            rw [closed]
            exact Takes.of_moves pkt env sound (close_moves tun conn .error env.reset sound held)
    | false =>
        have take : Take tun pkt env conn _ := .discard conn settled direct socket fits payload
        have walk : forwardPayload tun conn pkt env = sendFlags tun
            { conn with
              clientSeq := conn.clientSeq + BitVec.ofNat 32 pkt.payload.length
              log := conn.log ++ [.discarded pkt.payload] } TH_ACK env.send := by
          rw [forwardPayload, if_neg payload, if_neg (by simp [socket])]
        rw [walk]
        exact Takes.of_take take (keeps take)
          (ack_moves tun _ env.send (keeps take) (take.held held) settled direct)

theorem clientFinished_takes (pkt : TcpSegment) (env : ForwardEnv) (sound : SoundOpen conn)
    (held : Held conn) (settled : conn.status = .connected)
    (direct : conn.socks5InProgress = false)
    (flags : has pkt.flags TH_FIN = true ∧ has pkt.flags TH_ACK = true) (fits : Fits conn pkt) :
    Takes tun conn pkt env (clientFinished tun conn pkt env).1 := by
  let taken : Conn :=
    { conn with
      clientSeq := conn.clientSeq + BitVec.ofNat 32 pkt.payload.length + 1
      clientClosed := true
      log := conn.log ++ ((if conn.sock then [.shutdown] else []) ++ [.finished pkt.payload]) }
  have take : Take tun pkt env conn taken := .fin conn settled direct flags fits
  have ready := take.sound tun sound fun fresh => absurd (settled.symm.trans fresh) (by decide)
  have idle := take.held held
  have acked : Moves tun False taken _ := ack_moves tun taken env.send ready idle settled
    direct
  have walk : (clientFinished tun conn pkt env).1 =
      if (sendFlags tun taken TH_ACK env.send).1.sock then (sendFlags tun taken TH_ACK env.send).1
      else zdtunConnClose tun (sendFlags tun taken TH_ACK env.send).1 .closed env.reset := rfl
  refine Takes.of_take take ready ?_
  rw [walk]
  split
  · exact acked
  · exact acked.trans (close_moves tun _ .closed env.reset (acked.sound tun ready) (acked.held idle))

def Forwards (pkt : TcpSegment) (env : ForwardEnv) (after : Conn) : Prop :=
  ∃ ready, (conn = ready ∨ Learn pkt conn ready) ∧ Takes tun ready pkt env after

theorem Forwards.of_takes {tun : Tunnel} {conn after : Conn} {pkt : TcpSegment} {env : ForwardEnv}
    (takes : Takes tun conn pkt env after) : Forwards tun conn pkt env after :=
  ⟨conn, .inl rfl, takes⟩

theorem forwardData_forwards (pkt : TcpSegment) (env : ForwardEnv) (sound : SoundOpen conn)
    (held : Held conn) (settled : conn.status = .connected)
    (direct : conn.socks5InProgress = false) (fits : Fits conn pkt) :
    Forwards tun conn pkt env (forwardData tun conn pkt env).1 := by
  have isOpen := connected_open conn settled
  by_cases acking : (has pkt.flags TH_ACK && conn.sock) = true
  · have socket : conn.sock = true := (Bool.and_eq_true_iff.mp acking).2
    cases keepAlive : isKeepAlive conn pkt with
    | true =>
        obtain ⟨segment, built, sends⟩ :=
          sendFlags_cases tun conn TH_ACK env.send (sound isOpen) isOpen
        have plain : has segment.flags TH_RST = false := by
          rw [built.flags]
          decide
        rw [forwardData, if_pos acking, if_pos keepAlive, sends]
        cases env.send.ok with
        | true =>
            have learn : Learn pkt conn _ :=
              .keepAlive conn segment built settled direct keepAlive
            exact ⟨_, .inr learn, forwardPayload_takes tun _ pkt env (learn.sound sound)
              (learn.held held) settled direct (.inr keepAlive)⟩
        | false =>
            exact Forwards.of_takes (Takes.of_moves pkt env sound
              (Moves.ended (refuse_ended conn segment held isOpen plain)))
    | false =>
        have next : pkt.seq = conn.clientSeq + conn.txQueueSize :=
          fits.resolve_right (by simp [keepAlive])
        have learn : Learn pkt conn _ :=
          .window conn socket settled direct (Bool.and_eq_true_iff.mp acking).1 next
        rw [forwardData, if_pos acking, if_neg (by simp [keepAlive])]
        exact ⟨_, .inr learn, forwardPayload_takes tun _ pkt env (learn.sound sound)
          (learn.held held) settled direct fits⟩
  · rw [forwardData, if_neg acking]
    exact Forwards.of_takes (forwardPayload_takes tun conn pkt env sound held settled direct fits)

/-- The first packet asks for segments which fit into the buffer. -/
def Modest (pkt : TcpSegment) (env : ForwardEnv) : Prop :=
  conn.status = .new → (synOptions tun conn pkt env.memory).mss.toNat + 60 < 65536

theorem handleTcpFwd_forwards (pkt : TcpSegment) (env : ForwardEnv) (sound : Sound conn)
    (shape : Shape conn) (isOpen : conn.status.isClosed = false) (modest : Modest tun conn pkt env) :
    Forwards tun conn pkt env (handleTcpFwd tun conn pkt env).1 := by
  have closes (status : ConnStatus) (harmless : Bool) :
      Forwards tun conn pkt env (zdtunConnClose tun conn status env.reset, harmless).1 :=
    Forwards.of_takes (Takes.of_moves pkt env (fun _ => sound)
      (close_moves tun conn status env.reset (fun _ => sound) shape.toHeld))
  rw [handleTcpFwd]
  split
  · exact closes .error false
  · split
    · exact Forwards.of_takes (Takes.of_moves pkt env (fun _ => sound) .refl)
    · next settling =>
        split
        · next fresh =>
            exact Forwards.of_takes (openConnection_takes tun conn pkt env sound shape fresh
              (modest fresh))
        · next known =>
            have settled : conn.status = .connected := by
              rcases open_cases conn isOpen with fresh | dialing | settled
              · exact absurd fresh known
              · exact absurd dialing settling
              · exact settled
            split
            · exact Forwards.of_takes (Takes.of_moves pkt env (fun _ => sound) .refl)
            · next expected =>
                have fits : Fits conn pkt := by
                  rw [Fits]
                  cases keepAlive : isKeepAlive conn pkt with
                  | true => exact .inr rfl
                  | false =>
                      simp only [keepAlive, Bool.not_false, Bool.true_and, decide_eq_true_eq,
                        not_not] at expected
                      exact .inl expected
                split
                · exact closes .socks5Error false
                · next progress =>
                    have direct : conn.socks5InProgress = false := Bool.eq_false_iff.mpr progress
                    split
                    · exact closes .closed true
                    · split
                      · next flags =>
                          exact Forwards.of_takes (clientFinished_takes tun conn pkt env
                            (fun _ => sound) shape.toHeld settled direct
                            (Bool.and_eq_true_iff.mp flags) fits)
                      · exact forwardData_forwards tun conn pkt env (fun _ => sound) shape.toHeld
                          settled direct fits

theorem forward_forwards (pkt : TcpSegment) (env : ForwardEnv) (sound : SoundOpen conn)
    (shape : Shape conn) (modest : Modest tun conn pkt env) :
    Forwards tun conn pkt env (step tun conn (.forward pkt env)) := by
  cases final : conn.status.isClosed with
  | true =>
      have same : step tun conn (.forward pkt env) = conn := if_pos final
      rw [same]
      exact Forwards.of_takes (Takes.of_moves pkt env sound .refl)
  | false =>
      obtain ⟨ready, learn, taken, take, kept, moves⟩ :=
        handleTcpFwd_forwards tun conn pkt env (sound final) shape final modest
      have walk : step tun conn (.forward pkt env) =
          if (handleTcpFwd tun conn pkt env).2 then (handleTcpFwd tun conn pkt env).1
          else zdtunConnClose tun (handleTcpFwd tun conn pkt env).1 .error env.caller := by
        simp [step, final]
      rw [walk]
      split
      · exact ⟨ready, learn, taken, take, kept, moves⟩
      · have idle : Held taken := by
          have held : Held ready := by
            rcases learn with same | learn
            · exact same ▸ shape.toHeld
            · exact learn.held shape.toHeld
          rcases take with same | take
          · exact same ▸ held
          · exact take.held held
        exact ⟨ready, learn, taken, take, kept, moves.trans
          (close_moves tun _ .error env.caller (moves.sound tun kept) (moves.held idle))⟩

end Forwarding

section Reading

variable {early : Prop} (conn : Conn)

/-- What `handle_socks5_reply` makes of the connection, if it does not close it. -/
inductive Negotiated (data : Bytes) : Conn → Prop where
  | greeted (octets : Bytes) (status : Socks5Status)
      (turn : Turn tun conn.tuple conn.socks5Status data octets status) :
      Negotiated data { conn with socks5Status := status, log := conn.log ++ [.greeted octets] }
  | skipping (left : Nat) (skips : Skips conn data left) (more : left ≠ 0) :
      Negotiated data { conn with socks5Skip := left, socks5Status := .skipBnd }
  | done (skips : Skips conn data 0) :
      Negotiated data { conn with socks5Skip := 0, socks5Status := .established }

def Answers (data : Bytes) (result : Conn × Bool) : Prop :=
  (Ended conn [] result.1 ∧
      (result.1.socks5Status = .established → conn.socks5Status = .established)) ∨
    (Negotiated tun conn data result.1 ∧ result.2 = true)

theorem close_socks5Status (status : ConnStatus) (reset : Send) :
    (zdtunConnClose tun conn status reset).socks5Status = conn.socks5Status := by
  have shut (other : Conn) : (closeSocket other).socks5Status = other.socks5Status := by
    rw [closeSocket]
    split <;> rfl
  have sent (other : Conn) (segment : TcpSegment) (ok : Bool) :
      (sendToClient tun other segment ok).1.socks5Status = other.socks5Status := by
    simp only [sendToClient]
    split
    · rfl
    · split
      · rfl
      · split
        · exact shut _
        · rfl
  simp only [zdtunConnClose]
  split
  · rfl
  · split
    · exact shut conn
    · exact (sent _ _ _).trans (shut conn)

theorem closes_answers (data : Bytes) (status : ConnStatus) (harmless : Bool) (reset : Send)
    (sound : Sound conn) (held : Held conn) (isOpen : conn.status.isClosed = false) :
    Answers tun conn data (zdtunConnClose tun conn status reset, harmless) :=
  .inl ⟨zdtunConnClose_ended tun conn status reset sound held isOpen,
    fun done => (close_socks5Status tun conn status reset).symm.trans done⟩

theorem greet_answers (data octets : Bytes) (status : Socks5Status) (failure : Option Errno)
    (reset : Send) (turn : Turn tun conn.tuple conn.socks5Status data octets status)
    (sound : Sound conn) (held : Held conn) (isOpen : conn.status.isClosed = false) :
    Answers tun conn data (greet tun conn octets status failure reset) := by
  cases failure with
  | some errno =>
      exact closes_answers tun conn data errno.status errno.harmless reset sound held isOpen
  | none => exact .inr ⟨.greeted octets status turn, rfl⟩

theorem skipBnd_walk (len : Nat) (reset : Send) (within : len ≤ conn.socks5Skip) :
    skipBnd tun conn len reset =
      ({ conn with
        socks5Skip := conn.socks5Skip - len
        socks5Status := if conn.socks5Skip - len = 0 then .established else .skipBnd }, true) :=
  if_pos within

theorem finishes (data : Bytes) (left : Nat) (skips : Skips conn data left) :
    Negotiated tun conn data
      { conn with
        socks5Skip := left, socks5Status := if left = 0 then .established else .skipBnd } := by
  split
  · next none =>
      subst none
      exact .done skips
  · next more => exact .skipping left skips more

theorem first_two (data : Bytes) (first second : UInt8) (long : ¬ data.length < 2)
    (start : byteAt data 0 = first.toNat) (next : byteAt data 1 = second.toNat) :
    ∃ rest, data = first :: second :: rest := by
  match data with
  | [] | [_] => simp at long
  | one :: two :: rest =>
      have same : one = first := UInt8.toNat_inj.mp start
      have other : two = second := UInt8.toNat_inj.mp next
      exact ⟨rest, by rw [same, other]⟩

theorem hello_answers (data : Bytes) (failure : Option Errno) (reset : Send)
    (sound : Sound conn) (held : Held conn) (isOpen : conn.status.isClosed = false)
    (state : conn.socks5Status = .hello) :
    Answers tun conn data (handleSocks5Reply tun conn data failure reset) := by
  have fails := closes_answers tun conn data .socks5Error false reset sound held isOpen
  have exactly (method : UInt8) (fine : ¬ (data.length ≠ 2 ∨ byteAt data 0 ≠ 5))
      (chosen : byteAt data 1 = method.toNat) : data = [5, method] := by
    rw [not_or, not_not, not_not] at fine
    obtain ⟨rest, split⟩ := first_two data 5 method (by omega) fine.2 chosen
    have none : rest = [] := by simpa [split] using fine.1
    rw [split, none]
  rw [handleSocks5Reply, state]
  simp only
  split
  · exact fails
  · next fine =>
      split
      · next chosen =>
          have split := exactly 0 fine chosen
          subst split
          exact greet_answers tun conn _ _ _ failure reset (state ▸ .request) sound held isOpen
      · split
        · next userpass known =>
            split
            · next chosen =>
                have split := exactly 2 fine chosen
                subst split
                exact greet_answers tun conn _ _ _ failure reset (state ▸ .login userpass known)
                  sound held isOpen
            · exact fails
        · exact fails

theorem auth_answers (data : Bytes) (failure : Option Errno) (reset : Send)
    (sound : Sound conn) (held : Held conn) (isOpen : conn.status.isClosed = false)
    (state : conn.socks5Status = .auth) :
    Answers tun conn data (handleSocks5Reply tun conn data failure reset) := by
  rw [handleSocks5Reply, state]
  simp only
  split
  · exact closes_answers tun conn data .socks5Error false reset sound held isOpen
  · next fine =>
      rw [not_or, not_or, not_not, not_not] at fine
      obtain ⟨rest, split⟩ := first_two data 1 0 fine.1 fine.2.1 fine.2.2
      subst split
      exact greet_answers tun conn _ _ _ failure reset (state ▸ .accepted rest) sound held isOpen

theorem connecting_answers (data : Bytes) (failure : Option Errno) (reset : Send)
    (sound : Sound conn) (held : Held conn) (isOpen : conn.status.isClosed = false)
    (state : conn.socks5Status = .connecting) :
    Answers tun conn data (handleSocks5Reply tun conn data failure reset) := by
  have fails (status : ConnStatus) (harmless : Bool) :
      Answers tun conn data (socks5Failed tun conn status harmless reset) :=
    closes_answers tun conn data status harmless reset sound held isOpen
  rw [handleSocks5Reply, state]
  simp only
  split
  · exact fails _ _
  · next fine =>
      split
      · exact fails _ _
      · next success =>
          rw [not_or, not_not] at fine
          rw [not_not] at success
          obtain ⟨rest, split⟩ := first_two data 5 0 (by omega) fine.2 success
          obtain ⟨reserved, atyp, bound, behind⟩ : ∃ reserved atyp bound,
              data = 5 :: 0 :: reserved :: atyp :: bound := by
            match rest, split with
            | [], split | [_], split => simp [split] at fine
            | reserved :: atyp :: bound, split => exact ⟨reserved, atyp, bound, split⟩
          have kind : byteAt data 3 = atyp.toNat := by
            rw [behind]
            rfl
          have length : data.length - 4 = bound.length := by simp [behind]
          have skips (size left : Nat) (known : boundLength atyp.toNat = some size)
              (sum : bound.length + left = size) : Skips conn data left :=
            .inl ⟨state, reserved, atyp, bound, size, behind, known, sum⟩
          rw [kind]
          split
          · exact fails _ _
          · next size known =>
              split
              -- The bound address may end here, go on in the next segment, or not fit.
              · by_cases within : data.length - 4 ≤ size
                · rw [skipBnd_walk tun _ _ reset within]
                  exact .inr ⟨finishes tun conn data (size - (data.length - 4))
                    (skips size _ known (by omega)), rfl⟩
                · -- The status is already SOCKS5_SKIP_BND when the connection is closed.
                  let skipping : Conn := { conn with socks5Skip := size, socks5Status := .skipBnd }
                  have walk : skipBnd tun skipping (data.length - 4) reset =
                      socks5Failed tun skipping .socks5Error false reset := if_neg within
                  have ended := zdtunConnClose_ended tun skipping .socks5Error reset
                    ⟨sound.tcp, sound.mss⟩ ⟨held.selected, held.writing⟩ isOpen
                  rw [walk]
                  refine .inl ⟨ended.behind (List.append_nil _).symm isOpen rfl rfl rfl rfl, ?_⟩
                  intro done
                  have still := close_socks5Status tun skipping .socks5Error reset
                  exact absurd (show Socks5Status.skipBnd = .established from still.symm.trans done)
                    (by decide)
              · next short =>
                  have some_left : size ≠ 0 := by
                    rw [boundLength] at known
                    split at known
                    · cases known
                      decide
                    · split at known
                      · cases known
                        decide
                      · cases known
                  exact .inr ⟨.skipping size (skips size size known (by omega)) some_left, rfl⟩

theorem handleSocks5Reply_answers (data : Bytes) (failure : Option Errno) (reset : Send)
    (sound : Sound conn) (held : Held conn) (isOpen : conn.status.isClosed = false) :
    Answers tun conn data (handleSocks5Reply tun conn data failure reset) := by
  cases state : conn.socks5Status with
  | hello => exact hello_answers tun conn data failure reset sound held isOpen state
  | auth => exact auth_answers tun conn data failure reset sound held isOpen state
  | connecting => exact connecting_answers tun conn data failure reset sound held isOpen state
  | skipBnd =>
      rw [handleSocks5Reply, state]
      simp only
      by_cases within : data.length ≤ conn.socks5Skip
      · rw [skipBnd_walk tun conn _ reset within]
        exact .inr ⟨finishes tun conn data _ (.inr ⟨state, by omega⟩), rfl⟩
      · rw [skipBnd, if_neg within]
        exact closes_answers tun conn data .socks5Error false reset sound held isOpen
  | established =>
      rw [handleSocks5Reply, state]
      exact closes_answers tun conn data .socks5Error false reset sound held isOpen

theorem negotiate_moves (data : Bytes) (env : ReadEnv) (sound : Sound conn) (held : Held conn)
    (isOpen : conn.status.isClosed = false) (timely : early ∨ conn.status = .connected)
    (asked : conn.socks5InProgress = true) (socket : conn.sock = true) :
    Moves tun early conn
      (if (handleSocks5Reply tun (conn.record [.answered data]) data env.socks5 env.reset).2 &&
          decide ((handleSocks5Reply tun (conn.record [.answered data]) data env.socks5
            env.reset).1.socks5Status = .established) then
        (sendSynAck tun (handleSocks5Reply tun (conn.record [.answered data]) data env.socks5
          env.reset).1 env.send).1
      else (handleSocks5Reply tun (conn.record [.answered data]) data env.socks5 env.reset).1) := by
  have noted : Sound (conn.record [.answered data]) := ⟨sound.tcp, sound.mss⟩
  have waiting : conn.socks5Status ≠ .established := by
    intro done
    simp [Conn.socks5InProgress, done] at asked
  have result := handleSocks5Reply_answers tun (conn.record [.answered data]) data env.socks5
    env.reset noted ⟨held.selected, held.writing⟩ isOpen
  generalize handleSocks5Reply tun (conn.record [.answered data]) data env.socks5 env.reset =
    answered at result ⊢
  rcases result with ⟨ended, unfinished⟩ | ⟨negotiated, ok⟩
  -- The connection has been closed before the proxy was done.
  · have other : answered.1.socks5Status ≠ .established := fun done => waiting (unfinished done)
    rw [if_neg (by simp [other])]
    exact .single (.ended conn _ _ (.answered data timely asked) (ended.behind rfl isOpen rfl rfl rfl rfl))
  · obtain ⟨after, result⟩ := answered
    simp only at ok negotiated
    subst ok
    cases negotiated with
    | greeted octets status turn =>
        have more : status ≠ .established := turn.unfinished
        simp only [more, decide_false, Bool.and_false, Bool.false_eq_true, if_false]
        have move : Move tun early conn _ := .greet conn data octets status timely asked socket turn
        simpa [Conn.record] using Relation.ReflTransGen.single move
    | skipping left skips more => exact .single (.skip conn data left timely asked socket skips more)
    | done skips =>
        let done : Conn :=
          { conn.record [.answered data] with socks5Skip := 0, socks5Status := .established }
        obtain ⟨segment, built, sends⟩ := sendSynAck_cases tun done env.send
          ⟨sound.tcp, sound.mss⟩ isOpen
        have plain : has segment.flags TH_RST = false := by
          rw [built.flags]
          decide
        show Moves tun early conn (sendSynAck tun done env.send).1
        rw [sends]
        cases env.send.ok with
        | true =>
            have move : Move tun early conn _ := .established conn data segment timely asked socket skips
              ⟨built.seq, built.ack, built.flags, built.payload⟩
            simpa [Conn.record, done] using Relation.ReflTransGen.single move
        | false =>
            have ended := refuse_ended done segment ⟨held.selected, held.writing⟩ isOpen plain
            exact .single (.ended conn _ _ (.answered data timely asked)
              (ended.behind rfl isOpen rfl rfl rfl rfl))

theorem serverFinished_moves (env : ReadEnv) (sound : Sound conn) (shape : Shape conn)
    (isOpen : conn.status.isClosed = false) (timely : early ∨ conn.status = .connected)
    (socket : conn.sock = true) (selected : conn.selected = true) :
    Moves tun early conn
      (serverFinished tun conn (min conn.windowSize.toNat conn.mss.toNat) env) := by
  generalize room : min conn.windowSize.toNat conn.mss.toNat = asked
  have unsent : conn.finAckSent = false := Bool.eq_false_iff.mpr fun sent => by
    simp [shape.finished sent] at socket
  let noted : Conn := conn.record [.eof asked]
  have ready : Sound noted := ⟨sound.tcp, sound.mss⟩
  have idle : Held noted := ⟨shape.selected, shape.writing⟩
  obtain ⟨segment, built, sends⟩ :=
    sendFlags_cases tun noted (TH_FIN ||| TH_ACK) env.send ready isOpen
  have plain : has segment.flags TH_RST = false := by
    rw [built.flags]
    decide
  let shut : Conn := closeSocket { tcpSocketFinAck tun noted env.send with finAckSent := true }
  have walk : serverFinished tun conn asked env =
      if shut.clientClosed then zdtunConnClose tun shut .closed env.reset else shut := by
    simp [serverFinished, Conn.record, unsent, noted, shut]
  have finAck : tcpSocketFinAck tun noted env.send =
      if (sendFlags tun noted (TH_FIN ||| TH_ACK) env.send).2 then
        { (sendFlags tun noted (TH_FIN ||| TH_ACK) env.send).1 with
          zdtunSeq := (sendFlags tun noted (TH_FIN ||| TH_ACK) env.send).1.zdtunSeq + 1 }
      else (sendFlags tun noted (TH_FIN ||| TH_ACK) env.send).1 := rfl
  rw [walk]
  cases ok : env.send.ok with
  | true =>
      have move : Move tun early conn _ := .eof conn asked segment timely socket room.symm selected
        ⟨built.seq, built.ack, built.flags, built.payload⟩
      have state : shut =
          { conn with
            zdtunSeq := conn.zdtunSeq + 1, finAckSent := true
            sock := false, selected := false, writing := false
            log := conn.log ++ ([.eof asked] ++ ([.delivered segment] ++ [.closeSocket])) } := by
        simp only [shut, finAck, sends, ok, if_true]
        simp [noted, Conn.record, closeSocket, socket]
      rw [state]
      split
      · exact (ReflTransGen.single move).trans (close_moves tun _ .closed env.reset
          (move.sound tun fun _ => sound) (move.held shape.toHeld))
      · exact .single move
  -- A FIN+ACK that is refused has closed the connection: nothing is left to shut.
  | false =>
      have ended := refuse_ended noted segment idle isOpen plain
      have state : shut = refuse noted segment := by
        have still : closeSocket (refuse noted segment) = refuse noted segment := by
          rw [closeSocket, ended.sock]
          rfl
        have marked : { refuse noted segment with finAckSent := true } = refuse noted segment := by
          simp only [refuse, finishClose, closeSocket]
          split <;> rfl
        simp only [shut, finAck, sends, ok, Bool.false_eq_true, if_false]
        rw [marked, still]
      have closed : zdtunConnClose tun (refuse noted segment) .closed env.reset =
          refuse noted segment := if_pos ended.status
      rw [state, closed, ite_self]
      exact .single (.ended conn _ _ (.eof asked room.symm selected) (ended.behind rfl isOpen rfl rfl rfl rfl))

theorem serverData_moves (octets : Bytes) (env : ReadEnv) (sound : Sound conn)
    (held : Held conn) (isOpen : conn.status.isClosed = false)
    (timely : early ∨ conn.status = .connected) (socket : conn.sock = true)
    (direct : conn.socks5InProgress = false) (nonempty : octets ≠ [])
    (room : octets.length ≤ conn.windowSize.toNat) (short : octets.length ≤ conn.mss.toNat) :
    Moves tun early conn (serverData tun conn octets env).1 := by
  let noted : Conn := conn.record [.received octets]
  let flags : BitVec 8 := if env.fionread then TH_ACK else TH_ACK ||| TH_PUSH
  let segment := buildReply noted flags octets [] env.send
  have plain : has flags TH_SYN = false ∧ has flags TH_RST = false ∧ has flags TH_FIN = false := by
    simp only [flags]
    split <;> decide
  have acking : has flags TH_ACK = true := by
    simp only [flags]
    split <;> decide
  have mss := sound.mss
  have accepted : parses tun noted segment = true :=
    parses_sound tun noted segment ⟨sound.tcp, sound.mss⟩ rfl (Nat.zero_le _)
      (by simp [segment, buildReply]; omega)
  have sends := sendToClient_sound tun noted segment env.send.ok accepted isOpen
  have enough : ¬ noted.windowSize.toNat < octets.length := Nat.not_lt.mpr room
  have walk : (serverData tun conn octets env).1 =
      if (sendToClient tun noted segment env.send.ok).2 then
        { (sendToClient tun noted segment env.send.ok).1 with
          zdtunSeq := (sendToClient tun noted segment env.send.ok).1.zdtunSeq +
            BitVec.ofNat 32 octets.length
          windowSize := (sendToClient tun noted segment env.send.ok).1.windowSize -
            BitVec.ofNat 32 octets.length
          selected := (sendToClient tun noted segment env.send.ok).1.selected &&
            decide ((sendToClient tun noted segment env.send.ok).1.windowSize -
              BitVec.ofNat 32 octets.length ≠ 0) }
      else (sendToClient tun noted segment env.send.ok).1 := by
    rw [serverData]
    simp only
    rw [if_neg enough]
    exact apply_ite Prod.fst _ _ _
  rw [walk, sends]
  cases env.send.ok with
  | true =>
      have move : Move tun early conn _ :=
        .data conn octets segment timely socket direct nonempty room flags plain acking
        ⟨rfl, fun flag => if_pos flag, rfl, rfl⟩
      simpa [Conn.record, noted] using Relation.ReflTransGen.single move
  | false =>
      have ended := refuse_ended noted segment ⟨held.selected, held.writing⟩ isOpen plain.2.1
      exact .single (.ended conn _ _ (.received octets timely direct socket) (ended.behind rfl isOpen rfl rfl rfl rfl))

theorem handleTcpReply_moves (env : ReadEnv) (sound : Sound conn) (shape : Shape conn)
    (isOpen : conn.status.isClosed = false)
    (timely : (∃ octets, env.recv = .ok octets) → early ∨ conn.status = .connected)
    (socket : conn.sock = true) (selected : conn.selected = true) :
    Moves tun early conn (handleTcpReply tun conn env) := by
  rw [handleTcpReply]
  cases recv : env.recv with
  | error errno =>
      exact close_moves tun conn errno.status env.reset (fun _ => sound) shape.toHeld
  | ok octets =>
      simp only
      have timely := timely ⟨octets, recv⟩
      have short := List.length_take_le (min conn.windowSize.toNat conn.mss.toNat) octets
      generalize octets.take (min conn.windowSize.toNat conn.mss.toNat) = data at short ⊢
      split
      · exact serverFinished_moves tun conn env sound shape isOpen timely socket selected
      · next nonempty =>
          split
          · next asked =>
              exact negotiate_moves tun conn data env sound shape.toHeld isOpen timely asked socket
          · next direct =>
              exact serverData_moves tun conn data env sound shape.toHeld isOpen timely socket
                (Bool.eq_false_iff.mpr direct) nonempty (short.trans (Nat.min_le_left _ _))
                (short.trans (Nat.min_le_right _ _))

end Reading

section Writing

variable {early : Prop} (conn : Conn)

theorem drain_taken (queue : List TcpData) (sends : List Sent) :
    (drain queue sends).1 ++ pending (drain queue sends).2.1 = pending queue := by
  induction queue generalizing sends with
  | nil => rfl
  | cons item others ih =>
      have split_item : pending (item :: others) = item.rest ++ pending others := List.flatMap_cons
      rw [drain, split_item]
      split
      · rfl
      · rfl
      · next count _ =>
          split
          · -- A part of the segment stays at the head of the queue.
            have left : ({ item with sofar := item.sofar + count } : TcpData).rest =
                item.rest.drop count := (List.drop_drop).symm
            have split_left : pending ({ item with sofar := item.sofar + count } :: others) =
                item.rest.drop count ++ pending others := by
              rw [pending, List.flatMap_cons, left]
              rfl
            rw [split_left, ← List.append_assoc, List.take_append_drop]
          · rw [List.append_assoc, ih]

theorem handleQueuedTcpData_moves (env : WriteEnv) (sound : Sound conn) (held : Held conn)
    (settled : conn.status = .connected) (direct : conn.socks5InProgress = false)
    (socket : conn.sock = true) (waiting : conn.txQueue ≠ []) : Moves tun early conn (handleQueuedTcpData tun conn env) := by
  have isOpen := connected_open conn settled
  have taken := drain_taken conn.txQueue env.sends
  rw [handleQueuedTcpData]
  generalize drain conn.txQueue env.sends = result at taken ⊢
  obtain ⟨octets, queue, failure⟩ := result
  simp only at taken ⊢
  cases failure with
  | some errno =>
      exact close_behind tun conn { conn with txQueue := queue, log := conn.log ++ [.wrote octets] }
        [.wrote octets] errno.status env.reset (.wrote octets _ taken socket)
        ⟨sound.tcp, sound.mss⟩ ⟨held.selected, held.writing⟩ isOpen isOpen rfl rfl rfl
        rfl rfl
  | none =>
      have move : Move tun early conn _ := .flush conn octets queue socket waiting taken
      by_cases written : octets = []
      · subst written
        simpa using ReflTransGen.single move
      · simp only [written, if_false]
        exact (ReflTransGen.single move).trans (ack_moves tun _ env.send
          (move.sound tun fun _ => sound) (move.held held) settled direct)

end Writing

section Stepping

variable {early : Prop} (conn : Conn)

theorem handleTcpConnectAsync_moves (env : WriteEnv) (sound : Sound conn) (held : Held conn)
    (dialing : conn.status = .connecting) (socket : conn.sock = true) :
    Moves tun early conn (handleTcpConnectAsync tun conn env) := by
  rw [handleTcpConnectAsync]
  cases env.soError with
  | failed => exact close_moves tun conn .socketError env.reset (fun _ => sound) held
  | connected =>
      exact tcpSocketSyn_moves tun conn env.hello env.send env.reset sound held dialing socket
  | error errno => exact close_moves tun conn errno.status env.reset (fun _ => sound) held

def Early (event : Event) : Prop :=
  conn.status = .connecting ∧ ∃ env octets, event = .readable env ∧ env.recv = .ok octets

instance (event : Event) : Decidable (Early conn event) :=
  match event with
  | .readable env =>
      match answer : env.recv with
      | .ok octets =>
          decidable_of_iff (conn.status = .connecting)
            ⟨fun dialing => ⟨dialing, env, octets, rfl, answer⟩, And.left⟩
      | .error errno => isFalse (by
          rintro ⟨_, _, octets, same, ok⟩
          cases same
          rw [answer] at ok
          cases ok)
  | .forward pkt env => isFalse (by
      rintro ⟨_, _, _, same, _⟩
      cases same)
  | .writable env => isFalse (by
      rintro ⟨_, _, _, same, _⟩
      cases same)
  | .close status reset => isFalse (by
      rintro ⟨_, _, _, same, _⟩
      cases same)

theorem step_moves (event : Event) (sound : SoundOpen conn) (shape : Shape conn)
    (other : ∀ pkt env, event ≠ .forward pkt env) : 
    Moves tun (Early conn event) conn (step tun conn event) := by
  have known (socket : conn.sock = true) : conn.status.isClosed = false :=
    Bool.eq_false_iff.mpr fun final => by simp [shape.closed final] at socket
  cases event with
  | forward pkt env => exact absurd rfl (other pkt env)
  | readable env =>
      rw [step]
      split
      · next set =>
          obtain ⟨socket, selected⟩ := Bool.and_eq_true_iff.mp set
          refine handleTcpReply_moves tun conn env (sound (known socket)) shape (known socket) ?_
            socket selected
          rintro ⟨octets, recv⟩
          rcases open_cases conn (known socket) with fresh | dialing | settled
          · simp [(shape.fresh fresh).1] at socket
          · exact .inl ⟨dialing, env, octets, rfl, recv⟩
          · exact .inr settled
      · exact .refl
  | writable env =>
      rw [step]
      split
      · next set =>
          obtain ⟨socket, writing⟩ := Bool.and_eq_true_iff.mp set
          have isOpen := known socket
          split
          · next waiting =>
              have settled : conn.status = .connected := by
                rcases open_cases conn isOpen with fresh | dialing | settled
                · simp [(shape.fresh fresh).1] at socket
                · exact absurd (shape.dialing dialing).1 waiting
                · exact settled
              have direct : conn.socks5InProgress = false := Bool.eq_false_iff.mpr fun asked =>
                waiting (shape.asked asked)
              exact handleQueuedTcpData_moves tun conn env (sound isOpen) shape.toHeld settled direct
                socket waiting
          · next empty =>
              have dialing : conn.status = .connecting :=
                (shape.busy writing).resolve_right empty
              exact handleTcpConnectAsync_moves tun conn env (sound isOpen) shape.toHeld dialing socket
      · exact .refl
  | close status reset => exact close_moves tun conn status reset sound shape.toHeld

end Stepping

end Closing

end Ptnet.TcpProxy
