import Ptnet.TcpDownstream

/-!
The socket of a connection and the callback that tells its end: a socket is opened at most once and
closed as often, it is watched whenever there is something to do for it, and `on_connection_close`
is called once, and once more for each reset that the client did not get.
-/

namespace Ptnet.TcpProxy

open Connection
open LibpcapCapture (TH_FIN TH_SYN TH_RST TH_ACK)
open TunnelPackets

section Watching

theorem shape_kept (tun : Tunnel) : Kept tun True (fun _ _ _ => True) fun _ => True where
  move _ _ _ _ _ := trivial
  take _ _ _ _ _ _ _ _ := trivial
  learn _ _ _ _ _ _ _ _ := ⟨trivial, trivial⟩

end Watching

structure Accounts (conn : Conn) : Prop where
  sockets : conn.log.count .openSocket = conn.log.count .closeSocket + if conn.sock then 1 else 0
  once : conn.log.count .openSocket ≤ 1
  silent : conn.status.isClosed = false →
    announcements conn.log = 0 ∧ refusedResets conn.log = 0
  announced : conn.status.isClosed = true →
    (conn.log = [] ∧ conn.status = .socketError) ∨
      announcements conn.log = 1 + refusedResets conn.log

section Accounting

variable {tun : Tunnel} {early : Prop} {conn after : Conn}

structure Plain (more : List Effect) : Prop where
  opened : more.count .openSocket = 0
  closed : more.count .closeSocket = 0
  announced : announcements more = 0
  refused : refusedResets more = 0

theorem Accounts.still (accounts : Accounts conn) (more : List Effect)
    (log : after.log = conn.log ++ more) (plain : Plain more) (sock : after.sock = conn.sock)
    (isOpen : conn.status.isClosed = false) (still : after.status.isClosed = false) :
    Accounts after := by
  obtain ⟨opened, closed, announced, refused⟩ := plain
  have silent := accounts.silent isOpen
  constructor
  · rw [log, List.count_append, List.count_append, opened, closed, sock]
    exact accounts.sockets
  · rw [log, List.count_append, opened]
    exact accounts.once
  · intro _
    rw [log, announcements_append, refusedResets_append, announced, refused]
    exact silent
  · exact fun final => absurd (still.symm.trans final) (by decide)

theorem Lead.counts {lead : List Effect} (leads : Lead early conn lead) :
    lead.count .closeSocket = 0 ∧ announcements lead = 0 ∧ refusedResets lead = 0 ∧
      (lead.count .openSocket = 0 ∨ lead.count .openSocket = 1 ∧ conn.status = .new) := by
  cases leads with
  | dialed ack size fresh => exact ⟨rfl, rfl, rfl, .inr ⟨rfl, fresh⟩⟩
  | nothing | answered | received | wrote | eof => exact ⟨rfl, rfl, rfl, .inl rfl⟩

theorem terminal_unopened (tail : List Effect) (terminal : ∀ effect ∈ tail, Terminal conn effect) :
    tail.count .openSocket = 0 := by
  refine List.count_eq_zero.mpr fun member => ?_
  cases terminal _ member

theorem Accounts.ended {lead : List Effect} (accounts : Accounts conn) (shape : Shape conn)
    (leads : Lead early conn lead) (closes : Ended conn lead after) : Accounts after := by
  obtain ⟨tail, log, terminal, counted, announced⟩ := closes.log
  obtain ⟨unclosed, unannounced, unrefused, opened⟩ := leads.counts
  obtain ⟨silent, none⟩ := accounts.silent closes.wasOpen
  have unopened := terminal_unopened tail terminal
  have sockets := accounts.sockets
  constructor
  · rw [log, List.count_append, List.count_append, List.count_append, List.count_append, unopened,
      unclosed, counted, closes.sock, sockets]
    simp
    omega
  · rw [log, List.count_append, List.count_append, unopened]
    rcases opened with zero | ⟨one, fresh⟩
    · rw [zero]
      exact accounts.once
    · rw [one, (shape.fresh fresh).2.2.2]
      decide
  · exact fun isOpen => absurd (isOpen.symm.trans closes.status) (by decide)
  · intro _
    refine .inr ?_
    rw [log, announcements_append, announcements_append, refusedResets_append, refusedResets_append,
      silent, none, unannounced, unrefused, announced]
    omega

theorem Move.accounts (move : Move tun early conn after) (shape : Shape conn)
    (accounts : Accounts conn) : Accounts after := by
  have plain_sent {flags : BitVec 8} {payload : ByteMemory.Bytes} {segment : TcpSegment}
      (_ : Built conn flags payload segment) : Plain [.delivered segment] := ⟨rfl, rfl, rfl, rfl⟩
  cases move with
  | ack segment built settled =>
      have isOpen := connected_open conn settled
      exact accounts.still [.delivered segment] rfl (plain_sent built) rfl isOpen isOpen
  | socketError fresh =>
      have blank := (shape.fresh fresh).2.2.2
      refine ⟨accounts.sockets, accounts.once, fun isOpen => ?_, fun _ => .inl ⟨blank, rfl⟩⟩
      exact absurd (show ConnStatus.socketError.isClosed = false from isOpen) (by decide)
  | ended _ lead leads closes => exact accounts.ended shape leads closes
  | accept segment dialing socket direct built =>
      exact accounts.still [.delivered segment] rfl (plain_sent built) rfl (shape.known socket).1 rfl
  | hello dialing socket =>
      exact accounts.still [.greeted _] rfl ⟨rfl, rfl, rfl, rfl⟩ rfl (shape.known socket).1 rfl
  | greet data octets status timely asked socket =>
      have isOpen := (shape.known socket).1
      exact accounts.still _ rfl ⟨rfl, rfl, rfl, rfl⟩ rfl isOpen isOpen
  | skip data left timely asked socket =>
      have isOpen := (shape.known socket).1
      exact accounts.still [.answered data] rfl ⟨rfl, rfl, rfl, rfl⟩ rfl isOpen isOpen
  | established data segment timely asked socket
  | data octets segment timely socket =>
      have isOpen := (shape.known socket).1
      exact accounts.still _ rfl ⟨rfl, rfl, rfl, rfl⟩ rfl isOpen isOpen
  | eof asked segment timely socket =>
      have isOpen := (shape.known socket).1
      have sockets := accounts.sockets
      have silent := accounts.silent isOpen
      rw [socket, if_pos rfl] at sockets
      constructor
      · simp [List.count_append]
        omega
      · simpa [List.count_append] using accounts.once
      · intro _
        rw [announcements_append, refusedResets_append, silent.1, silent.2]
        exact ⟨rfl, rfl⟩
      · exact fun final => absurd (isOpen.symm.trans final) (by decide)
  | flush octets left socket =>
      have isOpen := (shape.known socket).1
      exact accounts.still [.wrote octets] rfl ⟨rfl, rfl, rfl, rfl⟩ rfl isOpen isOpen

theorem Take.accounts {pkt : TcpSegment} {env : ForwardEnv} (take : Take tun pkt env conn after)
    (shape : Shape conn) (accounts : Accounts conn) : Accounts after := by
  cases take with
  | dial fresh =>
      have blank := (shape.fresh fresh).2.2.2
      constructor
      · simp [blank]
      · simp [blank]
      · intro _
        rw [blank]
        exact ⟨rfl, rfl⟩
      · exact fun final =>
          absurd (show ConnStatus.connecting.isClosed = true from final) (by decide)
  | fin settled =>
      have isOpen := connected_open conn settled
      refine accounts.still _ rfl ?_ rfl isOpen isOpen
      split <;> exact ⟨rfl, rfl, rfl, rfl⟩
  | queue settled =>
      have isOpen := connected_open conn settled
      exact accounts.still [.queued _] rfl ⟨rfl, rfl, rfl, rfl⟩ rfl isOpen isOpen
  | discard settled =>
      have isOpen := connected_open conn settled
      exact accounts.still [.discarded _] rfl ⟨rfl, rfl, rfl, rfl⟩ rfl isOpen isOpen

theorem Learn.accounts {pkt : TcpSegment} (learn : Learn pkt conn after)
    (accounts : Accounts conn) : Accounts after := by
  cases learn with
  | keepAlive segment built settled =>
      have isOpen := connected_open conn settled
      exact accounts.still [.delivered segment] rfl ⟨rfl, rfl, rfl, rfl⟩ rfl isOpen isOpen
  | window socket settled =>
      have isOpen := connected_open conn settled
      exact accounts.still [.window _ _] rfl ⟨rfl, rfl, rfl, rfl⟩ rfl isOpen isOpen

theorem accounts_kept (tun : Tunnel) : Kept tun True (fun _ _ _ => True) Accounts where
  move _ _ shape accounts move := move.accounts shape accounts
  take _ _ _ _ shape accounts _ take := take.accounts shape accounts
  learn _ _ _ _ _ accounts _ learn := ⟨learn.accounts accounts, trivial⟩

end Accounting

/-- At most one socket is opened and it is closed at most once. A connection that ended was
    announced once, and once more for a reset that the client did not get, unless its socket could
    not be opened, which is never announced. -/
theorem ends_announced (tun : Tunnel) (tuple : Tuple) (proxyMode : ProxyMode) (dnatIpver : Nat)
    (events : List Event) (tcp : tuple.ipproto = IPPROTO_TCP)
    (admissible : Machine.Along (step tun) (Admissible tun) (newConn tuple proxyMode dnatIpver)
      events) :
    let conn := Machine.run (step tun) (newConn tuple proxyMode dnatIpver) events
    conn.log.count .openSocket ≤ 1 ∧
      conn.log.count .openSocket = conn.log.count .closeSocket + (if conn.sock then 1 else 0) ∧
      (conn.status.isClosed = false → announcements conn.log = 0) ∧
      (conn.status.isClosed = true → conn.sock = false ∧
        ((conn.log = [] ∧ conn.status = .socketError) ∨
          announcements conn.log = 1 + refusedResets conn.log)) := by
  intro conn
  have initial : Accounts (newConn tuple proxyMode dnatIpver) :=
    { sockets := rfl
      once := Nat.zero_le 1
      silent := fun _ => ⟨rfl, rfl⟩
      announced := fun final => absurd (show ConnStatus.new.isClosed = true from final) (by decide) }
  obtain ⟨shape, accounts⟩ : Shape conn ∧ Accounts conn :=
    (accounts_kept tun).always tuple proxyMode dnatIpver events tcp admissible initial
  exact ⟨accounts.once, accounts.sockets, fun isOpen => (accounts.silent isOpen).1,
    fun final => ⟨shape.closed final, accounts.announced final⟩⟩

def leaving : List Event := browsing ++ [.forward (packet 1004 (TH_FIN ||| TH_ACK) []) {}]

theorem leaving_admissible : Machine.Along (step {}) (Admissible {}) (newConn webTuple .none 4)
    leaving := by
  refine Machine.along_of_forall _ _ _ _ fun event member conn =>
    admissible_plain conn event fun pkt env same => ?_
  rcases List.mem_append.mp member with before | last
  · exact browsing_plain event before pkt env same
  · obtain rfl := List.mem_singleton.mp last
    cases same
    rfl

/-- Not announced while the client may still send, and announced once when it has ended. -/
theorem ends_announced_leaving :
    announcements (Machine.run (step {}) (newConn webTuple .none 4) browsing).log = 0 ∧
      (Machine.run (step {}) (newConn webTuple .none 4) leaving).log.count .openSocket =
        (Machine.run (step {}) (newConn webTuple .none 4) leaving).log.count .closeSocket ∧
      announcements (Machine.run (step {}) (newConn webTuple .none 4) leaving).log = 1 := by
  have running := ends_announced {} webTuple .none 4 browsing rfl browsing_admissible
  obtain ⟨-, sockets, -, ended⟩ := ends_announced {} webTuple .none 4 leaving rfl leaving_admissible
  obtain ⟨closed, announced⟩ := ended (by decide +kernel)
  rw [closed] at sockets
  refine ⟨running.2.2.1 (by decide +kernel), sockets, ?_⟩
  rcases announced with ⟨silent, -⟩ | announced
  · exact absurd silent (by decide +kernel)
  · rw [announced]
    decide +kernel

end Ptnet.TcpProxy
