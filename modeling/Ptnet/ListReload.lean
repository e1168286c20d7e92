import Ptnet.HousekeepingFrame
import Ptnet.Machine

/-!
How a rule list gets from the app to the capture thread. An app thread finds the slot of the
list empty, loads the list and stores it there; `pd_housekeeping` finds it, installs it and
clears the slot. Each access to shared memory is a step of its own, in any order of the threads.
-/

namespace Ptnet.ListReload

open Machine
open NativeBlacklist (Blacklist Environment ListDescriptor blacklistLoadListDescriptor)
open Pcapdroid (Pd Settings Slot Pass pdHousekeeping)

/-- The lists, in the order in which housekeeping looks for new ones. -/
inductive Kind where
  | malwareWhitelist
  | blocklist
  | firewallWhitelist
  | decryptionList
  deriving DecidableEq, Repr

/-- A descriptor with the answers of libc while it is loaded. -/
structure Submission where
  ld : ListDescriptor
  init : Bool := true
  apps : Environment
  hosts : Environment
  ips : Environment

def Submission.load (submission : Submission) (failure : String) : Except String Blacklist :=
  if !submission.init then .error "blacklist_init failed"
  else
    match blacklistLoadListDescriptor submission.apps submission.hosts submission.ips {}
        submission.ld with
    | (rv, bl) => if rv < 0 then .error failure else .ok bl

/-- The checks before a `reload*` function loads anything. -/
def enterReload (supported : Bool) (slot : Option Blacklist) (unsupported occupied : String) :
    Except String Unit :=
  if !supported then .error unsupported
  else if slot.isSome then .error occupied
  else .ok ()

def reloadBlocklist (settings : Settings) : Except String Unit :=
  enterReload settings.vpnCapture settings.firewallNewBl "firewall in root mode not implemented"
    "previous blocklist not loaded yet"

def reloadFirewallWhitelist (settings : Settings) : Except String Unit :=
  enterReload settings.vpnCapture settings.firewallNewWl "firewall in root mode not implemented"
    "previous firewall whitelist not loaded yet"

def reloadMalwareWhitelist (settings : Settings) : Except String Unit :=
  enterReload settings.malwareEnabled settings.malwareNewWl "malware detection not enabled"
    "previous malware whitelist not loaded yet"

def reloadDecryptionList (settings : Settings) : Except String Unit :=
  enterReload settings.tlsEnabled settings.tlsNewList "TLS decryption not enabled"
    "previous decryption list not loaded yet"

namespace Kind

def enter : Kind → Settings → Except String Unit
  | .malwareWhitelist => reloadMalwareWhitelist
  | .blocklist => reloadBlocklist
  | .firewallWhitelist => reloadFirewallWhitelist
  | .decryptionList => reloadDecryptionList

def failure : Kind → String
  | .malwareWhitelist => "Could not load malware whitelist rules. Check the log for more details"
  | .blocklist => "Could not load firewall rules. Check the log for more details"
  | .firewallWhitelist => "Could not load firewall whitelist rules. Check the log for more details"
  | .decryptionList => "Could not load decryption list. Check the log for more details"

def slot : Kind → Settings → Option Blacklist
  | .malwareWhitelist => Settings.malwareNewWl
  | .blocklist => Settings.firewallNewBl
  | .firewallWhitelist => Settings.firewallNewWl
  | .decryptionList => Settings.tlsNewList

def active : Kind → Settings → Option Blacklist
  | .malwareWhitelist => Settings.malwareWhitelist
  | .blocklist => fun settings => settings.firewall.bl
  | .firewallWhitelist => fun settings => settings.firewall.wl
  | .decryptionList => Settings.tlsList

def setSlot (settings : Settings) (list : Option Blacklist) : Kind → Settings
  | .malwareWhitelist => { settings with malwareNewWl := list }
  | .blocklist => { settings with firewallNewBl := list }
  | .firewallWhitelist => { settings with firewallNewWl := list }
  | .decryptionList => { settings with tlsNewList := list }

def setActive (settings : Settings) (list : Option Blacklist) : Kind → Settings
  | .malwareWhitelist => { settings with malwareWhitelist := list }
  | .blocklist => { settings with firewall := { settings.firewall with bl := list } }
  | .firewallWhitelist => { settings with firewall := { settings.firewall with wl := list } }
  | .decryptionList => { settings with tlsList := list }

section Access

variable (settings : Settings) (list : Option Blacklist) (kind other : Kind)

@[simp] theorem slot_setSlot :
    other.slot (setSlot settings list kind) = if other = kind then list else other.slot settings := by
  cases kind <;> cases other <;> rfl

@[simp] theorem active_setSlot : other.active (setSlot settings list kind) = other.active settings := by
  cases kind <;> cases other <;> rfl

@[simp] theorem slot_setActive : other.slot (setActive settings list kind) = other.slot settings := by
  cases kind <;> cases other <;> rfl

@[simp] theorem active_setActive :
    other.active (setActive settings list kind) =
      if other = kind then list else other.active settings := by
  cases kind <;> cases other <;> rfl

end Access

end Kind

/-- A call of an app thread that has passed the checks; `stored` once the list is in its slot
    and only `wl_enabled` is left to set. -/
structure Call where
  kind : Kind
  submission : Submission
  stored : Bool := false

inductive Position where
  | idle
  | testing (kind : Kind)
  | installing (kind : Kind)
  | clearing (kind : Kind)
  deriving DecidableEq, Repr

def skipped : Kind → Position
  | .malwareWhitelist => .testing .blocklist
  | .blocklist => .testing .firewallWhitelist
  | .firewallWhitelist => .testing .decryptionList
  | .decryptionList => .idle

/-- The next check after the installation of a list: a new blocklist defers the whitelist. -/
def installed : Kind → Position
  | .malwareWhitelist => .testing .blocklist
  | .blocklist => .testing .decryptionList
  | .firewallWhitelist => .testing .decryptionList
  | .decryptionList => .idle

/-- `latest` remembers for each list who submitted the last descriptor. -/
structure State where
  settings : Settings
  position : Position := .idle
  calls : Nat → Option Call := fun _ => none
  latest : Kind → Option (Nat × Submission) := fun _ => none

inductive Event where
  | enter (thread : Nat) (kind : Kind) (submission : Submission)
  /-- `reloadFirewallWhitelist` with a null descriptor. -/
  | disableWhitelist (thread : Nat)
  | advance (thread : Nat)
  | tick

/-- The next step of an entered call: the store of the loaded list, then for a whitelist the
    switch to whitelist mode. -/
def advance (state : State) (thread : Nat) (call : Call) : State :=
  let returned := Function.update state.calls thread none
  if call.stored then
    { state with
      settings := { state.settings with firewall := { state.settings.firewall with wlEnabled := true } }
      calls := returned }
  else
    match call.submission.load call.kind.failure with
    | .error _ => { state with calls := returned }
    | .ok bl =>
        { state with
          settings := Kind.setSlot state.settings (some bl) call.kind
          calls :=
            if call.kind = .firewallWhitelist then
              Function.update state.calls thread (some { call with stored := true })
            else returned }

/-- The next step of the capture thread in `pd_housekeeping`. -/
def tick (state : State) : State :=
  match state.position with
  | .idle => { state with position := .testing .malwareWhitelist }
  | .testing kind =>
      { state with
        position := if (kind.slot state.settings).isSome then .installing kind else skipped kind }
  | .installing kind =>
      { state with
        settings := Kind.setActive state.settings (kind.slot state.settings) kind
        position := .clearing kind }
  | .clearing kind =>
      { state with
        settings := Kind.setSlot state.settings none kind
        position := installed kind }

def step (state : State) : Event → State
  | .enter thread kind submission =>
      if (state.calls thread).isSome then state
      else
        let submitted :=
          { state with latest := Function.update state.latest kind (some (thread, submission)) }
        match kind.enter state.settings with
        | .error _ => submitted
        | .ok () =>
            { submitted with
              calls := Function.update state.calls thread (some ⟨kind, submission, false⟩) }
  | .disableWhitelist thread =>
      if (state.calls thread).isSome then state
      else
        match reloadFirewallWhitelist state.settings with
        | .error _ => state
        | .ok () =>
            { state with
              settings := { state.settings with
                firewall := { state.settings.firewall with wlEnabled := false } } }
  | .advance thread =>
      match state.calls thread with
      | none => state
      | some call => advance state thread call
  | .tick => tick state

def start (settings : Settings) : State := { settings := settings }

def NoCalls (state : State) : Prop := ∀ thread, state.calls thread = none

/-- No call is in progress and housekeeping has drained the slots. -/
structure Quiet (state : State) : Prop where
  calls : NoCalls state
  position : state.position = .idle
  slots : ∀ kind : Kind, kind.slot state.settings = none

/-- Every active list is the one of the last submitted descriptor. -/
def Current (state : State) : Prop :=
  ∀ kind thread submission, state.latest kind = some (thread, submission) →
    ∃ bl, submission.load kind.failure = .ok bl ∧ kind.active state.settings = some bl

/-- The last call for a list has not stored it yet. -/
def Loading (state : State) (kind : Kind) : Prop :=
  ∃ thread submission, state.latest kind = some (thread, submission) ∧
    state.calls thread = some ⟨kind, submission, false⟩

/-- A call is not refused and its descriptor loads. A list is stored by the last call for it,
    and not while housekeeping is about to clear the slot, or the last call still has to store
    its own list. -/
def Accepted (state : State) : Event → Prop
  | .enter thread kind submission =>
      state.calls thread = none →
        kind.enter state.settings = .ok () ∧ ∃ bl, submission.load kind.failure = .ok bl
  | .advance thread =>
      ∀ kind submission, state.calls thread = some ⟨kind, submission, false⟩ →
        if (state.latest kind).map Prod.fst = some thread then state.position ≠ .clearing kind
        else Loading state kind
  | .disableWhitelist _ | .tick => True

inductive Reached (state : State) (kind : Kind) (thread : Nat) (submission : Submission)
    (bl : Blacklist) : Prop where
  | loading (entered : state.calls thread = some ⟨kind, submission, false⟩)
  | waiting (stored : kind.slot state.settings = some bl)
      (kept : state.position ≠ .clearing kind)
  | installed (active : kind.active state.settings = some bl)
      (last : kind.slot state.settings = none ∨ state.position = .clearing kind)

structure Delivered (state : State) : Prop where
  filled : ∀ kind : Kind, state.position = .installing kind → kind.slot state.settings ≠ none
  own : ∀ thread call submission, state.calls thread = some call →
    state.latest call.kind = some (thread, submission) → submission = call.submission
  lists : ∀ kind thread submission, state.latest kind = some (thread, submission) →
    ∃ bl, submission.load kind.failure = .ok bl ∧ Reached state kind thread submission bl

theorem start_delivered (settings : Settings) : Delivered (start settings) := by
  constructor <;> simp [start]

/-- What a step of the capture thread does to the list of one kind. -/
theorem tick_reached (state : State) (kind : Kind) (thread : Nat) (submission : Submission)
    (bl : Blacklist) (filled : state.position = .installing kind → kind.slot state.settings ≠ none)
    (reached : Reached state kind thread submission bl) :
    Reached (tick state) kind thread submission bl := by
  rcases place : state.position with _ | other | other | other <;> simp only [tick, place]
  · cases reached with
    | loading entered => exact .loading entered
    | waiting stored kept => exact .waiting stored (by simp)
    | installed active last => exact .installed active (Or.inl (by simpa [place] using last))
  · have apart : (if (other.slot state.settings).isSome then Position.installing other
        else skipped other) ≠ .clearing kind := by
      split
      · simp
      · cases other <;> simp [skipped]
    cases reached with
    | loading entered => exact .loading entered
    | waiting stored kept => exact .waiting stored apart
    | installed active last => exact .installed active (Or.inl (by simpa [place] using last))
  · cases reached with
    | loading entered => exact .loading entered
    | waiting stored kept =>
        by_cases same : kind = other
        · subst same
          exact .installed (by simp [stored]) (Or.inr rfl)
        · exact .waiting (by simpa using stored) (by simpa using Ne.symm same)
    | installed active last =>
        have empty : kind.slot state.settings = none := by simpa [place] using last
        have differs : kind ≠ other := fun same => filled (by rw [place, same]) empty
        exact .installed (by simpa [differs] using active) (Or.inl (by simpa using empty))
  · have apart : installed other ≠ .clearing kind := by
      cases other <;> simp [installed]
    cases reached with
    | loading entered => exact .loading entered
    | waiting stored kept =>
        have differs : kind ≠ other := fun same => kept (by rw [place, same])
        exact .waiting (by simpa [differs] using stored) apart
    | installed active last =>
        refine .installed (by simpa using active) (Or.inl ?_)
        by_cases same : kind = other
        · simp [same]
        · simpa [same, place, Ne.symm same] using last

theorem tick_filled (state : State) (kind : Kind)
    (installing : (tick state).position = .installing kind) :
    kind.slot (tick state).settings ≠ none := by
  rcases place : state.position with _ | other | other | other <;>
    simp only [tick, place] at installing ⊢
  · simp at installing
  · split at installing
    · next waiting =>
        obtain rfl : other = kind := by simpa using installing
        exact Option.isSome_iff_ne_none.mp waiting
    · cases other <;> simp [skipped] at installing
  · simp at installing
  · cases other <;> simp [installed] at installing

theorem tick_calls (state : State) : (tick state).calls = state.calls := by
  unfold tick
  split <;> rfl

theorem tick_latest (state : State) : (tick state).latest = state.latest := by
  unfold tick
  split <;> rfl

theorem tick_delivered (state : State) (delivered : Delivered state) : Delivered (tick state) where
  filled := tick_filled state
  own thread call submission entered latest := by
    rw [tick_calls] at entered
    rw [tick_latest] at latest
    exact delivered.own thread call submission entered latest
  lists kind thread submission latest := by
    rw [tick_latest] at latest
    obtain ⟨bl, loads, reached⟩ := delivered.lists kind thread submission latest
    exact ⟨bl, loads, tick_reached state kind thread submission bl (delivered.filled kind) reached⟩

/-- The last call for a list is now the one that was just entered. -/
theorem enter_delivered (state : State) (thread : Nat) (kind : Kind) (submission : Submission)
    (delivered : Delivered state) (free : state.calls thread = none)
    (accepted : ∃ bl, submission.load kind.failure = .ok bl) :
    Delivered { state with
      latest := Function.update state.latest kind (some (thread, submission))
      calls := Function.update state.calls thread (some ⟨kind, submission, false⟩) } where
  filled := delivered.filled
  own other call last entered latest := by
    dsimp only at entered latest
    by_cases mine : other = thread
    · subst mine
      obtain rfl : call = ⟨kind, submission, false⟩ := by simpa using entered.symm
      simpa using latest.symm
    · rw [Function.update_of_ne mine] at entered
      by_cases same : call.kind = kind
      · rw [same, Function.update_self] at latest
        simp only [Option.some.injEq, Prod.mk.injEq] at latest
        exact absurd latest.1.symm mine
      · rw [Function.update_of_ne same] at latest
        exact delivered.own other call last entered latest
  lists other owner last latest := by
    dsimp only at latest
    by_cases same : other = kind
    · subst same
      obtain ⟨rfl, rfl⟩ : thread = owner ∧ submission = last := by simpa using latest
      obtain ⟨bl, loads⟩ := accepted
      exact ⟨bl, loads, .loading (by simp)⟩
    · rw [Function.update_of_ne same] at latest
      obtain ⟨bl, loads, reached⟩ := delivered.lists other owner last latest
      refine ⟨bl, loads, ?_⟩
      cases reached with
      | loading entered =>
          have differs : owner ≠ thread := by
            rintro rfl
            rw [free] at entered
            cases entered
          exact .loading (by simpa [differs] using entered)
      | waiting stored kept => exact .waiting stored kept
      | installed active last => exact .installed active last

theorem finish_delivered (state : State) (thread : Nat) (call : Call) (delivered : Delivered state)
    (entered : state.calls thread = some call) (stored : call.stored = true) :
    Delivered (advance state thread call) := by
  simp only [advance, stored, ↓reduceIte]
  refine ⟨fun kind installing => ?_, fun other called last busy latest => ?_,
    fun kind owner last latest => ?_⟩
  · have waiting := delivered.filled kind installing
    cases kind <;> exact waiting
  · dsimp only at busy
    by_cases mine : other = thread
    · simp [mine] at busy
    · rw [Function.update_of_ne mine] at busy
      exact delivered.own other called last busy latest
  · obtain ⟨bl, loads, reached⟩ := delivered.lists kind owner last latest
    refine ⟨bl, loads, ?_⟩
    cases reached with
    | loading busy =>
        have differs : owner ≠ thread := by
          rintro rfl
          rw [entered] at busy
          obtain rfl := Option.some.inj busy
          cases stored
        exact .loading (by simpa [differs] using busy)
    | waiting stored kept => exact .waiting (by cases kind <;> exact stored) kept
    | installed active last =>
        exact .installed (by cases kind <;> exact active) (by cases kind <;> exact last)

section Store

variable (state : State) (thread : Nat) (kind : Kind) (submission : Submission)

theorem advance_calls (call : Call) (other : Nat) (differs : other ≠ thread) :
    (advance state thread call).calls other = state.calls other := by
  simp only [advance]
  split
  · simp [differs]
  · split
    · simp [differs]
    · split <;> simp [differs]

theorem advance_own (call next : Call) (entered : (advance state thread call).calls thread = some next) :
    next = { call with stored := true } := by
  simp only [advance] at entered
  split at entered
  · simp at entered
  · split at entered
    · simp at entered
    · split at entered
      · simpa using entered.symm
      · simp at entered

theorem advance_latest (call : Call) : (advance state thread call).latest = state.latest := by
  simp only [advance]
  split
  · rfl
  · split <;> rfl

theorem advance_position (call : Call) :
    (advance state thread call).position = state.position := by
  simp only [advance]
  split
  · rfl
  · split <;> rfl

/-- The store reaches the slot of its own list only. -/
theorem store_settings (other : Kind) :
    other.active (advance state thread ⟨kind, submission, false⟩).settings =
        other.active state.settings ∧
      other.slot (advance state thread ⟨kind, submission, false⟩).settings =
        if other = kind then
          ((submission.load kind.failure).toOption <|> kind.slot state.settings)
        else other.slot state.settings := by
  simp only [advance, Bool.false_eq_true, ↓reduceIte]
  split
  · next message failed =>
      by_cases same : other = kind <;> simp [same, failed, Except.toOption]
  · next bl loads =>
      by_cases same : other = kind <;> simp [same, loads, Except.toOption]

/-- A call stores its list: it is the last one for this list, or that one is still loading. -/
theorem store_delivered (delivered : Delivered state)
    (entered : state.calls thread = some ⟨kind, submission, false⟩)
    (accepted : Accepted state (.advance thread)) :
    Delivered (advance state thread ⟨kind, submission, false⟩) where
  filled other installing := by
    rw [advance_position] at installing
    rw [(store_settings state thread kind submission other).2]
    have waiting := delivered.filled other installing
    split
    · next same =>
        subst same
        cases submission.load other.failure <;> simp [Except.toOption, waiting]
    · exact waiting
  own other call last busy latest := by
    rw [advance_latest] at latest
    by_cases mine : other = thread
    · subst mine
      obtain rfl := advance_own state other _ call busy
      exact delivered.own other ⟨kind, submission, false⟩ last entered latest
    · rw [advance_calls state thread _ other mine] at busy
      exact delivered.own other call last busy latest
  lists other owner last latest := by
    rw [advance_latest] at latest
    obtain ⟨bl, loads, reached⟩ := delivered.lists other owner last latest
    refine ⟨bl, loads, ?_⟩
    obtain ⟨active, slot⟩ := store_settings state thread kind submission other
    have position := advance_position state thread ⟨kind, submission, false⟩
    have admitted := accepted kind submission entered
    by_cases same : other = kind
    · subst same
      rw [if_pos rfl] at slot
      by_cases mine : owner = thread
      · subst mine
        obtain rfl := delivered.own owner _ last entered latest
        rw [latest, Option.map_some, if_pos rfl] at admitted
        exact .waiting (by simp [slot, loads, Except.toOption]) (by rwa [position])
      · -- An older call: whatever it stores, the last one still follows.
        rw [latest, Option.map_some, if_neg (by simpa using mine)] at admitted
        obtain ⟨writer, pending, last', busy⟩ := admitted
        rw [latest] at last'
        obtain ⟨rfl, rfl⟩ : owner = writer ∧ last = pending := by simpa using last'
        exact .loading ((advance_calls state thread _ owner mine).trans busy)
    · rw [if_neg same] at slot
      cases reached with
      | loading busy =>
          have differs : owner ≠ thread := by
            rintro rfl
            rw [entered] at busy
            exact same (congrArg Call.kind (Option.some.inj busy)).symm
          exact .loading ((advance_calls state thread _ owner differs).trans busy)
      | waiting stored kept => exact .waiting (slot.trans stored) (by rwa [position])
      | installed installed last => exact .installed (active.trans installed) (by rwa [slot, position])

end Store

theorem step_delivered (state : State) (event : Event) (delivered : Delivered state)
    (accepted : Accepted state event) : Delivered (step state event) := by
  cases event with
  | enter thread kind submission =>
      rcases free : state.calls thread with _ | call
      · obtain ⟨entered, loads⟩ := accepted free
        simpa [step, free, entered] using
          enter_delivered state thread kind submission delivered free loads
      · simpa [step, free] using delivered
  | disableWhitelist thread =>
      simp only [step]
      split
      · exact delivered
      · split
        · exact delivered
        · refine ⟨fun kind installing => ?_, delivered.own, fun kind owner last latest => ?_⟩
          · have waiting := delivered.filled kind installing
            cases kind <;> exact waiting
          · obtain ⟨bl, loads, reached⟩ := delivered.lists kind owner last latest
            refine ⟨bl, loads, ?_⟩
            cases reached with
            | loading busy => exact .loading busy
            | waiting stored kept => exact .waiting (by cases kind <;> exact stored) kept
            | installed active last =>
                exact .installed (by cases kind <;> exact active) (by cases kind <;> exact last)
  | advance thread =>
      simp only [step]
      rcases entered : state.calls thread with _ | ⟨kind, submission, stored⟩
      · exact delivered
      · cases stored with
        | true => exact finish_delivered state thread _ delivered entered rfl
        | false => exact store_delivered state thread kind submission delivered entered accepted
  | tick => exact tick_delivered state delivered

def Event.thread? : Event → Option Nat
  | .enter thread _ _ | .disableWhitelist thread | .advance thread => some thread
  | .tick => none

theorem step_calls (state : State) (event : Event) (thread : Nat)
    (other : event.thread? ≠ some thread) : (step state event).calls thread = state.calls thread := by
  cases event with
  | enter owner kind submission =>
      have differs : thread ≠ owner := fun same => other (by rw [same, Event.thread?])
      simp only [step]
      split
      · rfl
      · split
        · rfl
        · exact Function.update_of_ne differs _ _
  | disableWhitelist owner =>
      simp only [step]
      split
      · rfl
      · split <;> rfl
  | advance owner =>
      have differs : thread ≠ owner := fun same => other (by rw [same, Event.thread?])
      simp only [step]
      split
      · rfl
      · exact advance_calls state owner _ thread differs
  | tick => exact congrFun (tick_calls state) thread

theorem run_calls (state : State) (events : List Event) (thread : Nat)
    (others : ∀ event ∈ events, event.thread? ≠ some thread) :
    (run step state events).calls thread = state.calls thread := by
  induction events generalizing state with
  | nil => rfl
  | cons event rest ih =>
      rw [run_cons, ih (step state event) fun later member =>
        others later (List.mem_cons_of_mem event member)]
      exact step_calls state event thread (others event List.mem_cons_self)

section Drain

def Ticks (before after : State) : Prop := ∃ count, run step before (List.replicate count .tick) = after

theorem Ticks.refl (state : State) : Ticks state state := ⟨0, rfl⟩

theorem Ticks.trans {before between after : State} (first : Ticks before between)
    (last : Ticks between after) : Ticks before after := by
  obtain ⟨count, rfl⟩ := first
  obtain ⟨more, rfl⟩ := last
  exact ⟨count + more, by rw [List.replicate_add, run_append]⟩

theorem Ticks.tick (state : State) : Ticks state (tick state) := ⟨1, rfl⟩

theorem check_ticks (state : State) (kind : Kind) (place : state.position = .testing kind) :
    Ticks state (match kind.slot state.settings with
      | none => { state with position := skipped kind }
      | some list =>
          { state with
            settings := Kind.setSlot (Kind.setActive state.settings (some list) kind) none kind
            position := installed kind }) := by
  have first := Ticks.tick state
  rcases waiting : kind.slot state.settings with _ | list
  · simpa [ListReload.tick, place, waiting] using first
  · have second := first.trans (Ticks.tick _)
    have third := second.trans (Ticks.tick _)
    simpa [ListReload.tick, place, waiting] using third

theorem pass_ticks (state : State) (idle : state.position = .idle) :
    Ticks state { state with
      settings := state.settings.loadMalwareWhitelist.loadFirewallLists.loadDecryptionList } := by
  obtain ⟨settings, position, calls, latest⟩ := state
  obtain rfl : position = .idle := idle
  have malware := check_ticks ⟨settings, .testing .malwareWhitelist, calls, latest⟩
    .malwareWhitelist rfl
  have blocklist (current : Settings) := check_ticks ⟨current, .testing .blocklist, calls, latest⟩
    .blocklist rfl
  have whitelist (current : Settings) :=
    check_ticks ⟨current, .testing .firewallWhitelist, calls, latest⟩ .firewallWhitelist rfl
  have decryption (current : Settings) :=
    check_ticks ⟨current, .testing .decryptionList, calls, latest⟩ .decryptionList rfl
  have afterMalware : Ticks ⟨settings, .testing .malwareWhitelist, calls, latest⟩
      ⟨settings.loadMalwareWhitelist, .testing .blocklist, calls, latest⟩ := by
    rcases waiting : settings.malwareNewWl with _ | wl <;>
      simpa [Kind.slot, Settings.loadMalwareWhitelist, waiting, skipped, installed, Kind.setSlot,
        Kind.setActive] using malware
  have afterFirewall (current : Settings) : Ticks ⟨current, .testing .blocklist, calls, latest⟩
      ⟨current.loadFirewallLists, .testing .decryptionList, calls, latest⟩ := by
    have first := blocklist current
    have second := whitelist current
    rcases blocked : current.firewallNewBl with _ | bl
    · rcases allowed : current.firewallNewWl with _ | wl <;>
        simp only [Kind.slot, blocked, allowed, skipped, installed, Kind.setSlot,
          Kind.setActive] at first second <;>
        simpa [Settings.loadFirewallLists, blocked, allowed] using first.trans second
    · simpa [Kind.slot, Settings.loadFirewallLists, blocked, installed, Kind.setSlot,
        Kind.setActive] using first
  have afterDecryption (current : Settings) :
      Ticks ⟨current, .testing .decryptionList, calls, latest⟩
        ⟨current.loadDecryptionList, .idle, calls, latest⟩ := by
    rcases waiting : current.tlsNewList with _ | list <;>
      simpa [Kind.slot, Settings.loadDecryptionList, waiting, skipped, installed, Kind.setSlot,
        Kind.setActive] using decryption current
  have begun := (Ticks.tick ⟨settings, .idle, calls, latest⟩).trans afterMalware
  exact (begun.trans (afterFirewall _)).trans (afterDecryption _)

/-- The steps of the capture thread, taken in a row, are a pass of `pd_housekeeping`. -/
theorem housekeeping_ticks (pass : Pass) (active : List Slot) (pd : Pd) (state : State)
    (idle : state.position = .idle) (same : state.settings = pd.settings) :
    Ticks state { state with settings := (pdHousekeeping pass active pd).settings } := by
  rw [Pcapdroid.pdHousekeeping_settings, ← same]
  exact pass_ticks state idle

/-- How many steps are left until the capture thread has finished its pass. -/
def remaining : Position → Nat
  | .idle => 0
  | .testing kind => 3 * rank kind
  | .installing kind => 3 * rank kind - 1
  | .clearing kind => 3 * rank kind - 2
where
  rank : Kind → Nat
    | .malwareWhitelist => 4
    | .blocklist => 3
    | .firewallWhitelist => 2
    | .decryptionList => 1

theorem tick_remaining (state : State) (busy : state.position ≠ .idle) :
    remaining (tick state).position < remaining state.position := by
  rcases place : state.position with _ | kind | kind | kind <;> simp only [tick, place]
  · exact absurd place busy
  · split <;> cases kind <;> simp [remaining, remaining.rank, skipped]
  · cases kind <;> simp [remaining, remaining.rank]
  · cases kind <;> simp [remaining, remaining.rank, installed]

theorem idle_ticks (state : State) : ∃ after, Ticks state after ∧ after.position = .idle ∧
    after.calls = state.calls := by
  induction left : remaining state.position using Nat.strong_induction_on generalizing state with
  | h steps ih =>
      by_cases idle : state.position = .idle
      · exact ⟨state, Ticks.refl state, idle, rfl⟩
      · obtain ⟨after, reached, rest, calls⟩ :=
          ih _ (left ▸ tick_remaining state idle) (tick state) rfl
        exact ⟨after, (Ticks.tick state).trans reached, rest, calls.trans (tick_calls state)⟩

theorem drained_twice (settings : Settings) (kind : Kind) :
    kind.slot (settings.loadMalwareWhitelist.loadFirewallLists.loadDecryptionList.loadMalwareWhitelist.loadFirewallLists.loadDecryptionList) = none := by
  obtain ⟨firewall, malwareWhitelist, tlsList, vpnCapture, malwareEnabled, tlsEnabled, malwareNewWl,
    firewallNewBl, firewallNewWl, tlsNewList⟩ := settings
  cases kind <;> cases malwareNewWl <;> cases firewallNewBl <;> cases firewallNewWl <;>
    cases tlsNewList <;> rfl

theorem drains (state : State) (noCalls : NoCalls state) :
    ∃ after, Ticks state after ∧ Quiet after := by
  obtain ⟨rested, first, idle, calls⟩ := idle_ticks state
  have second := first.trans (pass_ticks rested idle)
  have third := second.trans (pass_ticks _ idle)
  refine ⟨_, third, ⟨fun thread => ?_, idle, drained_twice rested.settings⟩⟩
  rw [show (_ : State).calls = rested.calls from rfl, calls]
  exact noCalls thread

end Drain

/-- Once the slots are drained, a list that was delivered is the active one. -/
theorem Delivered.current (state : State) (delivered : Delivered state) (quiet : Quiet state) :
    Current state := by
  intro kind thread submission latest
  obtain ⟨bl, loads, reached⟩ := delivered.lists kind thread submission latest
  refine ⟨bl, loads, ?_⟩
  cases reached with
  | loading entered =>
      rw [quiet.calls thread] at entered
      cases entered
  | waiting stored kept =>
      rw [quiet.slots kind] at stored
      cases stored
  | installed active last => exact active

theorem ticks_delivered (before after : State) (reached : Ticks before after)
    (delivered : Delivered before) : Delivered after := by
  obtain ⟨count, rfl⟩ := reached
  apply run_invariant step Accepted Delivered
    (fun state event holds accepted => step_delivered state event holds accepted) before _ ?_
    delivered
  apply along_of_forall
  intro event member current
  obtain rfl := List.eq_of_mem_replicate member
  trivial

/-- No reload is lost as long as no call is refused and no store races: with the slots drained
    the active lists are the last ones submitted, and housekeeping drains the slots. -/
theorem reloads_delivered (settings : Settings) (events : List Event)
    (accepted : Along step Accepted (start settings) events) :
    let state := run step (start settings) events
    (Quiet state → Current state) ∧
      (NoCalls state → ∃ after, Ticks state after ∧ Quiet after ∧ Current after) := by
  intro state
  have delivered : Delivered state := run_invariant step Accepted Delivered
    (fun current event holds allowed => step_delivered current event holds allowed) _ events
    accepted (start_delivered settings)
  refine ⟨delivered.current, fun noCalls => ?_⟩
  obtain ⟨after, reached, quiet⟩ := drains state noCalls
  exact ⟨after, reached, quiet, (ticks_delivered state after reached delivered).current after quiet⟩

section Runs

def vpnSettings : Settings := ⟨{}, none, none, true, false, false, none, none, none, none⟩

def hostRule (host : String) : Submission := ⟨{ hosts := [host] }, true, .plenty, .plenty, .plenty⟩

def edit (host : String) : List Event := [.enter 0 .blocklist (hostRule host), .advance 0]

def onePass : List Event := List.replicate 6 .tick

theorem hostRule_loads : (hostRule "ads.example").load Kind.blocklist.failure =
    .ok { domains := ["ads.example"] } := by
  decide +kernel

theorem edits_quiet (events : List Event)
    (single : ∀ event ∈ events, event.thread? = none ∨ event.thread? = some 0)
    (returned : (run step (start vpnSettings) events).calls 0 = none)
    (idle : (run step (start vpnSettings) events).position = .idle)
    (drained : ∀ kind : Kind, kind.slot (run step (start vpnSettings) events).settings = none) :
    Quiet (run step (start vpnSettings) events) := by
  refine ⟨fun thread => ?_, idle, drained⟩
  by_cases main : thread = 0
  · rw [main, returned]
  · apply run_calls
    intro event member named
    rcases single event member with capture | app
    · rw [capture] at named
      cases named
    · rw [app] at named
      exact main (Option.some.inj named).symm

theorem edit_delivered :
    let state := run step (start vpnSettings) (edit "ads.example" ++ onePass)
    Current state ∧ state.settings.firewall.bl = some { domains := ["ads.example"] } := by
  have accepted : Along step Accepted (start vpnSettings) (edit "ads.example" ++ onePass) := by
    refine ⟨fun _ => ⟨rfl, _, hostRule_loads⟩, fun kind submission entered => ?_,
      trivial, trivial, trivial, trivial, trivial, trivial, trivial⟩
    obtain ⟨rfl, rfl⟩ : Kind.blocklist = kind ∧ hostRule "ads.example" = submission := by
      simpa [step, start, Kind.enter, reloadBlocklist, enterReload, vpnSettings] using entered
    simp [step, start, Kind.enter, reloadBlocklist, enterReload, vpnSettings]
  have quiet : Quiet (run step (start vpnSettings) (edit "ads.example" ++ onePass)) :=
    edits_quiet _ (by decide) (by decide +kernel) (by decide +kernel) (by
      intro kind
      cases kind <;> decide +kernel)
  exact ⟨(reloads_delivered vpnSettings _ accepted).1 quiet, by decide +kernel⟩

/-- Two edits of the blocklist before a pass: the second is refused and never gets active. -/
theorem twoEdits_loseReload :
    ¬ ∀ (settings : Settings) (events : List Event),
      Quiet (run step (start settings) events) → Current (run step (start settings) events) := by
  intro current
  have quiet : Quiet (run step (start vpnSettings)
      (edit "ads.example" ++ edit "track.example" ++ onePass)) :=
    edits_quiet _ (by decide) (by decide +kernel) (by decide +kernel) (by
      intro kind
      cases kind <;> decide +kernel)
  obtain ⟨bl, loads, active⟩ := current vpnSettings _ quiet .blocklist 0 (hostRule "track.example") rfl
  have installed : bl = { domains := ["ads.example"] } := by
    apply Option.some.inj
    rw [← active]
    decide +kernel
  have wanted : bl = { domains := ["track.example"] } := by
    apply Except.ok.inj
    rw [← loads]
    decide +kernel
  rw [installed] at wanted
  exact absurd wanted (by decide)

end Runs

end Ptnet.ListReload
