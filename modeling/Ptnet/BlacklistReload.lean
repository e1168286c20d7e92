import Ptnet.BlacklistFile
import Ptnet.Housekeeping
import Ptnet.Schedules

/-!
The reload of the malware blacklists: `reloadBlacklists`, the worker `load_new_blacklists`, the
branch of `pd_housekeeping` that starts and joins it, and the load in `pd_run`. The threads
interleave at each access to the flags and pointers they share. Only the capture thread uses the
installed list, so that `use_new_blacklists` is one step of it.
-/

namespace Ptnet.BlacklistReload

open NativeBlacklist (Blacklist Environment)
open BlacklistFile Machine

structure ListObject where
  contents : Blacklist := {}
  destroyed : Bool := false

structure Shared where
  enabled : Bool
  infos : List BlInfo
  reloadBlacklistsNow : Bool
  reloadInProgress : Bool := false
  reloadDone : Bool := false
  bl : Option Nat := none
  newBl : Option Nat := none
  statusArr : Option BlStatusArr := none
  lists : List ListObject := []
  notified : List BlStatusArr := []

/-- The places in `load_new_blacklists`, with its local variables; at the last store it knows
the list it has made, if any. -/
inductive Load where
  | allocating
  | initializing
  | loading (bl : Nat) (statusArr : BlStatusArr) (rest : List BlInfo)
  | storingList (bl : Nat) (statusArr : BlStatusArr)
  | storingStatus (bl : Nat) (statusArr : BlStatusArr)
  | storingDone (made : Option Nat)
  | returned

/-- The places of the capture thread in `pd_run` before the capture, and in the branch of
`pd_housekeeping`. -/
inductive Place where
  | startTesting
  | startClearing
  | startLoading (load : Load)
  | startInstalling
  | outside
  | entering
  | testingDone
  | joining
  | installing
  | testingRequest
  | clearing
  | resetting
  | creating

/-- The workers that were created and not joined, the last one first. -/
structure State where
  shared : Shared
  capture : Place := .startTesting
  workers : List Load := []

/-- What a step of a load meets. -/
structure Answer where
  calloc : Bool := true
  init : Bool := true
  file : FileAnswer
  tests : Environment

inductive Event where
  /-- `reloadBlacklists` -/
  | request
  /-- A pass of `pd_housekeeping`, with whether an earlier branch of it is taken. -/
  | housekeeping (otherDuty : Bool)
  | captureRuns (answer : Answer)
  | workerRuns (index : Nat) (answer : Answer)

section Code

def Shared.contentsOf (shared : Shared) (bl : Nat) : Option Blacklist :=
  (shared.lists[bl]?).map ListObject.contents

def Shared.active (shared : Shared) : Option Blacklist := shared.bl.bind shared.contentsOf

def Shared.blacklistInit (shared : Shared) : Shared :=
  { shared with lists := shared.lists ++ [{}] }

def Shared.blacklistDestroy (shared : Shared) (bl : Nat) : Shared :=
  { shared with lists := shared.lists.modify bl fun object => { object with destroyed := true } }

def Shared.setContents (shared : Shared) (bl : Nat) (contents : Blacklist) : Shared :=
  { shared with lists := shared.lists.modify bl fun object => { object with contents := contents } }

def useNewBlacklists (shared : Shared) : Shared :=
  match shared.newBl with
  | none => shared
  | some newBl =>
      let freed := match shared.bl with
        | some bl => shared.blacklistDestroy bl
        | none => shared
      { freed with
        bl := some newBl
        newBl := none
        statusArr := none
        notified := freed.notified ++ [freed.statusArr.getD {}] }

/-- A step of `load_new_blacklists`. -/
def loadStep (answer : Answer) (shared : Shared) : Load → Shared × Load
  | .allocating => (shared, if answer.calloc then .initializing else .storingDone none)
  | .initializing =>
      if answer.init then
        (shared.blacklistInit, .loading shared.lists.length {} shared.infos)
      else (shared, .storingDone none)
  | .loading bl statusArr [] =>
      let contents := (shared.contentsOf bl).getD {}
      (shared.setContents bl (addTestEntries answer.tests contents), .storingList bl statusArr)
  | .loading bl statusArr (blinfo :: rest) =>
      let contents := (shared.contentsOf bl).getD {}
      let (loaded, status) := loadBlacklist blinfo answer.file contents statusArr
      (shared.setContents bl loaded, .loading bl status rest)
  | .storingList bl statusArr => ({ shared with newBl := some bl }, .storingStatus bl statusArr)
  | .storingStatus bl statusArr =>
      ({ shared with statusArr := some statusArr }, .storingDone (some bl))
  | .storingDone _ => ({ shared with reloadDone := true }, .returned)
  | .returned => (shared, .returned)

def Load.isReturned : Load → Bool
  | .returned => true
  | _ => false

def captureStep (answer : Answer) (state : State) : State :=
  let shared := state.shared
  match state.capture with
  | .startTesting =>
      if shared.enabled && shared.reloadBlacklistsNow then { state with capture := .startClearing }
      else { state with capture := .outside }
  | .startClearing =>
      { state with
        shared := { shared with reloadBlacklistsNow := false }
        capture := .startLoading .allocating }
  | .startLoading load =>
      if load.isReturned then { state with capture := .startInstalling }
      else
        let (stepped, next) := loadStep answer shared load
        { state with shared := stepped, capture := .startLoading next }
  | .startInstalling => { state with shared := useNewBlacklists shared, capture := .outside }
  | .outside => state
  | .entering =>
      { state with capture := if shared.reloadInProgress then .testingDone else .testingRequest }
  | .testingDone => { state with capture := if shared.reloadDone then .joining else .outside }
  | .joining =>
      match state.workers with
      | [] => state
      | worker :: others =>
          -- `pthread_join` waits for the worker.
          if worker.isReturned then
            { state with
              shared := { shared with reloadInProgress := false }
              capture := .installing
              workers := others }
          else state
  | .installing => { state with shared := useNewBlacklists shared, capture := .outside }
  | .testingRequest =>
      { state with capture := if shared.reloadBlacklistsNow then .clearing else .outside }
  | .clearing =>
      { state with
        shared := { shared with reloadBlacklistsNow := false }
        capture := .resetting }
  | .resetting =>
      { state with
        shared := { shared with reloadDone := false, newBl := none, statusArr := none }
        capture := .creating }
  | .creating =>
      { state with
        shared := { shared with reloadInProgress := true }
        capture := .outside
        workers := .allocating :: state.workers }

/-- The pass reaches the branch of the malware detection. -/
def Enters (state : State) : Event → Prop
  | .housekeeping otherDuty =>
      state.shared.enabled = true ∧ otherDuty = false ∧ state.capture = .outside
  | _ => False

def housekeepingStep (otherDuty : Bool) (state : State) : State :=
  match state.capture with
  | .outside =>
      if state.shared.enabled && !otherDuty then { state with capture := .entering } else state
  | _ => state

def workerStep (index : Nat) (answer : Answer) (state : State) : State :=
  match state.workers[index]? with
  | none => state
  | some load =>
      let (stepped, next) := loadStep answer state.shared load
      { state with shared := stepped, workers := state.workers.set index next }

def step (state : State) : Event → State
  | .request => { state with shared := { state.shared with reloadBlacklistsNow := true } }
  | .housekeeping otherDuty => housekeepingStep otherDuty state
  | .captureRuns answer => captureStep answer state
  | .workerRuns index answer => workerStep index answer state

/-- The step creates the worker, or begins the load of `pd_run`. -/
def StartsLoad (state : State) : Event → Prop
  | .captureRuns _ => state.capture = .creating ∨ state.capture = .startClearing
  | _ => False

def Load.result (shared : Shared) : Load → List (Option Blacklist)
  | .storingDone made => [made.bind shared.contentsOf]
  | _ => []

def outcome (state : State) : Event → List (Option Blacklist)
  | .captureRuns _ =>
      match state.capture with
      | .startLoading load => load.result state.shared
      | _ => []
  | .workerRuns index _ =>
      match state.workers[index]? with
      | some load => load.result state.shared
      | none => []
  | _ => []

def start (infos : List BlInfo) (enabled requested : Bool) : State where
  shared := { enabled := enabled, infos := infos, reloadBlacklistsNow := requested }

end Code

section Lists

/-- What the loop of `load_new_blacklists` makes of a list. -/
def loadAll (files : List (BlInfo × FileAnswer)) (bl : Blacklist) : Blacklist :=
  files.foldl (fun bl (blinfo, answer) =>
    (blacklistLoadFile answer.env bl answer.text blinfo.type).1) bl

/-- The list has been through all files, and has the entries for tests. -/
def Complete (infos : List BlInfo) (bl : Blacklist) : Prop :=
  ∃ files tests, files.map Prod.fst = infos ∧ bl = addTestEntries tests (loadAll files {})

def Partial (infos rest : List BlInfo) (bl : Blacklist) : Prop :=
  ∃ files, files.map Prod.fst ++ rest = infos ∧ bl = loadAll files {}

theorem loadBlacklist_contents (blinfo : BlInfo) (answer : FileAnswer) (bl : Blacklist)
    (statusArr : BlStatusArr) : (loadBlacklist blinfo answer bl statusArr).1 =
      (blacklistLoadFile answer.env bl answer.text blinfo.type).1 := by
  unfold loadBlacklist
  split <;> simp_all

theorem Partial.load (infos rest : List BlInfo) (blinfo : BlInfo) (bl : Blacklist)
    (holds : Partial infos (blinfo :: rest) bl) (answer : FileAnswer) (statusArr : BlStatusArr) :
    Partial infos rest (loadBlacklist blinfo answer bl statusArr).1 := by
  obtain ⟨files, all, rfl⟩ := holds
  refine ⟨files ++ [(blinfo, answer)], ?_, ?_⟩
  · rw [← all]
    simp
  · rw [loadBlacklist_contents, loadAll, loadAll, List.foldl_append]
    rfl

theorem Partial.complete (infos : List BlInfo) (bl : Blacklist) (holds : Partial infos [] bl)
    (tests : Environment) : Complete infos (addTestEntries tests bl) := by
  obtain ⟨files, all, rfl⟩ := holds
  exact ⟨files, tests, by simpa using all, rfl⟩

/-- A list in memory that is not destroyed, with what is true of its contents. -/
def Shared.Live (shared : Shared) (bl : Nat) (property : Blacklist → Prop) : Prop :=
  ∃ object, shared.lists[bl]? = some object ∧ object.destroyed = false ∧
    property object.contents

theorem Shared.Live.mono (shared : Shared) (bl : Nat) (property other : Blacklist → Prop)
    (live : shared.Live bl property) (weaker : ∀ contents, property contents → other contents) :
    shared.Live bl other := by
  obtain ⟨object, found, kept, holds⟩ := live
  exact ⟨object, found, kept, weaker _ holds⟩

theorem live_init (shared : Shared) : shared.blacklistInit.Live shared.lists.length (· = {}) :=
  ⟨{}, by simp [Shared.blacklistInit], rfl, rfl⟩

theorem Shared.Live.init (shared : Shared) (bl : Nat) (property : Blacklist → Prop)
    (live : shared.Live bl property) : shared.blacklistInit.Live bl property := by
  obtain ⟨object, found, kept⟩ := live
  refine ⟨object, ?_, kept⟩
  obtain ⟨inside, _⟩ := List.getElem?_eq_some_iff.mp found
  rw [Shared.blacklistInit, List.getElem?_append_left inside]
  exact found

theorem Shared.Live.lt (shared : Shared) (bl : Nat) (property : Blacklist → Prop)
    (live : shared.Live bl property) : bl < shared.lists.length := by
  obtain ⟨object, found, _⟩ := live
  exact (List.getElem?_eq_some_iff.mp found).1

theorem Shared.Live.contents (shared : Shared) (bl : Nat) (property : Blacklist → Prop)
    (live : shared.Live bl property) :
    ∃ contents, shared.contentsOf bl = some contents ∧ property contents := by
  obtain ⟨object, found, _, holds⟩ := live
  exact ⟨object.contents, by simp [Shared.contentsOf, found], holds⟩

theorem Shared.Live.set (shared : Shared) (bl : Nat) (property other : Blacklist → Prop)
    (live : shared.Live bl property) (contents : Blacklist) (holds : other contents) :
    (shared.setContents bl contents).Live bl other := by
  obtain ⟨object, found, kept, _⟩ := live
  refine ⟨{ object with contents := contents }, ?_, kept, holds⟩
  simp [Shared.setContents, found]

theorem Shared.Live.set_other (shared : Shared) (bl changed : Nat) (property : Blacklist → Prop)
    (live : shared.Live bl property) (distinct : changed ≠ bl) (contents : Blacklist) :
    (shared.setContents changed contents).Live bl property := by
  obtain ⟨object, found, kept⟩ := live
  refine ⟨object, ?_, kept⟩
  simp [Shared.setContents, distinct, found]

theorem Shared.Live.destroy_other (shared : Shared) (bl freed : Nat) (property : Blacklist → Prop)
    (live : shared.Live bl property) (distinct : freed ≠ bl) :
    (shared.blacklistDestroy freed).Live bl property := by
  obtain ⟨object, found, kept⟩ := live
  refine ⟨object, ?_, kept⟩
  simp [Shared.blacklistDestroy, distinct, found]

theorem contentsOf_init (shared : Shared) (bl : Nat) (inside : bl < shared.lists.length) :
    shared.blacklistInit.contentsOf bl = shared.contentsOf bl := by
  rw [Shared.contentsOf, Shared.blacklistInit, List.getElem?_append_left inside]
  rfl

theorem contentsOf_set_other (shared : Shared) (bl changed : Nat) (distinct : changed ≠ bl)
    (contents : Blacklist) :
    (shared.setContents changed contents).contentsOf bl = shared.contentsOf bl := by
  simp [Shared.contentsOf, Shared.setContents, distinct]

theorem contentsOf_destroy (shared : Shared) (bl freed : Nat) :
    (shared.blacklistDestroy freed).contentsOf bl = shared.contentsOf bl := by
  rw [Shared.contentsOf, Shared.contentsOf, Shared.blacklistDestroy, List.getElem?_modify]
  cases shared.lists[bl]? with
  | none => rfl
  | some object =>
      simp only [Option.map_eq_map, Option.map_some]
      split <;> rfl

end Lists

section Loads

def Shared.Fresh (shared : Shared) (bl : Nat) (property : Blacklist → Prop) : Prop :=
  shared.Live bl property ∧ shared.bl ≠ some bl

def Shared.Installed (shared : Shared) : Prop :=
  ∀ bl, shared.bl = some bl → shared.Live bl (Complete shared.infos)

def Shared.Made (shared : Shared) (made : Option Nat) : Prop :=
  ∀ bl, made = some bl → shared.Fresh bl (Complete shared.infos)

def Shared.Unpublished (shared : Shared) : Prop :=
  shared.newBl = none ∧ shared.reloadDone = false

def Load.Holds (shared : Shared) : Load → Prop
  | .allocating => shared.Unpublished
  | .initializing => shared.Unpublished
  | .loading bl _ rest => shared.Unpublished ∧ shared.Fresh bl (Partial shared.infos rest)
  | .storingList bl _ => shared.Unpublished ∧ shared.Fresh bl (Complete shared.infos)
  | .storingStatus bl _ => shared.newBl = some bl ∧ shared.reloadDone = false ∧
      shared.Fresh bl (Complete shared.infos)
  | .storingDone made => shared.newBl = made ∧ shared.reloadDone = false ∧ shared.Made made
  | .returned => shared.reloadDone = true ∧ shared.Made shared.newBl

structure Untouched (before after : Shared) : Prop where
  enabled : after.enabled = before.enabled
  infos : after.infos = before.infos
  now : after.reloadBlacklistsNow = before.reloadBlacklistsNow
  inProgress : after.reloadInProgress = before.reloadInProgress
  bl : after.bl = before.bl
  active : after.active = before.active
  installed : after.Installed

variable (answer : Answer) (shared : Shared) (installed : shared.Installed)

include installed

theorem untouched_init : Untouched shared shared.blacklistInit where
  enabled := rfl
  infos := rfl
  now := rfl
  inProgress := rfl
  bl := rfl
  active := by
    rw [Shared.active, Shared.active]
    cases current : shared.bl with
    | none =>
        rw [Shared.blacklistInit, current]
        rfl
    | some bl =>
        rw [show shared.blacklistInit.bl = some bl from current]
        exact contentsOf_init shared bl (installed bl current).lt
  installed := fun bl current => (installed bl current).init

theorem untouched_set (changed : Nat) (distinct : shared.bl ≠ some changed)
    (contents : Blacklist) : Untouched shared (shared.setContents changed contents) where
  enabled := rfl
  infos := rfl
  now := rfl
  inProgress := rfl
  bl := rfl
  active := by
    rw [Shared.active, Shared.active]
    cases current : shared.bl with
    | none =>
        rw [Shared.setContents, current]
        rfl
    | some bl =>
        rw [show (shared.setContents changed contents).bl = some bl from current]
        exact contentsOf_set_other shared bl changed (by rintro rfl; exact distinct current) _
  installed := fun bl current =>
    (installed bl current).set_other _ _ changed _ (by rintro rfl; exact distinct current) _

theorem loadStep_holds (load : Load) (holds : load.Holds shared) :
    Untouched shared (loadStep answer shared load).1 ∧
      (loadStep answer shared load).2.Holds (loadStep answer shared load).1 := by
  have same : Untouched shared shared := ⟨rfl, rfl, rfl, rfl, rfl, rfl, installed⟩
  cases load with
  | allocating =>
      refine ⟨same, ?_⟩
      cases calloc : answer.calloc with
      | true =>
          simp only [loadStep, calloc, if_true]
          exact holds
      | false =>
          simp only [loadStep, calloc, Bool.false_eq_true, if_false]
          exact ⟨holds.1, holds.2, fun bl made => by simp at made⟩
  -- The new list is not published yet, so that the installed one is left alone.
  | initializing =>
      cases init : answer.init with
      | true =>
          simp only [loadStep, init, if_true]
          refine ⟨untouched_init shared installed, holds, ?_, ?_⟩
          · exact (live_init shared).mono _ _ _ _ fun contents empty => ⟨[], rfl, empty⟩
          · intro current
            exact absurd (installed _ current).lt (lt_irrefl _)
      | false =>
          simp only [loadStep, init, Bool.false_eq_true, if_false]
          exact ⟨same, holds.1, holds.2, fun bl made => by simp at made⟩
  | loading bl statusArr rest =>
      obtain ⟨unpublished, live, distinct⟩ := holds
      obtain ⟨contents, found, part⟩ := live.contents
      cases rest with
      | nil =>
          simp only [loadStep, found, Option.getD_some]
          refine ⟨untouched_set shared installed bl distinct _, unpublished, ?_, distinct⟩
          exact live.set _ _ _ _ _ (part.complete _ _ answer.tests)
      | cons blinfo rest =>
          simp only [loadStep, found, Option.getD_some]
          refine ⟨untouched_set shared installed bl distinct _, unpublished, ?_, distinct⟩
          exact live.set _ _ _ _ _ (part.load _ _ _ _ answer.file statusArr)
  | storingList bl statusArr =>
      refine ⟨⟨rfl, rfl, rfl, rfl, rfl, rfl, installed⟩, rfl, holds.1.2, holds.2⟩
  | storingStatus bl statusArr =>
      refine ⟨⟨rfl, rfl, rfl, rfl, rfl, rfl, installed⟩, holds.1, holds.2.1, ?_⟩
      intro made same
      cases same
      exact holds.2.2
  | storingDone made =>
      refine ⟨⟨rfl, rfl, rfl, rfl, rfl, rfl, installed⟩, rfl, ?_⟩
      intro bl same
      exact holds.2.2 bl (holds.1.symm.trans same)
  | returned => exact ⟨same, holds⟩

end Loads

section Installation

variable (shared : Shared) (installed : shared.Installed) (made : shared.Made shared.newBl)

include installed made

theorem useNewBlacklists_installed : (useNewBlacklists shared).Installed := by
  intro bl current
  cases new : shared.newBl with
  | none =>
      rw [useNewBlacklists, new] at current ⊢
      exact installed bl current
  | some newBl =>
      obtain ⟨live, distinct⟩ := made newBl new
      rw [useNewBlacklists, new] at current ⊢
      cases current
      cases old : shared.bl with
      | none => exact live
      | some freed => exact live.destroy_other _ _ freed _ (by rintro rfl; exact distinct old)

omit installed made in
theorem useNewBlacklists_inProgress :
    (useNewBlacklists shared).reloadInProgress = shared.reloadInProgress := by
  cases new : shared.newBl with
  | none => simp [useNewBlacklists, new]
  | some newBl => cases old : shared.bl <;> simp [useNewBlacklists, new, old, Shared.blacklistDestroy]

omit installed in
/-- A load that has made no list leaves the active one. -/
theorem useNewBlacklists_active : (useNewBlacklists shared).active =
    (shared.newBl.bind shared.contentsOf).or shared.active := by
  cases new : shared.newBl with
  | none => simp [useNewBlacklists, new]
  | some newBl =>
      obtain ⟨contents, found, _⟩ := (made newBl new).1.contents
      have after : (useNewBlacklists shared).active = shared.contentsOf newBl := by
        rw [useNewBlacklists, new, Shared.active]
        cases shared.bl with
        | none => rfl
        | some freed => exact contentsOf_destroy shared newBl freed
      rw [after, Option.bind_some, found]
      rfl

end Installation

section Invariant

def Place.Holds (shared : Shared) : Place → Prop
  | .startTesting => shared.reloadInProgress = false ∧ shared.Unpublished
  | .startClearing => shared.reloadInProgress = false ∧ shared.Unpublished
  | .startLoading load => shared.reloadInProgress = false ∧ load.Holds shared
  | .startInstalling => shared.reloadInProgress = false ∧ shared.Made shared.newBl
  | .outside => True
  | .entering => True
  | .testingDone => shared.reloadInProgress = true
  | .joining => shared.reloadInProgress = true ∧ shared.reloadDone = true
  | .installing => shared.reloadInProgress = false ∧ shared.Made shared.newBl
  | .testingRequest => shared.reloadInProgress = false
  | .clearing => shared.reloadInProgress = false
  | .resetting => shared.reloadInProgress = false
  | .creating => shared.reloadInProgress = false ∧ shared.Unpublished

structure Coherent (state : State) : Prop where
  workers : state.workers.length = if state.shared.reloadInProgress then 1 else 0
  running : ∀ load ∈ state.workers, load.Holds state.shared
  capture : state.capture.Holds state.shared
  installed : state.shared.Installed

variable (state : State) (coherent : Coherent state)

include coherent

theorem Coherent.idle (quiet : state.shared.reloadInProgress = false) : state.workers = [] := by
  have count := coherent.workers
  rw [quiet] at count
  exact List.length_eq_zero_iff.mp count

theorem Coherent.busy (busy : state.shared.reloadInProgress = true) :
    ∃ load, state.workers = [load] := by
  have count := coherent.workers
  rw [busy] at count
  exact List.length_eq_one_iff.mp count

theorem workerStep_cases (index : Nat) (answer : Answer) :
    (state.workers[index]? = none ∧ workerStep index answer state = state) ∨
      ∃ load, state.workers = [load] ∧ state.workers[index]? = some load ∧
        state.shared.reloadInProgress = true ∧
        workerStep index answer state =
          { state with
            shared := (loadStep answer state.shared load).1
            workers := [(loadStep answer state.shared load).2] } := by
  cases found : state.workers[index]? with
  | none =>
      rw [workerStep, found]
      exact .inl ⟨rfl, rfl⟩
  | some load =>
      have busy : state.shared.reloadInProgress = true := by
        by_contra quiet
        rw [coherent.idle state (by simpa using quiet)] at found
        simp at found
      obtain ⟨only, alone⟩ := coherent.busy state busy
      have place : index = 0 := by
        by_contra elsewhere
        rw [alone, List.getElem?_eq_none (by simp; omega)] at found
        simp at found
      subst place
      obtain rfl : only = load := by simpa [alone] using found
      refine .inr ⟨only, alone, rfl, busy, ?_⟩
      rw [workerStep, found, alone]
      rfl

omit coherent in
theorem installs_coherent (workers : state.workers.length =
      if state.shared.reloadInProgress then 1 else 0) (idle : state.workers = [])
    (installed : state.shared.Installed) (made : state.shared.Made state.shared.newBl) :
    Coherent { state with shared := useNewBlacklists state.shared, capture := .outside } := by
  refine ⟨?_, ?_, trivial, useNewBlacklists_installed _ installed made⟩
  · rw [useNewBlacklists_inProgress]
    exact workers
  · rw [idle]
    exact fun load listed => absurd listed List.not_mem_nil

omit coherent in
theorem returned_of_done (shared : Shared) (load : Load) (holds : load.Holds shared)
    (done : shared.reloadDone = true) : load = .returned := by
  cases load <;> simp_all [Load.Holds, Shared.Unpublished]

theorem workerStep_coherent (index : Nat) (answer : Answer) :
    Coherent (workerStep index answer state) := by
  rcases workerStep_cases state coherent index answer with
    ⟨_, same⟩ | ⟨load, alone, _, busy, stepped⟩
  · rw [same]
    exact coherent
  · have running := coherent.running load (by simp [alone])
    obtain ⟨untouched, holds⟩ := loadStep_holds answer state.shared coherent.installed load running
    have still := untouched.inProgress.trans busy
    rw [stepped]
    refine ⟨?_, ?_, ?_, untouched.installed⟩
    · simp only [still]
      rfl
    · intro other listed
      rw [List.mem_singleton.mp listed]
      exact holds
    · -- While the worker runs, the capture thread is at none of the places where it has none.
      have capture := coherent.capture
      cases at' : state.capture with
      | outside => trivial
      | entering => trivial
      | testingDone => exact still
      | joining =>
          rw [at'] at capture
          cases returned_of_done _ load running capture.2
          exact ⟨still, capture.2⟩
      | _ =>
          rw [at'] at capture
          simp [Place.Holds, busy] at capture

theorem captureStep_coherent (answer : Answer) : Coherent (captureStep answer state) := by
  have idle := coherent.idle state
  obtain ⟨workers, running, capture, installed⟩ := coherent
  cases at' : state.capture with
  | startTesting =>
      rw [at'] at capture
      simp only [captureStep, at']
      split
      · exact ⟨workers, running, capture, installed⟩
      · exact ⟨workers, running, trivial, installed⟩
  -- The load at the start is made by the capture thread itself, with no worker beside it.
  | startClearing =>
      rw [at'] at capture
      simp only [captureStep, at']
      refine ⟨workers, ?_, capture, installed⟩
      rw [idle capture.1]
      exact fun load listed => absurd listed List.not_mem_nil
  | startLoading load =>
      rw [at'] at capture
      simp only [captureStep, at']
      cases ends : load.isReturned with
      | true =>
          have returned : load = .returned := by cases load <;> simp_all [Load.isReturned]
          rw [returned] at capture
          exact ⟨workers, running, ⟨capture.1, capture.2.2⟩, installed⟩
      | false =>
          obtain ⟨untouched, holds⟩ := loadStep_holds answer state.shared installed load capture.2
          have quiet := untouched.inProgress.trans capture.1
          simp only [Bool.false_eq_true, if_false]
          refine ⟨?_, ?_, ⟨quiet, holds⟩, untouched.installed⟩
          · rw [untouched.inProgress]
            exact workers
          · rw [idle capture.1]
            exact fun load listed => absurd listed List.not_mem_nil
  | startInstalling =>
      rw [at'] at capture
      simp only [captureStep, at']
      exact installs_coherent state workers (idle capture.1) installed capture.2
  | outside =>
      simp only [captureStep, at']
      exact ⟨workers, running, capture, installed⟩
  | entering =>
      simp only [captureStep, at']
      cases busy : state.shared.reloadInProgress with
      | true => exact ⟨workers, running, busy, installed⟩
      | false => exact ⟨workers, running, busy, installed⟩
  | testingDone =>
      rw [at'] at capture
      simp only [captureStep, at']
      cases done : state.shared.reloadDone with
      | true => exact ⟨workers, running, ⟨capture, done⟩, installed⟩
      | false => exact ⟨workers, running, trivial, installed⟩
  | joining =>
      rw [at'] at capture
      obtain ⟨worker, alone⟩ : ∃ worker, state.workers = [worker] := by
        rw [capture.1] at workers
        exact List.length_eq_one_iff.mp workers
      have holds := running worker (by simp [alone])
      -- reload_done is set last, so that the join does not wait.
      cases returned_of_done _ worker holds capture.2
      simp only [captureStep, at', alone, Load.isReturned, if_true]
      exact ⟨rfl, fun load listed => absurd listed List.not_mem_nil, ⟨rfl, holds.2⟩, installed⟩
  | installing =>
      rw [at'] at capture
      simp only [captureStep, at']
      exact installs_coherent state workers (idle capture.1) installed capture.2
  | testingRequest =>
      rw [at'] at capture
      simp only [captureStep, at']
      cases state.shared.reloadBlacklistsNow with
      | true => exact ⟨workers, running, capture, installed⟩
      | false => exact ⟨workers, running, trivial, installed⟩
  | clearing =>
      rw [at'] at capture
      simp only [captureStep, at']
      refine ⟨workers, ?_, capture, installed⟩
      rw [idle capture]
      exact fun load listed => absurd listed List.not_mem_nil
  | resetting =>
      rw [at'] at capture
      simp only [captureStep, at']
      refine ⟨workers, ?_, ⟨capture, rfl, rfl⟩, installed⟩
      rw [idle capture]
      exact fun load listed => absurd listed List.not_mem_nil
  -- The one place that starts a worker: the lists are clear and no other load runs.
  | creating =>
      rw [at'] at capture
      simp only [captureStep, at', idle capture.1]
      refine ⟨rfl, ?_, trivial, installed⟩
      intro load listed
      cases List.mem_singleton.mp listed
      exact capture.2

omit coherent in
theorem request_load (shared : Shared) (load : Load) (holds : load.Holds shared) :
    load.Holds { shared with reloadBlacklistsNow := true } := by
  cases load <;> exact holds

omit coherent in
theorem request_place (shared : Shared) (place : Place) (holds : place.Holds shared) :
    place.Holds { shared with reloadBlacklistsNow := true } := by
  cases place with
  | startLoading load => exact ⟨holds.1, request_load shared load holds.2⟩
  | _ => exact holds

theorem step_coherent (event : Event) : Coherent (step state event) := by
  cases event with
  | request =>
      obtain ⟨workers, running, capture, installed⟩ := coherent
      exact ⟨workers, fun load listed => request_load _ load (running load listed),
        request_place _ _ capture, installed⟩
  | housekeeping otherDuty =>
      rw [step, housekeepingStep]
      split
      · split
        · exact ⟨coherent.workers, coherent.running, trivial, coherent.installed⟩
        · exact coherent
      · exact coherent
  | captureRuns answer => exact captureStep_coherent state coherent answer
  | workerRuns index answer => exact workerStep_coherent state coherent index answer

end Invariant

theorem start_coherent (infos : List BlInfo) (enabled requested : Bool) :
    Coherent (start infos enabled requested) where
  workers := rfl
  running := fun load listed => absurd listed List.not_mem_nil
  capture := ⟨rfl, rfl, rfl⟩
  installed := fun bl current => by simp [start] at current

section Outcomes

def lastLoaded (outcomes : List (Option Blacklist)) : Option Blacklist :=
  outcomes.foldl (fun active made => made.or active) none

def Place.loaded : Place → Bool
  | .startLoading load => load.isReturned
  | .startInstalling => true
  | .installing => true
  | _ => false

def published (shared : Shared) : Option Blacklist := shared.newBl.bind shared.contentsOf

theorem loaded_idle (shared : Shared) (place : Place) (holds : place.Holds shared)
    (loaded : place.loaded = true) : shared.reloadInProgress = false := by
  cases place <;> simp_all [Place.loaded, Place.Holds]

def pending (state : State) : List (Option Blacklist) :=
  if state.capture.loaded || state.workers.any Load.isReturned then [published state.shared]
  else []

/-- The active list is what the loads have made, but for one whose result waits. -/
def Explains (state : State) (outcomes : List (Option Blacklist)) : Prop :=
  ∃ used, outcomes = used ++ pending state ∧ state.shared.active = lastLoaded used

theorem loadStep_result (answer : Answer) (shared : Shared) (load : Load)
    (holds : load.Holds shared) :
    (if (loadStep answer shared load).2.isReturned then
        [published (loadStep answer shared load).1] else []) =
      (if load.isReturned then [published shared] else []) ++ load.result shared := by
  cases load with
  | allocating =>
      cases calloc : answer.calloc <;> simp [loadStep, calloc, Load.isReturned, Load.result]
  | initializing =>
      cases init : answer.init <;> simp [loadStep, init, Load.isReturned, Load.result]
  | loading bl statusArr rest => cases rest <;> rfl
  | storingList bl statusArr => rfl
  | storingStatus bl statusArr => rfl
  | storingDone made =>
      rw [Load.result, ← holds.1]
      rfl
  | returned => simp [loadStep, Load.isReturned, Load.result]

variable (state : State) (outcomes : List (Option Blacklist)) (explains : Explains state outcomes)

include explains

theorem Explains.same (after : State) (kept : pending after = pending state)
    (active : after.shared.active = state.shared.active) : Explains after (outcomes ++ []) := by
  obtain ⟨used, all, current⟩ := explains
  exact ⟨used, by rw [List.append_nil, kept, all], active.trans current⟩

theorem Explains.loads (after : State) (more : List (Option Blacklist))
    (waits : pending after = pending state ++ more) (untouched : Untouched state.shared after.shared) :
    Explains after (outcomes ++ more) := by
  obtain ⟨used, all, current⟩ := explains
  exact ⟨used, by rw [waits, all, List.append_assoc], untouched.active.trans current⟩

theorem Explains.installs (idle : state.workers = []) (made : state.shared.Made state.shared.newBl)
    (loaded : state.capture.loaded = true) :
    Explains { state with shared := useNewBlacklists state.shared, capture := .outside }
      (outcomes ++ []) := by
  obtain ⟨used, all, current⟩ := explains
  refine ⟨used ++ [published state.shared], ?_, ?_⟩
  · rw [List.append_nil, all, pending, pending, idle, loaded]
    simp [Place.loaded]
  · rw [useNewBlacklists_active _ made, lastLoaded, List.foldl_append, current]
    rfl

variable (coherent : Coherent state)

include coherent

theorem workerStep_explains (index : Nat) (answer : Answer) :
    Explains (workerStep index answer state)
      (outcomes ++ outcome state (.workerRuns index answer)) := by
  rcases workerStep_cases state coherent index answer with
    ⟨none, same⟩ | ⟨load, alone, found, busy, stepped⟩
  · rw [outcome, none, same]
    exact explains.same state outcomes state rfl rfl
  · have running := coherent.running load (by simp [alone])
    have result := loadStep_result answer state.shared load running
    have quiet : state.capture.loaded = false := by
      by_contra loaded
      have idle := loaded_idle _ _ coherent.capture (by simpa using loaded)
      simp [busy] at idle
    rw [outcome, found, stepped]
    refine explains.loads state outcomes _ _ ?_
      (loadStep_holds answer state.shared coherent.installed load running).1
    simpa [pending, quiet, alone] using result

theorem captureStep_explains (answer : Answer) :
    Explains (captureStep answer state) (outcomes ++ outcome state (.captureRuns answer)) := by
  have idle := coherent.idle state
  obtain ⟨workers, running, capture, installed⟩ := coherent
  cases at' : state.capture with
  | startTesting =>
      simp only [captureStep, at', outcome]
      split <;> exact explains.same state outcomes _ (by simp [pending, at', Place.loaded]) rfl
  | startClearing =>
      rw [at'] at capture
      simp only [captureStep, at', outcome]
      exact explains.same state outcomes _ (by simp [pending, at', idle capture.1, Place.loaded,
        Load.isReturned]) rfl
  | startLoading load =>
      rw [at'] at capture
      have none := idle capture.1
      have result := loadStep_result answer state.shared load capture.2
      simp only [captureStep, at', outcome]
      cases ends : load.isReturned with
      | true =>
          have returned : load = .returned := by cases load <;> simp_all [Load.isReturned]
          subst returned
          exact explains.same state outcomes _ (by simp [pending, at', Place.loaded,
            Load.isReturned]) rfl
      | false =>
          refine explains.loads state outcomes _ _ ?_
            (loadStep_holds answer state.shared installed load capture.2).1
          simpa [pending, at', none, Place.loaded, ends] using result
  -- Only the two installs turn a pending result into the list in use.
  | startInstalling =>
      rw [at'] at capture
      simp only [captureStep, at', outcome]
      exact explains.installs state outcomes (idle capture.1) capture.2 (by rw [at']; rfl)
  | outside =>
      simp only [captureStep, at', outcome]
      exact explains.same state outcomes _ rfl rfl
  | entering =>
      simp only [captureStep, at', outcome]
      refine explains.same state outcomes _ ?_ rfl
      split <;> simp [pending, at', Place.loaded]
  | testingDone =>
      simp only [captureStep, at', outcome]
      refine explains.same state outcomes _ ?_ rfl
      split <;> simp [pending, at', Place.loaded]
  | joining =>
      rw [at'] at capture
      obtain ⟨worker, alone⟩ : ∃ worker, state.workers = [worker] := by
        rw [capture.1] at workers
        exact List.length_eq_one_iff.mp workers
      cases returned_of_done _ worker (running worker (by simp [alone])) capture.2
      simp only [captureStep, at', alone, Load.isReturned, if_true, outcome]
      exact explains.same state outcomes _ (by rw [pending, pending, at', alone]; rfl) rfl
  | installing =>
      rw [at'] at capture
      simp only [captureStep, at', outcome]
      exact explains.installs state outcomes (idle capture.1) capture.2 (by rw [at']; rfl)
  | testingRequest =>
      simp only [captureStep, at', outcome]
      refine explains.same state outcomes _ ?_ rfl
      split <;> simp [pending, at', Place.loaded]
  | clearing =>
      rw [at'] at capture
      simp only [captureStep, at', outcome]
      exact explains.same state outcomes _ (by simp [pending, at', idle capture, Place.loaded]) rfl
  | resetting =>
      rw [at'] at capture
      simp only [captureStep, at', outcome]
      exact explains.same state outcomes _ (by simp [pending, at', idle capture, Place.loaded]) rfl
  | creating =>
      rw [at'] at capture
      simp only [captureStep, at', outcome]
      exact explains.same state outcomes _ (by simp [pending, at', idle capture.1, Place.loaded,
        Load.isReturned]) rfl

theorem step_explains (event : Event) :
    Explains (step state event) (outcomes ++ outcome state event) := by
  cases event with
  | request => exact explains.same state outcomes _ rfl rfl
  | housekeeping otherDuty =>
      rw [step, housekeepingStep]
      cases at' : state.capture with
      | outside =>
          simp only [outcome]
          split
          · exact explains.same state outcomes _ (by simp [pending, at', Place.loaded]) rfl
          · exact explains.same state outcomes _ rfl rfl
      | _ => exact explains.same state outcomes _ rfl rfl
  | captureRuns answer => exact captureStep_explains state outcomes explains coherent answer
  | workerRuns index answer => exact workerStep_explains state outcomes explains coherent index answer

end Outcomes

theorem run_explains (state : State) (outcomes : List (Option Blacklist))
    (coherent : Coherent state) (explains : Explains state outcomes) (events : List Event) :
    Coherent (run step state events) ∧
      Explains (run step state events) (outcomes ++ (trace step outcome state events).flatten) := by
  induction events generalizing state outcomes with
  | nil => exact ⟨coherent, by simpa [trace] using explains⟩
  | cons event rest ih =>
      have later := ih (step state event) _ (step_coherent state coherent event)
        (step_explains state outcomes explains coherent event)
      rwa [List.append_assoc, ← List.flatten_cons] at later

section Progress

def Load.remaining (files : Nat) : Load → Nat
  | .allocating => files + 6
  | .initializing => files + 5
  | .loading _ _ rest => rest.length + 4
  | .storingList _ _ => 3
  | .storingStatus _ _ => 2
  | .storingDone _ => 1
  | .returned => 0

/-- The workers have nothing left to do. -/
def Settled (state : State) : Prop := ∀ load ∈ state.workers, load = .returned

def workersRank (state : State) : Nat :=
  (state.workers.map (Load.remaining state.shared.infos.length)).sum

/-- The steps of the capture thread until a request is answered, when no worker runs. -/
def captureRank (state : State) : Nat :=
  match state.capture with
  | .startTesting => 12
  | .startClearing => 11
  | .startLoading load => load.remaining state.shared.infos.length + 7
  | .startInstalling => 6
  | .outside => if state.shared.reloadInProgress then 10 else 5
  | .entering => if state.shared.reloadInProgress then 9 else 4
  | .testingDone => 8
  | .joining => 7
  | .installing => 6
  | .testingRequest => 3
  | .clearing => 2
  | .resetting => 1
  | .creating => 0

/-- A request was made that no load has answered. -/
def Owed (state : State) : Prop :=
  state.shared.reloadBlacklistsNow = true ∨ state.capture = .startClearing ∨
    state.capture = .clearing ∨ state.capture = .resetting ∨ state.capture = .creating

theorem loadStep_infos (answer : Answer) (shared : Shared) (load : Load) :
    (loadStep answer shared load).1.infos = shared.infos := by
  cases load with
  | initializing => cases init : answer.init <;> simp [loadStep, init, Shared.blacklistInit]
  | loading bl statusArr rest => cases rest <;> rfl
  | _ => rfl

theorem loadStep_now (answer : Answer) (shared : Shared) (load : Load) :
    (loadStep answer shared load).1.reloadBlacklistsNow = shared.reloadBlacklistsNow := by
  cases load with
  | initializing => cases init : answer.init <;> simp [loadStep, init, Shared.blacklistInit]
  | loading bl statusArr rest => cases rest <;> rfl
  | _ => rfl

theorem loadStep_remaining (answer : Answer) (shared : Shared) (load : Load) :
    (loadStep answer shared load).2.remaining shared.infos.length ≤
        load.remaining shared.infos.length ∧
      (load ≠ .returned → (loadStep answer shared load).2.remaining shared.infos.length <
        load.remaining shared.infos.length) := by
  cases load with
  | allocating => cases calloc : answer.calloc <;> simp [loadStep, calloc, Load.remaining]
  | initializing =>
      cases init : answer.init <;> simp [loadStep, init, Load.remaining]
  | loading bl statusArr rest => cases rest <;> simp [loadStep, Load.remaining]
  | _ => simp [loadStep, Load.remaining]

@[simp] theorem useNewBlacklists_now (shared : Shared) :
    (useNewBlacklists shared).reloadBlacklistsNow = shared.reloadBlacklistsNow := by
  cases new : shared.newBl with
  | none => simp [useNewBlacklists, new]
  | some newBl => cases old : shared.bl <;> simp [useNewBlacklists, new, old, Shared.blacklistDestroy]

@[simp] theorem useNewBlacklists_infos (shared : Shared) :
    (useNewBlacklists shared).infos = shared.infos := by
  cases new : shared.newBl with
  | none => simp [useNewBlacklists, new]
  | some newBl => cases old : shared.bl <;> simp [useNewBlacklists, new, old, Shared.blacklistDestroy]

theorem captureStep_infos (answer : Answer) (state : State) :
    (captureStep answer state).shared.infos = state.shared.infos := by
  cases at' : state.capture with
  | startLoading load =>
      simp only [captureStep, at']
      split
      · rfl
      · exact loadStep_infos answer state.shared load
  | joining =>
      simp only [captureStep, at']
      split
      · rfl
      · split <;> rfl
  | startInstalling => simp [captureStep, at']
  | installing => simp [captureStep, at']
  | startTesting =>
      simp only [captureStep, at']
      split <;> rfl
  | _ => simp [captureStep, at']

/-- A step of the capture thread creates a worker, joins one, or leaves them alone. -/
theorem captureStep_workers (answer : Answer) (state : State) (quiet : state.capture ≠ .creating) :
    (captureStep answer state).workers = state.workers ∨
      state.workers = .returned :: (captureStep answer state).workers := by
  cases at' : state.capture with
  | creating => exact absurd at' quiet
  | joining =>
      simp only [captureStep, at']
      cases listed : state.workers with
      | nil => exact .inl listed
      | cons worker others =>
          cases worker with
          | returned => exact .inr rfl
          | _ => exact .inl listed
  | startLoading load =>
      simp only [captureStep, at']
      split <;> exact .inl rfl
  | startTesting =>
      simp only [captureStep, at']
      split <;> exact .inl rfl
  | _ => exact .inl (by simp [captureStep, at'])

variable (state : State) (coherent : Coherent state)

theorem housekeepingStep_kept (otherDuty : Bool) :
    (housekeepingStep otherDuty state).shared = state.shared ∧
      (housekeepingStep otherDuty state).workers = state.workers := by
  unfold housekeepingStep
  split
  · split <;> exact ⟨rfl, rfl⟩
  · exact ⟨rfl, rfl⟩

include coherent

/-- Without a new load, the workers only get on. -/
theorem workersRank_bounded (event : Event) (quiet : ¬ StartsLoad state event) :
    workersRank (step state event) ≤ workersRank state := by
  cases event with
  | request => exact le_rfl
  | housekeeping otherDuty =>
      obtain ⟨shared, workers⟩ := housekeepingStep_kept state otherDuty
      rw [step, workersRank, workersRank, shared, workers]
  | captureRuns answer =>
      have infos := captureStep_infos answer state
      rw [step, workersRank, workersRank, infos]
      rcases captureStep_workers answer state (fun creating => quiet (.inl creating)) with
        same | joined
      · rw [same]
      · rw [joined, List.map_cons, List.sum_cons]
        exact Nat.le_add_left _ _
  | workerRuns index answer =>
      rcases workerStep_cases state coherent index answer with
        ⟨_, same⟩ | ⟨load, alone, _, _, stepped⟩
      · rw [step, same]
      · have bounded := (loadStep_remaining answer state.shared load).1
        rw [step, stepped, workersRank, workersRank, alone]
        simpa [loadStep_infos] using bounded

theorem workersRank_falls (answer : Answer) (busy : ¬ Settled state) :
    workersRank (step state (.workerRuns 0 answer)) < workersRank state := by
  rcases workerStep_cases state coherent 0 answer with ⟨none, _⟩ | ⟨load, alone, _, _, stepped⟩
  · have empty : state.workers = [] := by simpa using none
    refine absurd (fun load listed => ?_) busy
    rw [empty] at listed
    exact absurd listed List.not_mem_nil
  · have unfinished : load ≠ .returned := by
      intro returned
      refine busy fun other listed => ?_
      rw [alone, List.mem_singleton] at listed
      rw [listed, returned]
    have falls := (loadStep_remaining answer state.shared load).2 unfinished
    rw [step, stepped, workersRank, workersRank, alone]
    simpa [loadStep_infos] using falls

theorem settled_step (event : Event) (quiet : ¬ StartsLoad state event) (settled : Settled state) :
    Settled (step state event) := by
  cases event with
  | request => exact settled
  | housekeeping otherDuty =>
      rw [Settled, step, (housekeepingStep_kept state otherDuty).2]
      exact settled
  | captureRuns answer =>
      intro load listed
      rcases captureStep_workers answer state (fun creating => quiet (.inl creating)) with
        same | joined
      · exact settled load (same ▸ listed)
      · exact settled load (joined ▸ List.mem_cons_of_mem _ listed)
  | workerRuns index answer =>
      rcases workerStep_cases state coherent index answer with
        ⟨_, same⟩ | ⟨load, alone, _, _, stepped⟩
      · rw [step, same]
        exact settled
      · cases settled load (by simp [alone])
        rw [step, stepped]
        exact fun other listed => List.mem_singleton.mp listed

/-- A request stays until it is answered, and with no worker that runs, the capture thread gets
    on towards the answer. -/
theorem captureStep_progress (answer : Answer) (quiet : ¬ StartsLoad state (.captureRuns answer))
    (owed : Owed state) :
    Owed (captureStep answer state) ∧
      (Settled state → captureRank (captureStep answer state) ≤ captureRank state) := by
  -- Outside the two clears the request is still the flag: a load that starts is ruled out.
  have requested : state.capture ≠ .clearing → state.capture ≠ .resetting →
      state.shared.reloadBlacklistsNow = true := by
    intro clearing resetting
    rcases owed with now | starting | at' | at' | creating
    · exact now
    · exact absurd (.inr starting) quiet
    · exact absurd at' clearing
    · exact absurd at' resetting
    · exact absurd (.inl creating) quiet
  obtain ⟨workers, running, holds, _⟩ := coherent
  cases at' : state.capture with
  | startTesting =>
      rw [at'] at holds requested
      have now := requested nofun nofun
      simp only [captureStep, captureRank, at']
      split
      · exact ⟨.inl now, fun _ => by simp⟩
      · exact ⟨.inl now, fun _ => by simp [holds.1]⟩
  | startClearing => exact absurd (.inr at') quiet
  | startLoading load =>
      rw [at'] at holds requested
      have now := requested nofun nofun
      simp only [captureStep, captureRank, at']
      cases ends : load.isReturned with
      | true => exact ⟨.inl now, fun _ => by simp⟩
      | false =>
          have bounded := (loadStep_remaining answer state.shared load).1
          simp only [Bool.false_eq_true, if_false, loadStep_infos]
          exact ⟨.inl ((loadStep_now answer state.shared load).trans now),
            fun _ => Nat.add_le_add_right bounded 7⟩
  | startInstalling =>
      rw [at'] at holds requested
      have now := requested nofun nofun
      simp only [captureStep, captureRank, at', useNewBlacklists_inProgress, holds.1]
      exact ⟨.inl ((useNewBlacklists_now state.shared).trans now), fun _ => by simp⟩
  | outside =>
      simp only [captureStep, captureRank, at']
      exact ⟨owed, fun _ => le_rfl⟩
  | entering =>
      rw [at'] at requested
      have now := requested nofun nofun
      simp only [captureStep, captureRank, at']
      cases state.shared.reloadInProgress with
      | true => exact ⟨.inl now, fun _ => by simp⟩
      | false => exact ⟨.inl now, fun _ => by simp⟩
  | testingDone =>
      rw [at'] at holds requested
      have now := requested nofun nofun
      obtain ⟨worker, alone⟩ : ∃ worker, state.workers = [worker] := by
        rw [show state.shared.reloadInProgress = true from holds] at workers
        exact List.length_eq_one_iff.mp workers
      simp only [captureStep, captureRank, at']
      refine ⟨.inl now, fun settled => ?_⟩
      -- The worker has returned, so that it is joined in this pass.
      have returned := settled worker (by simp [alone])
      have done := running worker (by simp [alone])
      rw [returned] at done
      simp [done.1]
  | joining =>
      rw [at'] at holds requested
      have now := requested nofun nofun
      obtain ⟨worker, alone⟩ : ∃ worker, state.workers = [worker] := by
        rw [holds.1] at workers
        exact List.length_eq_one_iff.mp workers
      have done := running worker (by simp [alone])
      cases returned_of_done _ worker done holds.2
      simp only [captureStep, captureRank, at', alone, Load.isReturned, if_true]
      exact ⟨.inl now, fun _ => by simp⟩
  | installing =>
      rw [at'] at holds requested
      have now := requested nofun nofun
      simp only [captureStep, captureRank, at', useNewBlacklists_inProgress, holds.1]
      exact ⟨.inl ((useNewBlacklists_now state.shared).trans now), fun _ => by simp⟩
  | testingRequest =>
      rw [at'] at requested
      have now := requested nofun nofun
      simp only [captureStep, captureRank, at', now, if_true]
      exact ⟨.inl now, fun _ => by simp⟩
  | clearing =>
      simp only [captureStep, captureRank, at']
      exact ⟨.inr (.inr (.inr (.inl rfl))), fun _ => by simp⟩
  | resetting =>
      simp only [captureStep, captureRank, at']
      exact ⟨.inr (.inr (.inr (.inr rfl))), fun _ => by simp⟩
  | creating => exact absurd (.inl at') quiet

/-- Steps of the other threads leave the capture thread where it is. -/
theorem workerStep_progress (index : Nat) (answer : Answer) (owed : Owed state) :
    Owed (workerStep index answer state) ∧
      captureRank (workerStep index answer state) = captureRank state := by
  rcases workerStep_cases state coherent index answer with
    ⟨_, same⟩ | ⟨load, alone, _, _, stepped⟩
  · rw [same]
    exact ⟨owed, rfl⟩
  · have untouched := (loadStep_holds answer state.shared coherent.installed load
      (coherent.running load (by simp [alone]))).1
    rw [stepped]
    constructor
    · rcases owed with now | place
      · exact .inl (untouched.now.trans now)
      · exact .inr place
    · simp only [captureRank, untouched.inProgress, untouched.infos]

omit coherent in
theorem housekeepingStep_progress (otherDuty : Bool) (owed : Owed state) :
    Owed (housekeepingStep otherDuty state) ∧
      captureRank (housekeepingStep otherDuty state) ≤ captureRank state := by
  cases at' : state.capture with
  | outside =>
      have now : state.shared.reloadBlacklistsNow = true := by
        simpa [Owed, at'] using owed
      simp only [housekeepingStep, at', captureRank]
      split
      · exact ⟨.inl now, by simp only []; split <;> simp⟩
      · exact ⟨owed, by rw [at']⟩
  | _ =>
      simp only [housekeepingStep, at']
      exact ⟨owed, le_rfl⟩

theorem step_progress (event : Event) (quiet : ¬ StartsLoad state event) (owed : Owed state) :
    Owed (step state event) ∧
      (Settled state → captureRank (step state event) ≤ captureRank state) := by
  cases event with
  | request => exact ⟨.inl rfl, fun _ => le_rfl⟩
  | housekeeping otherDuty =>
      obtain ⟨still, bounded⟩ := housekeepingStep_progress state otherDuty owed
      exact ⟨still, fun _ => bounded⟩
  | captureRuns answer => exact captureStep_progress state coherent answer quiet owed
  | workerRuns index answer =>
      obtain ⟨still, same⟩ := workerStep_progress state coherent index answer owed
      exact ⟨still, fun _ => same.le⟩

omit coherent in
theorem captureRank_falls (event : Event) (enters : Enters state event) :
    captureRank (step state event) < captureRank state := by
  cases event with
  | housekeeping otherDuty =>
      obtain ⟨enabled, alone, outside⟩ := enters
      simp only [step, housekeepingStep, outside, enabled, alone, Bool.not_false, Bool.and_true,
        if_true, captureRank]
      split <;> simp
  | _ => exact enters.elim

end Progress

section Refinement

open Pcapdroid (Pd Pass periodicTask sendsStats)

/-- The joined worker's list reaches the rest of the capture as `reloadedBl` of a pass. -/
theorem periodicTask_installs (pass : Pass) (pd : Pd) (shared : Shared)
    (made : shared.Made shared.newBl) (enabled : pd.malwareEnabled = true)
    (same : pd.policy.malware.bl = shared.active) (stats : sendsStats pd = false)
    (early : pd.nowMs < pd.nextConnectionsDump) (exported : pass.pcapExport = false) :
    (periodicTask { pass with reloadedBl := published shared } pd).policy.malware.bl =
      (useNewBlacklists shared).active := by
  have late : ¬ pd.nextConnectionsDump ≤ pd.nowMs := Nat.not_le.mpr early
  rw [useNewBlacklists_active shared made, ← published]
  simp only [periodicTask, stats, late, exported, Bool.false_eq_true, if_false]
  cases published shared with
  | none => exact same
  | some bl => simp [enabled]

end Refinement

section Protocol

/-- Housekeeping comes by again and again, and a worker is not kept from running. -/
structure KeepsRunning (first : State) (schedule : Nat → Event) : Prop where
  housekeeping : ∀ time, ∃ later, time ≤ later ∧
    Enters (states step first schedule later) (schedule later)
  workers : ∀ time, ¬ Settled (states step first schedule time) →
    ∃ later, time ≤ later ∧ ∃ answer, schedule later = .workerRuns 0 answer

variable (first : State) (schedule : Nat → Event)

theorem states_coherent (coherent : Coherent first) (time : Nat) :
    Coherent (states step first schedule time) := by
  rw [states_run]
  exact run_invariant_always step Coherent
    (fun state event holds => step_coherent state holds event) first _ coherent

/-- The workers get done, as long as no new one is created. -/
theorem eventually_settled (coherent : Coherent first) (keeps : KeepsRunning first schedule)
    (time : Nat) (quiet : ∀ later, time ≤ later →
      ¬ StartsLoad (states step first schedule later) (schedule later)) :
    ∃ later, time ≤ later ∧ Settled (states step first schedule later) := by
  by_contra never
  have busy : ∀ later, time ≤ later → ¬ Settled (states step first schedule later) :=
    fun later after settled => never ⟨later, after, settled⟩
  apply rank_runs_out (fun now => workersRank (states step first schedule now)) time
  · intro now after
    exact workersRank_bounded _ (states_coherent first schedule coherent now) _ (quiet now after)
  · intro now after
    obtain ⟨later, ordered, answer, runs⟩ := keeps.workers now (busy now after)
    refine ⟨later, ordered, ?_⟩
    have falls := workersRank_falls _ (states_coherent first schedule coherent later) answer
      (busy later (after.trans ordered))
    rwa [← runs] at falls

theorem request_answered (coherent : Coherent first) (keeps : KeepsRunning first schedule)
    (time : Nat) (requested : schedule time = .request) : ∃ later, time < later ∧
      StartsLoad (states step first schedule later) (schedule later) := by
  by_contra never
  have quiet : ∀ later, time + 1 ≤ later →
      ¬ StartsLoad (states step first schedule later) (schedule later) :=
    fun later after starts => never ⟨later, after, starts⟩
  have always := states_coherent first schedule coherent
  have owed : ∀ later, time + 1 ≤ later → Owed (states step first schedule later) := by
    intro later after
    apply states_always step first schedule Owed (time + 1) later after
    · rw [states, requested]
      exact .inl rfl
    · exact fun now past _ owes => (step_progress _ (always now) _ (quiet now past) owes).1
  obtain ⟨settles, after, done⟩ := eventually_settled first schedule coherent keeps (time + 1) quiet
  have settled : ∀ later, settles ≤ later → Settled (states step first schedule later) := by
    intro later past
    apply states_always step first schedule Settled settles later past done
    exact fun now past _ holds => settled_step _ (always now) _ (quiet now (after.trans past)) holds
  apply rank_runs_out (fun now => captureRank (states step first schedule now)) settles
  · intro now past
    exact (step_progress _ (always now) _ (quiet now (after.trans past))
      (owed now (after.trans past))).2 (settled now past)
  · intro now past
    obtain ⟨later, ordered, enters⟩ := keeps.housekeeping now
    exact ⟨later, ordered, captureRank_falls _ _ enters⟩

/-- What is true of the lists and the worker in a state, after the loads that have ended. -/
structure Safe (infos : List BlInfo) (state : State) (outcomes : List (Option Blacklist)) :
    Prop where
  worker : state.workers.length ≤ 1
  installed : ∀ bl, state.shared.bl = some bl → state.shared.Live bl (Complete infos)
  loaded : ∃ used, used <+: outcomes ∧ outcomes.length ≤ used.length + 1 ∧
    state.shared.active = lastLoaded used

theorem step_infos (state : State) (event : Event) :
    (step state event).shared.infos = state.shared.infos := by
  cases event with
  | request => rfl
  | housekeeping otherDuty => rw [step, (housekeepingStep_kept state otherDuty).1]
  | captureRuns answer => exact captureStep_infos answer state
  | workerRuns index answer =>
      rw [step, workerStep]
      split
      · rfl
      · exact loadStep_infos answer state.shared _

theorem run_safe (infos : List BlInfo) (enabled requested : Bool) (events : List Event) :
    Safe infos (run step (start infos enabled requested) events)
      (trace step outcome (start infos enabled requested) events).flatten := by
  obtain ⟨coherent, used, all, active⟩ := run_explains (start infos enabled requested) []
    (start_coherent infos enabled requested) ⟨[], rfl, rfl⟩ events
  have same : (run step (start infos enabled requested) events).shared.infos = infos :=
    run_invariant_always step (fun state => state.shared.infos = infos)
      (fun state event kept => (step_infos state event).trans kept) _ events rfl
  rw [List.nil_append] at all
  refine ⟨?_, ?_, used, ⟨_, all.symm⟩, ?_, active⟩
  · rw [coherent.workers]
    split <;> simp
  · intro bl current
    have live := coherent.installed bl current
    rwa [same] at live
  · rw [all, List.length_append, pending]
    split <;> simp

/-- At most one worker exists, the active list is a whole one in memory and the last that was
    loaded, and a request is followed by a new load. -/
theorem reload_protocol (infos : List BlInfo) (enabled requested : Bool) :
    (∀ events, Safe infos (run step (start infos enabled requested) events)
      (trace step outcome (start infos enabled requested) events).flatten) ∧
    ∀ schedule, KeepsRunning (start infos enabled requested) schedule →
      ∀ time, schedule time = .request → ∃ later, time < later ∧
        StartsLoad (states step (start infos enabled requested) schedule later) (schedule later) :=
  ⟨run_safe infos enabled requested, fun schedule keeps time asked =>
    request_answered _ schedule (start_coherent infos enabled requested) keeps time asked⟩

section Example

def outOfMemory : Answer where
  calloc := false
  file := { text := none, env := { parse := fun _ => none, malloc := fun _ => false } }
  tests := { parse := fun _ => none, malloc := fun _ => false }

/-- A request, the pass that creates the worker, its failure, and the pass that joins it. -/
def firstEvents : List Event :=
  [.captureRuns outOfMemory, .request, .housekeeping false, .captureRuns outOfMemory,
    .captureRuns outOfMemory, .captureRuns outOfMemory, .captureRuns outOfMemory,
    .captureRuns outOfMemory, .workerRuns 0 outOfMemory, .workerRuns 0 outOfMemory,
    .housekeeping false, .captureRuns outOfMemory, .captureRuns outOfMemory,
    .captureRuns outOfMemory, .captureRuns outOfMemory]

def failingReload (time : Nat) : Event :=
  firstEvents.getD time
    (if time % 3 = 0 then .housekeeping false else .captureRuns outOfMemory)

def afterReload : State where
  shared := { enabled := true, infos := [], reloadBlacklistsNow := false, reloadDone := true }
  capture := .outside

theorem failingReload_late (count offset : Nat) : failingReload (15 + 3 * count + offset) =
    if offset % 3 = 0 then .housekeeping false else .captureRuns outOfMemory := by
  have outside : firstEvents.length ≤ 15 + 3 * count + offset :=
    (show 15 ≤ 15 + 3 * count + offset by omega)
  rw [failingReload, List.getD_eq_default _ _ outside,
    show (15 + 3 * count + offset) % 3 = offset % 3 by omega]

/-- The three states of a pass that finds nothing to do. -/
theorem failingReload_cycle (count : Nat) :
    states step (start [] true false) failingReload (15 + 3 * count) = afterReload ∧
      states step (start [] true false) failingReload (15 + 3 * count + 1) =
        { afterReload with capture := .entering } ∧
      states step (start [] true false) failingReload (15 + 3 * count + 2) =
        { afterReload with capture := .testingRequest } := by
  induction count with
  | zero => exact ⟨rfl, rfl, rfl⟩
  | succ count ih =>
      have ends : states step (start [] true false) failingReload (15 + 3 * (count + 1)) =
          afterReload := by
        rw [show 15 + 3 * (count + 1) = 15 + 3 * count + 2 + 1 by ring, states, ih.2.2,
          failingReload_late]
        rfl
      have begins : states step (start [] true false) failingReload (15 + 3 * (count + 1) + 1) =
          { afterReload with capture := .entering } := by
        rw [states, ends, show 15 + 3 * (count + 1) = 15 + 3 * (count + 1) + 0 from rfl,
          failingReload_late]
        rfl
      refine ⟨ends, begins, ?_⟩
      rw [show 15 + 3 * (count + 1) + 2 = 15 + 3 * (count + 1) + 1 + 1 from rfl, states, begins,
        failingReload_late]
      rfl

theorem failingReload_settled (time : Nat) (late : 10 ≤ time) :
    Settled (states step (start [] true false) failingReload time) := by
  have listed : (states step (start [] true false) failingReload time).workers = [.returned] ∨
      (states step (start [] true false) failingReload time).workers = [] := by
    by_cases early : time < 15
    · interval_cases time
      · exact .inl rfl
      · exact .inl rfl
      · exact .inl rfl
      · exact .inl rfl
      · exact .inr rfl
    · obtain ⟨first, second, third⟩ := failingReload_cycle ((time - 15) / 3)
      have split : time = 15 + 3 * ((time - 15) / 3) + (time - 15) % 3 := by omega
      have below : (time - 15) % 3 < 3 := Nat.mod_lt _ (by decide)
      rw [split]
      interval_cases (time - 15) % 3
      · exact .inr (by rw [Nat.add_zero, first]; rfl)
      · exact .inr (by rw [second]; rfl)
      · exact .inr (by rw [third]; rfl)
  intro load member
  rcases listed with returned | none
  · rw [returned] at member
    exact List.mem_singleton.mp member
  · rw [none] at member
    exact absurd member List.not_mem_nil

theorem failingReload_keepsRunning : KeepsRunning (start [] true false) failingReload where
  housekeeping := by
    intro time
    refine ⟨15 + 3 * time, by omega, ?_⟩
    rw [(failingReload_cycle time).1, show 15 + 3 * time = 15 + 3 * time + 0 from rfl,
      failingReload_late]
    exact ⟨rfl, rfl, rfl⟩
  workers := by
    intro time busy
    by_cases early : time ≤ 9
    · exact ⟨9, early, outOfMemory, rfl⟩
    · exact absurd (failingReload_settled time (by omega)) busy

/-- The request of the example is followed by a load, though that fails. -/
theorem failingReload_answered : ∃ later, 1 < later ∧
    StartsLoad (states step (start [] true false) failingReload later) (failingReload later) :=
  (reload_protocol [] true false).2 failingReload failingReload_keepsRunning 1 rfl

end Example

end Protocol

end Ptnet.BlacklistReload
