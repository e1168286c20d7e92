import Ptnet.NativeBlacklist

/-!
Blacklist files: `blacklist_load_file` of core/blacklist.c, and what `load_new_blacklists` of
core/pcapdroid.c does for each file. A file is the text it holds when it is read; the allocator
and the parser of addresses answer as in `Environment`.
-/

namespace Ptnet.BlacklistFile

open Connection (Ip)
open NativeBlacklist

/-- `sizeof(buffer) - 1` -/
def LINE_ROOM : Nat := 255

def MAX_FILE_RULES : Nat := 500000

/-- What successive calls of `fgets` return: lines, cut where the buffer is full. -/
def fgetsAll : List Char → List Char → List (List Char)
  | line, [] => if line.isEmpty then [] else [line]
  | line, char :: rest =>
      if char = '\n' ∨ line.length + 1 = LINE_ROOM then (line ++ [char]) :: fgetsAll [] rest
      else fgetsAll (line ++ [char]) rest

def cString (buffer : List Char) : List Char := buffer.takeWhile fun char => char.toNat ≠ 0

structure Counters where
  numOk : Nat := 0
  numFail : Nat := 0
  numDup : Nat := 0
  deriving DecidableEq, Repr

def Counters.count (counters : Counters) (rv : Int) : Counters :=
  if rv = 0 then { counters with numOk := counters.numOk + 1 }
  else if rv = -EADDRINUSE then { counters with numDup := counters.numDup + 1 }
  else { counters with numFail := counters.numFail + 1 }

def Counters.fail (counters : Counters) : Counters :=
  { counters with numFail := counters.numFail + 1 }

/-- `0.0.0.0`, `255.255.255.255`, and the number `0x7F000001` as it lies in memory. -/
def isInvalidIpv4 (addr : Ip) : Bool :=
  let word := (addr >>> 96).toNat
  word = 0 || word = 0xFFFFFFFF || word = 0x0100007F

/-- The prefix length of a rule; it becomes a `uint8_t` when the rule is added. -/
def ruleBits (slash : Option String) (ipver : Nat) : Int :=
  match slash with
  | some bits => atoi bits
  | none => if ipver = 4 then 32 else 128

/-- One iteration of the loop in `blacklist_load_file`. -/
def loadLine (env : Environment) (btype : BlacklistType) (index : Nat) (buffer : List Char)
    (bl : Blacklist) (counters : Counters) : Blacklist × Counters :=
  let text := cString buffer
  if text.head?.all fun char => char = '#' || char = '\n' then (bl, counters)
  else
    let line := text.takeWhile fun char => char ≠ '\r' && char ≠ '\n'
    let item := String.ofList (line.takeWhile fun char => char ≠ '/')
    let slash := match line.dropWhile fun char => char ≠ '/' with
      | [] => none
      | _ :: bits => some (String.ofList bits)
    let parsed := (env.parse item).filter fun (ipver, _) => ipver = 4 || ipver = 6
    if MAX_FILE_RULES ≤ counters.numOk then (bl, counters.fail)
    else
      match btype, parsed with
      | .ip, none => (bl, counters.fail)
      | .ip, some (ipver, addr) =>
          let bits := ruleBits slash ipver
          if ipver = 4 ∧ bits = 32 ∧ isInvalidIpv4 addr = true then (bl, counters)
          else
            let (rv, added) := bl.addIp (env.malloc index) addr (bits % 256).toNat
            (added, counters.count rv)
      | _, some _ => (bl, counters.fail)
      | _, none =>
          let (rv, added) := bl.addDomain (env.malloc index) item
          (added, counters.count rv)

def loadLines (env : Environment) (btype : BlacklistType) : Nat → List (List Char) → Blacklist →
    Counters → Blacklist × Counters
  | _, [], bl, counters => (bl, counters)
  | index, buffer :: rest, bl, counters =>
      let (next, counted) := loadLine env btype index buffer bl counters
      loadLines env btype (index + 1) rest next counted

structure BlacklistStats where
  numRules : Nat
  numFailed : Nat
  deriving DecidableEq, Repr

/-- No text means that `fopen` fails, and no statistics that the result is negative. -/
def blacklistLoadFile (env : Environment) (bl : Blacklist) (text : Option (List Char))
    (btype : BlacklistType) : Blacklist × Option BlacklistStats :=
  match text with
  | none => (bl, none)
  | some text =>
      let (loaded, counters) := loadLines env btype 0 (fgetsAll [] text) bl {}
      (loaded, some { numRules := counters.numOk, numFailed := counters.numFail })

structure BlInfo where
  fname : String
  type : BlacklistType
  deriving DecidableEq, Repr

structure BlStatus where
  fname : String
  numRules : Nat
  deriving DecidableEq, Repr

/-- `bl_status_arr_t`: the cells that are allocated (none for NULL), and whether one outside of
them was written. -/
structure BlStatusArr where
  items : List (Option BlStatus) := []
  size : Nat := 0
  curItems : Nat := 0
  wild : Bool := false
  deriving DecidableEq, Repr

/-- What the worker meets for one file. -/
structure FileAnswer where
  text : Option (List Char)
  env : Environment
  realloc : Bool := true
  strdup : Bool := true

namespace BlStatusArr

variable (arr : BlStatusArr)

/-- The array with its new size, unless `realloc` fails. -/
def extend (realloc : Bool) : BlStatusArr × Bool :=
  if arr.curItems ≤ arr.size then
    let size := if arr.size = 0 then 8 else arr.size * 2
    if realloc then
      ({ arr with
        items := arr.items.take size ++ List.replicate (size - arr.items.length) none
        size := size }, true)
    else ({ arr with items := [], size := 0 }, false)
  else (arr, true)

def push (status : BlStatus) : BlStatusArr :=
  { arr with
    items := arr.items.set arr.curItems (some status)
    curItems := arr.curItems + 1
    wild := arr.wild || decide (arr.items.length ≤ arr.curItems) }

def addStatus (answer : FileAnswer) (fname : String) (stats : BlacklistStats) : BlStatusArr :=
  match arr.extend answer.realloc with
  | (failed, false) => failed
  | (extended, true) =>
      if answer.strdup then extended.push { fname := fname, numRules := stats.numRules }
      else extended

end BlStatusArr

/-- One iteration of the loop in `load_new_blacklists`. -/
def loadBlacklist (blinfo : BlInfo) (answer : FileAnswer) (bl : Blacklist)
    (statusArr : BlStatusArr) : Blacklist × BlStatusArr :=
  match blacklistLoadFile answer.env bl answer.text blinfo.type with
  | (loaded, none) => (loaded, statusArr)
  | (loaded, some stats) => (loaded, statusArr.addStatus answer blinfo.fname stats)

def addTestEntries (env : Environment) (bl : Blacklist) : Blacklist :=
  ((bl.addDomain (env.malloc 0) "internetbadguys.com").2.addIpstr env.parse (env.malloc 1)
    "0.0.0.1").2

end Ptnet.BlacklistFile
