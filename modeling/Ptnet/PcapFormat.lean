import Ptnet.ByteMemory
import Mathlib.Data.List.Basic

/-!
Readers for capture files: PCAP with microseconds, and PCAPNG with one section and one
interface, both little endian. A block of PCAPNG repeats its length, a multiple of four, at
its end. A reader that takes what a writer has put in front of any stream inverts it.
-/

namespace Ptnet.PcapFormat

open ByteMemory

section Readers

def takeBytes (count : Nat) (bytes : Bytes) : Option (Bytes × Bytes) :=
  if count ≤ bytes.length then some (bytes.take count, bytes.drop count) else none

def takeInt (count : Nat) (bytes : Bytes) : Option (Nat × Bytes) :=
  (takeBytes count bytes).map fun taken => (decodeLe taken.1, taken.2)

theorem takeBytes_append (count : Nat) (first rest : Bytes) (length : first.length = count) :
    takeBytes count (first ++ rest) = some (first, rest) := by
  have within : count ≤ (first ++ rest).length := by
    rw [List.length_append, length]
    exact Nat.le_add_right count rest.length
  rw [takeBytes, if_pos within, List.take_left' length, List.drop_left' length]

theorem takeInt_encodeLe (count value : Nat) (rest : Bytes) (small : value < 256 ^ count) :
    takeInt count (encodeLe count value ++ rest) = some (value, rest) := by
  rw [takeInt, takeBytes_append count _ rest (encodeLe_length count value), Option.map_some,
    decodeLe_encodeLe, Nat.mod_eq_of_lt small]

theorem takeInt_low (count value : Nat) (rest : Bytes) :
    takeInt count (encodeLe count value ++ rest) = some (value % 256 ^ count, rest) := by
  rw [takeInt, takeBytes_append count _ rest (encodeLe_length count value), Option.map_some,
    decodeLe_encodeLe]

theorem takeBytes_all (count : Nat) (bytes : Bytes) (length : bytes.length = count) :
    takeBytes count bytes = some (bytes, []) := by
  have appended := takeBytes_append count bytes [] length
  rwa [List.append_nil] at appended

end Readers

section Pcap

structure PcapRecord where
  tsSec : Nat
  tsUsec : Nat
  origLen : Nat
  data : Bytes
  deriving DecidableEq, Repr

structure PcapFile where
  snaplen : Nat
  network : Nat
  records : List PcapRecord
  deriving DecidableEq, Repr

def readRecord (bytes : Bytes) : Option (PcapRecord × Bytes) := do
  let (tsSec, bytes) ← takeInt 4 bytes
  let (tsUsec, bytes) ← takeInt 4 bytes
  let (inclLen, bytes) ← takeInt 4 bytes
  let (origLen, bytes) ← takeInt 4 bytes
  let (data, bytes) ← takeBytes inclLen bytes
  some (⟨tsSec, tsUsec, origLen, data⟩, bytes)

def parsePcap (bytes : Bytes) : Option PcapFile := do
  let (magic, bytes) ← takeInt 4 bytes
  let (major, bytes) ← takeInt 2 bytes
  let (minor, bytes) ← takeInt 2 bytes
  let (_, bytes) ← takeInt 4 bytes
  let (_, bytes) ← takeInt 4 bytes
  let (snaplen, bytes) ← takeInt 4 bytes
  let (network, bytes) ← takeInt 4 bytes
  if magic = 0xa1b2c3d4 ∧ major = 2 ∧ minor = 4 then
    (parseAll readRecord bytes.length bytes).map fun records => ⟨snaplen, network, records⟩
  else none

def PcapRecord.encode (record : PcapRecord) : Bytes :=
  encodeLe 4 record.tsSec ++ (encodeLe 4 record.tsUsec ++ (encodeLe 4 record.data.length ++
    (encodeLe 4 record.origLen ++ record.data)))

structure PcapRecord.Fits (record : PcapRecord) : Prop where
  tsSec : record.tsSec < 256 ^ 4
  tsUsec : record.tsUsec < 256 ^ 4
  inclLen : record.data.length < 256 ^ 4
  origLen : record.origLen < 256 ^ 4

theorem readRecord_inverts : Inverts readRecord PcapRecord.encode PcapRecord.Fits := by
  intro record fits
  constructor
  · intro empty
    have lengths := congrArg List.length empty
    simp [PcapRecord.encode] at lengths
  · intro rest
    simp only [readRecord, PcapRecord.encode, List.append_assoc,
      takeInt_encodeLe 4 _ _ fits.tsSec, takeInt_encodeLe 4 _ _ fits.tsUsec,
      takeInt_encodeLe 4 _ _ fits.inclLen, takeInt_encodeLe 4 _ _ fits.origLen,
      takeBytes_append _ record.data rest rfl, Option.bind_eq_bind, Option.bind_some]

def pcapHeader (snaplen network : Nat) : Bytes :=
  encodeLe 4 0xa1b2c3d4 ++ (encodeLe 2 2 ++ (encodeLe 2 4 ++ (encodeLe 4 0 ++ (encodeLe 4 0 ++
    (encodeLe 4 snaplen ++ encodeLe 4 network)))))

theorem parsePcap_encoded (snaplen network : Nat) (records : List PcapRecord)
    (snaplenFits : snaplen < 256 ^ 4) (networkFits : network < 256 ^ 4)
    (fits : ∀ record ∈ records, record.Fits) :
    parsePcap (pcapHeader snaplen network ++ records.flatMap PcapRecord.encode) =
      some ⟨snaplen, network, records⟩ := by
  have nonempty : ∀ record ∈ records, record.encode ≠ [] := fun record member =>
    (readRecord_inverts record (fits record member)).1
  have parsed := parseAll_encoded readRecord PcapRecord.encode PcapRecord.Fits readRecord_inverts
    records fits _ (flatMap_length_le PcapRecord.encode records nonempty)
  simp only [parsePcap, pcapHeader, List.append_assoc,
    takeInt_encodeLe 4 0xa1b2c3d4 _ (by decide), takeInt_encodeLe 2 2 _ (by decide),
    takeInt_encodeLe 2 4 _ (by decide), takeInt_encodeLe 4 0 _ (by decide),
    takeInt_encodeLe 4 snaplen _ snaplenFits, takeInt_encodeLe 4 network _ networkFits,
    Option.bind_eq_bind, Option.bind_some, and_self, ↓reduceIte, parsed, Option.map_some]

end Pcap

section Blocks

structure Block where
  type : Nat
  body : Bytes
  deriving DecidableEq, Repr

def readBlock (bytes : Bytes) : Option (Block × Bytes) := do
  let (type, bytes) ← takeInt 4 bytes
  let (total, bytes) ← takeInt 4 bytes
  if total % 4 = 0 ∧ 12 ≤ total then
    let (body, bytes) ← takeBytes (total - 12) bytes
    let (again, bytes) ← takeInt 4 bytes
    if again = total then some (⟨type, body⟩, bytes) else none
  else none

def Block.encode (block : Block) : Bytes :=
  encodeLe 4 block.type ++ (encodeLe 4 (block.body.length + 12) ++ (block.body ++
    encodeLe 4 (block.body.length + 12)))

structure Block.Fits (block : Block) : Prop where
  type : block.type < 256 ^ 4
  aligned : block.body.length % 4 = 0
  short : block.body.length + 12 < 256 ^ 4

theorem readBlock_inverts : Inverts readBlock Block.encode Block.Fits := by
  intro block fits
  constructor
  · intro empty
    have lengths := congrArg List.length empty
    simp [Block.encode] at lengths
  · intro rest
    have aligned : (block.body.length + 12) % 4 = 0 := by
      have body := fits.aligned
      omega
    simp only [readBlock, Block.encode, List.append_assoc, takeInt_encodeLe 4 _ _ fits.type,
      takeInt_encodeLe 4 _ _ fits.short, Option.bind_eq_bind, Option.bind_some, aligned,
      Nat.le_add_left, and_self, ↓reduceIte, Nat.add_sub_cancel,
      takeBytes_append _ block.body _ rfl]

theorem parseBlocks_encoded (blocks : List Block) (fits : ∀ block ∈ blocks, block.Fits) :
    parseAll readBlock (blocks.flatMap Block.encode).length (blocks.flatMap Block.encode) =
      some blocks := by
  have nonempty : ∀ block ∈ blocks, block.encode ≠ [] := fun block member =>
    (readBlock_inverts block (fits block member)).1
  exact parseAll_encoded readBlock Block.encode Block.Fits readBlock_inverts blocks fits _
    (flatMap_length_le Block.encode blocks nonempty)

end Blocks

section Pcapng

structure Opt where
  code : Nat
  value : Bytes
  deriving DecidableEq, Repr

def readOption (bytes : Bytes) : Option (Opt × Bytes) := do
  let (code, bytes) ← takeInt 2 bytes
  let (length, bytes) ← takeInt 2 bytes
  let (value, bytes) ← takeBytes length bytes
  let (_, bytes) ← takeBytes (padding length) bytes
  some (⟨code, value⟩, bytes)

def Opt.encode (opt : Opt) : Bytes :=
  encodeLe 2 opt.code ++ (encodeLe 2 opt.value.length ++ (opt.value ++
    zeros (padding opt.value.length)))

structure Opt.Fits (opt : Opt) : Prop where
  code : opt.code < 256 ^ 2
  length : opt.value.length < 256 ^ 2

theorem readOption_inverts : Inverts readOption Opt.encode Opt.Fits := by
  intro opt fits
  constructor
  · intro empty
    have lengths := congrArg List.length empty
    simp [Opt.encode] at lengths
  · intro rest
    simp only [readOption, Opt.encode, List.append_assoc, takeInt_encodeLe 2 _ _ fits.code,
      takeInt_encodeLe 2 _ _ fits.length, takeBytes_append _ opt.value _ rfl,
      takeBytes_append _ (zeros (padding opt.value.length)) rest (zeros_length _),
      Option.bind_eq_bind, Option.bind_some]

def readOptions (bytes : Bytes) : Option (List Opt) := parseAll readOption bytes.length bytes

theorem readOptions_encoded (opts : List Opt) (fits : ∀ opt ∈ opts, opt.Fits) :
    readOptions (opts.flatMap Opt.encode) = some opts := by
  have nonempty : ∀ opt ∈ opts, opt.encode ≠ [] := fun opt member =>
    (readOption_inverts opt (fits opt member)).1
  exact parseAll_encoded readOption Opt.encode Opt.Fits readOption_inverts opts fits _
    (flatMap_length_le Opt.encode opts nonempty)

/-- A packet; its time is in microseconds. -/
structure EnhancedPacket where
  timestamp : Nat
  origLen : Nat
  data : Bytes
  deriving DecidableEq, Repr

structure Secrets where
  type : Nat
  data : Bytes
  deriving DecidableEq, Repr

inductive Item where
  | packet (packet : EnhancedPacket)
  | secrets (secrets : Secrets)
  deriving DecidableEq, Repr

def readPacket (body : Bytes) : Option EnhancedPacket := do
  let (interface, bytes) ← takeInt 4 body
  let (high, bytes) ← takeInt 4 bytes
  let (low, bytes) ← takeInt 4 bytes
  let (captured, bytes) ← takeInt 4 bytes
  let (origLen, bytes) ← takeInt 4 bytes
  let (data, bytes) ← takeBytes captured bytes
  let (_, bytes) ← takeBytes (padding captured) bytes
  let _ ← readOptions bytes
  if interface = 0 then some ⟨high * 2 ^ 32 + low, origLen, data⟩ else none

def readSecrets (body : Bytes) : Option Secrets := do
  let (type, bytes) ← takeInt 4 body
  let (length, bytes) ← takeInt 4 bytes
  let (data, bytes) ← takeBytes length bytes
  let (_, bytes) ← takeBytes (padding length) bytes
  let _ ← readOptions bytes
  some ⟨type, data⟩

def readItem (block : Block) : Option Item :=
  if block.type = 6 then (readPacket block.body).map .packet
  else if block.type = 0xA then (readSecrets block.body).map .secrets
  else none

structure PcapngFile where
  options : List Opt
  linktype : Nat
  snaplen : Nat
  items : List Item
  deriving DecidableEq, Repr

def readSection (block : Block) : Option (List Opt) := do
  let (magic, bytes) ← takeInt 4 block.body
  let (major, bytes) ← takeInt 2 bytes
  let (minor, bytes) ← takeInt 2 bytes
  let (_, bytes) ← takeInt 8 bytes
  if block.type = 0x0A0D0D0A ∧ magic = 0x1a2b3c4d ∧ major = 1 ∧ minor = 0 then readOptions bytes
  else none

def readInterface (block : Block) : Option (Nat × Nat) := do
  let (linktype, bytes) ← takeInt 2 block.body
  let (_, bytes) ← takeInt 2 bytes
  let (snaplen, bytes) ← takeInt 4 bytes
  let _ ← readOptions bytes
  if block.type = 1 then some (linktype, snaplen) else none

def readItems : List Block → Option (List Item)
  | [] => some []
  | block :: rest => do
      let item ← readItem block
      let items ← readItems rest
      some (item :: items)

def parsePcapng (bytes : Bytes) : Option PcapngFile := do
  let blocks ← parseAll readBlock bytes.length bytes
  match blocks with
  | first :: second :: rest =>
      let options ← readSection first
      let (linktype, snaplen) ← readInterface second
      let items ← readItems rest
      some ⟨options, linktype, snaplen, items⟩
  | _ => none

section Writers

def EnhancedPacket.block (packet : EnhancedPacket) : Block where
  type := 6
  body := encodeLe 4 0 ++ (encodeLe 4 (packet.timestamp / 2 ^ 32) ++
    (encodeLe 4 packet.timestamp ++ (encodeLe 4 packet.data.length ++
      (encodeLe 4 packet.origLen ++ (packet.data ++ zeros (padding packet.data.length))))))

structure EnhancedPacket.Fits (packet : EnhancedPacket) : Prop where
  timestamp : packet.timestamp < 256 ^ 8
  origLen : packet.origLen < 256 ^ 4
  short : packet.data.length + 35 < 256 ^ 4

theorem readPacket_block (packet : EnhancedPacket) (fits : packet.Fits) :
    readPacket packet.block.body = some packet := by
  have high : packet.timestamp / 2 ^ 32 < 256 ^ 4 := by
    have whole := fits.timestamp
    omega
  have captured : packet.data.length < 256 ^ 4 := by
    have short := fits.short
    omega
  have joined : packet.timestamp / 2 ^ 32 * 2 ^ 32 + packet.timestamp % 256 ^ 4 = packet.timestamp :=
    Nat.div_add_mod' packet.timestamp (2 ^ 32)
  have aligned := takeBytes_all _ (zeros (padding packet.data.length)) (zeros_length _)
  have options : readOptions [] = some [] := rfl
  simp only [readPacket, EnhancedPacket.block, takeInt_encodeLe 4 0 _ (by decide),
    takeInt_encodeLe 4 _ _ high, takeInt_low 4 packet.timestamp, takeInt_encodeLe 4 _ _ captured,
    takeInt_encodeLe 4 _ _ fits.origLen, takeBytes_append _ packet.data _ rfl, aligned, options,
    Option.bind_eq_bind, Option.bind_some, ↓reduceIte, joined]

def Secrets.block (secrets : Secrets) : Block where
  type := 0xA
  body := encodeLe 4 secrets.type ++ (encodeLe 4 secrets.data.length ++ (secrets.data ++
    zeros (padding secrets.data.length)))

structure Secrets.Fits (secrets : Secrets) : Prop where
  type : secrets.type < 256 ^ 4
  short : secrets.data.length + 23 < 256 ^ 4

theorem readSecrets_block (secrets : Secrets) (fits : secrets.Fits) :
    readSecrets secrets.block.body = some secrets := by
  have length : secrets.data.length < 256 ^ 4 := by
    have short := fits.short
    omega
  have aligned := takeBytes_all _ (zeros (padding secrets.data.length)) (zeros_length _)
  have options : readOptions [] = some [] := rfl
  simp only [readSecrets, Secrets.block, takeInt_encodeLe 4 _ _ fits.type,
    takeInt_encodeLe 4 _ _ length, takeBytes_append _ secrets.data _ rfl, aligned, options,
    Option.bind_eq_bind, Option.bind_some]

def Item.block : Item → Block
  | .packet captured => captured.block
  | .secrets collected => collected.block

def Item.Fits : Item → Prop
  | .packet captured => captured.Fits
  | .secrets collected => collected.Fits

theorem Item.block_fits (item : Item) (fits : item.Fits) : item.block.Fits := by
  cases item with
  | packet packet =>
      have short : packet.data.length + 35 < 256 ^ 4 := fits.short
      have padded := padding_lt packet.data.length
      have aligned := padding_aligned packet.data.length
      constructor
      · simp [Item.block, EnhancedPacket.block]
      · simp [Item.block, EnhancedPacket.block]
        omega
      · simp [Item.block, EnhancedPacket.block]
        omega
  | secrets secrets =>
      have short : secrets.data.length + 23 < 256 ^ 4 := fits.short
      have padded := padding_lt secrets.data.length
      have aligned := padding_aligned secrets.data.length
      constructor
      · simp [Item.block, Secrets.block]
      · simp [Item.block, Secrets.block]
        omega
      · simp [Item.block, Secrets.block]
        omega

theorem readItem_block (item : Item) (fits : item.Fits) : readItem item.block = some item := by
  cases item with
  | packet packet =>
      have read := readPacket_block packet fits
      simp [readItem, Item.block, show packet.block.type = 6 from rfl, read]
  | secrets secrets =>
      have read := readSecrets_block secrets fits
      simp [readItem, Item.block, show secrets.block.type = 0xA from rfl, read]

theorem readItems_blocks (items : List Item) (fits : ∀ item ∈ items, item.Fits) :
    readItems (items.map Item.block) = some items := by
  induction items with
  | nil => rfl
  | cons item rest ih =>
      have first := readItem_block item (fits item List.mem_cons_self)
      have later := ih fun other member => fits other (List.mem_cons_of_mem item member)
      simp [readItems, first, later]

def sectionBlock (options : List Opt) : Block where
  type := 0x0A0D0D0A
  body := encodeLe 4 0x1a2b3c4d ++ (encodeLe 2 1 ++ (encodeLe 2 0 ++ (encodeLe 8 (2 ^ 64 - 1) ++
    options.flatMap Opt.encode)))

def interfaceBlock (linktype snaplen : Nat) : Block where
  type := 1
  body := encodeLe 2 linktype ++ (encodeLe 2 0 ++ encodeLe 4 snaplen)

theorem readSection_block (options : List Opt) (fits : ∀ opt ∈ options, opt.Fits) :
    readSection (sectionBlock options) = some options := by
  simp only [readSection, sectionBlock, takeInt_encodeLe 4 0x1a2b3c4d _ (by decide),
    takeInt_encodeLe 2 1 _ (by decide), takeInt_encodeLe 2 0 _ (by decide), takeInt_low 8,
    Option.bind_eq_bind, Option.bind_some, and_self, ↓reduceIte, readOptions_encoded options fits]

theorem readInterface_block (linktype snaplen : Nat) (linktypeFits : linktype < 256 ^ 2)
    (snaplenFits : snaplen < 256 ^ 4) :
    readInterface (interfaceBlock linktype snaplen) = some (linktype, snaplen) := by
  have last := takeInt_encodeLe 4 snaplen [] snaplenFits
  rw [List.append_nil] at last
  have options : readOptions [] = some [] := rfl
  simp only [readInterface, interfaceBlock, takeInt_encodeLe 2 linktype _ linktypeFits,
    takeInt_encodeLe 2 0 _ (by decide), last, options, Option.bind_eq_bind, Option.bind_some,
    ↓reduceIte]

theorem Opt.encode_aligned (opt : Opt) : opt.encode.length % 4 = 0 := by
  have aligned := padding_aligned opt.value.length
  simp [Opt.encode]
  omega

theorem options_aligned (options : List Opt) : (options.flatMap Opt.encode).length % 4 = 0 := by
  induction options with
  | nil => rfl
  | cons opt rest ih =>
      have first := opt.encode_aligned
      rw [List.flatMap_cons, List.length_append]
      omega

theorem sectionBlock_fits (options : List Opt)
    (short : (options.flatMap Opt.encode).length + 28 < 256 ^ 4) : (sectionBlock options).Fits := by
  have aligned := options_aligned options
  constructor
  · simp [sectionBlock]
  · simp only [sectionBlock, List.length_append, encodeLe_length]
    omega
  · simp only [sectionBlock, List.length_append, encodeLe_length]
    omega

theorem interfaceBlock_fits (linktype snaplen : Nat) : (interfaceBlock linktype snaplen).Fits := by
  constructor
  · simp [interfaceBlock]
  · simp [interfaceBlock]
  · simp [interfaceBlock]

/-- A section header with its options, the interface, then one block for each item. -/
theorem parsePcapng_encoded (options : List Opt) (linktype snaplen : Nat) (items : List Item)
    (optionsFit : ∀ opt ∈ options, opt.Fits)
    (short : (options.flatMap Opt.encode).length + 28 < 256 ^ 4)
    (linktypeFits : linktype < 256 ^ 2) (snaplenFits : snaplen < 256 ^ 4)
    (fits : ∀ item ∈ items, item.Fits) :
    parsePcapng ((sectionBlock options :: interfaceBlock linktype snaplen ::
        items.map Item.block).flatMap Block.encode) =
      some ⟨options, linktype, snaplen, items⟩ := by
  have blocks : ∀ block ∈ sectionBlock options :: interfaceBlock linktype snaplen ::
      items.map Item.block, block.Fits := by
    intro block member
    rcases List.mem_cons.mp member with rfl | member
    · exact sectionBlock_fits options short
    rcases List.mem_cons.mp member with rfl | member
    · exact interfaceBlock_fits linktype snaplen
    obtain ⟨item, within, rfl⟩ := List.mem_map.mp member
    exact item.block_fits (fits item within)
  rw [parsePcapng, parseBlocks_encoded _ blocks]
  simp only [Option.bind_eq_bind, Option.bind_some, readSection_block options optionsFit,
    readInterface_block linktype snaplen linktypeFits snaplenFits, readItems_blocks items fits]

end Writers

def PcapngFile.packets (file : PcapngFile) : List EnhancedPacket :=
  file.items.filterMap fun item =>
    match item with
    | .packet packet => some packet
    | .secrets _ => none

end Pcapng

end Ptnet.PcapFormat
