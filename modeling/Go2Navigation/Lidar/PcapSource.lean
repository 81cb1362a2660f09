import Go2Navigation.Foundation.Encoding
import Go2Navigation.Foundation.Memory
import Go2Navigation.Lidar.MappedFile
import Mathlib.Algebra.Group.Nat.Defs

/-!
# Playing a recorded file

`PcapSource` reads one record of a `.pcap` file each time it is asked for a
packet.  `payload_` keeps what longer records have left behind shorter ones.
The payload of a UDP packet is handed on; that of a TCP segment is cut into
packets of 581 bytes, which wait in `m_receiveBuffer`.
-/

namespace Go2Navigation.Lidar

open Go2Navigation.Foundation

def kBufSize : ℕ := 1500

/-- `kDataMaxLength`. -/
def kDataMaxLength : ℕ := kBufSize * 100

structure PcapSource where
  p : Private
  isLoop : Bool
  beginPos : ℕ
  magicNumber : UInt32
  swapped : Bool
  payload : ℕ → UInt8
  pcapUdpHeader : List UInt8
  pcapTcpHeader : List UInt8
  receiveBuffer : ℕ → UInt8
  dataIndex : ℕ
  dataLength : ℕ
  isPcapEnd : Bool

/-- What `Receive` returns and writes to the front of the buffer. -/
structure ReceivedPacket where
  code : ℤ
  buffer : List UInt8
deriving DecidableEq

namespace PcapSource

/-- The constructor leaves some members as the memory was. -/
def construct (isLoop : Bool) (memory : PcapSource) : PcapSource :=
  { memory with
    p := ⟨[], 0, 0, 0, false⟩
    isLoop := isLoop
    beginPos := 0
    pcapUdpHeader := [0, 0, 0, 0, 0, 0, 0, 0]
    dataIndex := 0
    dataLength := 0
    isPcapEnd := false }

/-- The magic numbers, and whether they ask for other byte order. -/
def byteOrderOf (magicNumber : UInt32) : Option Bool :=
  if magicNumber = 0xa1b2c3d4 ∨ magicNumber = 0xa1b23c4d then some false
  else if magicNumber = 0xd4c3b2a1 ∨ magicNumber = 0x4d3cb2a1 then
    some true
  else none

/-- The first word of a structure. -/
def firstWord : List UInt8 → Option UInt32
  | first :: second :: third :: fourth :: _ =>
      some (wordOfBytes first second third fourth)
  | _ => none

/-- `Open`; the header of a file that is too short is not read. -/
def openFile (file : List UInt8) (source : PcapSource) :
    Bool × PcapSource :=
  let read := (Private.opened file).readValue 24
  let magicNumber :=
    (read.1.bind firstWord).getD source.magicNumber
  match byteOrderOf magicNumber with
  | none => (false, { source with p := read.2, magicNumber := magicNumber })
  | some swapped =>
      (true,
        { source with
          p := read.2
          magicNumber := magicNumber
          swapped := swapped
          beginPos := read.2.fpos })

/-- `distinationPort`. -/
def distinationPort (source : PcapSource) : UInt16 :=
  wordOfBytes16 (source.pcapUdpHeader.getD 3 0)
    (source.pcapUdpHeader.getD 2 0)

/-- `convert_endian_32`. -/
def convertEndian32 (swapped : Bool) (first second third fourth : UInt8) :
    UInt32 :=
  if swapped then wordOfBytes fourth third second first
  else wordOfBytes first second third fourth

/-- `incl_len` of a record header. -/
def inclLen (swapped : Bool) (record : List UInt8) : ℕ :=
  (convertEndian32 swapped (record.getD 8 0) (record.getD 9 0)
    (record.getD 10 0) (record.getD 11 0)).toNat

/-- A UDP header that ends at this offset, and the data behind it. -/
def udp (headersSize inclLen : ℕ) (source : PcapSource) :
    ReceivedPacket × PcapSource :=
  if inclLen < headersSize then (⟨1, []⟩, source)
  else
    (⟨(inclLen - headersSize : ℕ),
        load source.payload headersSize (inclLen - headersSize)⟩,
      { source with
        pcapUdpHeader := load source.payload (headersSize - 8) 8 })

/-- The two bytes in front of 581 bytes of `m_receiveBuffer`. -/
def packetAt (start : ℕ) (source : PcapSource) : ReceivedPacket :=
  ⟨581 + 2, [0xEE, 0xFF] ++ load source.receiveBuffer start 581⟩

/--
The callback of `Receive` for TCP.  There is no result if it reads behind
`payload_` or writes behind `m_receiveBuffer`.
-/
def tcpCallback (start len : ℕ) (source : PcapSource) :
    Option (ReceivedPacket × PcapSource) :=
  if len % 581 ≠ 0 then some (⟨-1, []⟩, source)
  else if kBufSize < start + len ∨
      kDataMaxLength < source.dataLength + len then none
  else
    let filled :=
      { source with
        receiveBuffer :=
          store source.receiveBuffer source.dataLength
            (load source.payload start len)
        dataLength := source.dataLength + len }
    if filled.dataIndex + 581 ≤ filled.dataLength then
      some (filled.packetAt filled.dataIndex,
        { filled with dataIndex := filled.dataIndex + 581 })
    else some (⟨-1, []⟩, filled)

/-- A TCP header at this offset; the length wraps as a `uint32_t` does. -/
def tcp (shortest headerStart dataStart inclLen : ℕ) (source : PcapSource) :
    Option (ReceivedPacket × PcapSource) :=
  if inclLen < shortest then some (⟨1, []⟩, source)
  else
    let read :=
      { source with pcapTcpHeader := load source.payload headerStart 20 }
    let lenres := (read.pcapTcpHeader.getD 12 0).toNat / 16 * 4
    if lenres < 20 then some (⟨2, []⟩, read)
    else
      read.tcpCallback (dataStart + (lenres - 20))
        ((inclLen + 2 ^ 32 - dataStart - (lenres - 20)) % 2 ^ 32)

/-- The protocols inside an IP header. -/
def transport (protocol : UInt8)
    (udpSize tcpSize tcpStart dataStart inclLen : ℕ) (source : PcapSource) :
    Option (ReceivedPacket × PcapSource) :=
  if protocol = 17 then some (source.udp udpSize inclLen)
  else if protocol = 6 then
    source.tcp tcpSize tcpStart dataStart inclLen
  else some (⟨2, []⟩, source)

/-- What is in `payload_`, by its `ether_type`. -/
def dispatch (inclLen : ℕ) (source : PcapSource) :
    Option (ReceivedPacket × PcapSource) :=
  let etherType := wordOfBytes16 (source.payload 12) (source.payload 13)
  if etherType = 0x0008 then
    source.transport (source.payload 23) 42 54 34 54 inclLen
  else if etherType = 0xdd86 then
    source.transport (source.payload 20) 62 74 54 74 inclLen
  else if etherType = 0x0081 then
    let tagged := wordOfBytes16 (source.payload 16) (source.payload 17)
    if tagged = 0x0008 then
      source.transport (source.payload 27) 46 58 38 54 inclLen
    else if tagged = 0xdd86 then
      source.transport (source.payload 27) 66 78 58 74 inclLen
    else some (⟨2, []⟩, source)
  else some (⟨1, []⟩, source)

/-- The rest of a record, behind its header. -/
def nextPayload (inclLen : ℕ) (source : PcapSource) :
    Option (ReceivedPacket × PcapSource) :=
  if inclLen ≤ kBufSize ∧ 14 < inclLen then
    (source.p.readInto inclLen inclLen).bind fun result =>
      let read := { source with p := result.2 }
      match result.1 with
      | none => some (⟨-1, []⟩, read)
      | some bytes =>
          { read with payload := store read.payload 0 bytes }.dispatch
            inclLen
  else
    let moved := source.p.move inclLen
    some (⟨if moved.1 then 1 else -1, []⟩, { source with p := moved.2 })

/-- `next`, from the record header on. -/
def nextRecord (source : PcapSource) : Option (ReceivedPacket × PcapSource) :=
  let record := source.p.readValue 16
  match record.1 with
  | none => some (⟨-1, []⟩, { source with p := record.2 })
  | some bytes =>
      { source with p := record.2 }.nextPayload
        (inclLen source.swapped bytes)

def next (source : PcapSource) : Option (ReceivedPacket × PcapSource) :=
  if source.p.eof then
    if source.isLoop then
      { source with p := source.p.setFpos source.beginPos }.nextRecord
    else some (⟨-1, []⟩, { source with isPcapEnd := true })
  else source.nextRecord

/-- `m_receiveBuffer` is moved to its front when it is nearly full. -/
def makeRoom (source : PcapSource) : PcapSource :=
  if kDataMaxLength < source.dataLength + kBufSize * 5 then
    { source with
      receiveBuffer :=
        copy source.receiveBuffer 0 source.dataIndex
          (source.dataLength - source.dataIndex)
      dataLength := source.dataLength - source.dataIndex
      dataIndex := 0 }
  else source

/-- `Receive`. -/
def receive (source : PcapSource) : Option (ReceivedPacket × PcapSource) :=
  if source.dataIndex + 581 ≤ source.dataLength then
    some (source.packetAt 0,
      { source with dataIndex := source.dataIndex + 581 })
  else source.makeRoom.next

/-- Some packets in a row, each with the port it was sent to. -/
def receives :
    ℕ → PcapSource → Option (List (ReceivedPacket × UInt16) × PcapSource)
  | 0, source => some ([], source)
  | count + 1, source =>
      source.receive.bind fun first =>
        (receives count first.2).map fun rest =>
          ((first.1, first.2.distinationPort) :: rest.1, rest.2)

theorem receives_add (first second : ℕ) (source : PcapSource) :
    receives (first + second) source =
      (receives first source).bind fun front =>
        (receives second front.2).map fun back =>
          (front.1 ++ back.1, back.2) := by
  induction first generalizing source with
  | zero => simp [receives]
  | succ first induction =>
      rw [Nat.succ_add, receives, receives]
      rcases source.receive with _ | ⟨received, next⟩
      · rfl
      · simp only [Option.bind_some, induction]
        rcases receives first next with _ | ⟨front, between⟩
        · rfl
        · simp only [Option.bind_some, Option.map_some, Option.map_map]
          rfl

end PcapSource

end Go2Navigation.Lidar
