import Go2Navigation.Foundation.Encoding

/-!
# Recording packets

`PcapSaver` writes each packet as a record of a `.pcap` file, with invented
Ethernet, IP and UDP headers.  The records go through a buffer which the
dumping thread flushes when it is nearly full, and whenever it finds more
packets waiting.
-/

namespace Go2Navigation.Lidar

open Go2Navigation.Foundation

/-- `BUFFER_SIZE`. -/
def bufferSize : ℕ := 1024 * 1024

structure PandarPacket where
  port : UInt16
  buffer : List UInt8
deriving DecidableEq

/-- What is in the file, and what is still in the buffer. -/
structure PcapSaver where
  ofs : List UInt8
  writeBuffer : List UInt8
deriving DecidableEq

/-- Both bytes of a number, exchanged. -/
def exchanged (number : ℕ) : UInt16 :=
  UInt16.ofNat (((number &&& 0xff) <<< 8) ||| (number >>> 8))

namespace PcapSaver

/-- `PcapHeader`, as `Save` fills it. -/
def pcapHeader : List UInt8 :=
  littleEndian 0xa1b2c3d4 ++ littleEndian16 2 ++ littleEndian16 4 ++
    littleEndian 0 ++ littleEndian 0 ++ littleEndian 0xffff ++ littleEndian 1

/-- `PcapRecord`. -/
def pcapRecord (tsSec tsUsec inclLen origLen : UInt32) : List UInt8 :=
  littleEndian tsSec ++ littleEndian tsUsec ++ littleEndian inclLen ++
    littleEndian origLen

def ethernet (etherType : UInt16) : List UInt8 :=
  [0xff, 0xff, 0xff, 0xff, 0xff, 0xff] ++
    [0x00, 0x0a, 0x35, 0x00, 0x1e, 0x53] ++ littleEndian16 etherType

/-- `PcapIPHeader`. -/
def pcapIPHeader (protocol : UInt8) (pktLen : UInt16) : List UInt8 :=
  ethernet 0x0008 ++ [0x45, 0x00] ++
    littleEndian16 (exchanged (pktLen.toNat + 20)) ++
    littleEndian16 0xf17a ++ littleEndian16 0x0040 ++ [0x40, protocol] ++
    littleEndian16 0x80f8 ++ littleEndian 0xc901a8c0 ++
    littleEndian 0xffffffff

/-- The `udp` of a `PcapUDPHeader`. -/
def udp (pktLen port : UInt16) : List UInt8 :=
  littleEndian16 0x1027 ++ littleEndian16 (exchanged port.toNat) ++
    littleEndian16 (exchanged (pktLen.toNat + 8)) ++ littleEndian16 0

def pcapUDPHeader (pktLen port : UInt16) : List UInt8 :=
  pcapIPHeader 0x11 (pktLen + 8) ++ udp pktLen port

/-- The packet behind its invented headers. -/
def dataWithFakeHeader (packet : PandarPacket) : List UInt8 :=
  pcapUDPHeader (UInt16.ofNat packet.buffer.length) packet.port ++
    packet.buffer

def flushBuffer (saver : PcapSaver) : PcapSaver :=
  ⟨saver.ofs ++ saver.writeBuffer, []⟩

def writeToBuffer (data : List UInt8) (saver : PcapSaver) : PcapSaver :=
  let flushed :=
    if bufferSize < saver.writeBuffer.length + data.length then
      saver.flushBuffer
    else saver
  { flushed with writeBuffer := flushed.writeBuffer ++ data }

/-- A packet with the time its record gets. -/
structure Recorded where
  packet : PandarPacket
  tsSec : UInt32
  tsUsec : UInt32
deriving DecidableEq

/-- What the dumping thread does, one after the other. -/
inductive DumpingStep where
  | dump (recorded : Recorded)
  | flush
deriving DecidableEq

namespace Recorded

/-- The headers of a record give its length, 42 bytes more than the data. -/
def header (recorded : Recorded) : List UInt8 :=
  pcapRecord recorded.tsSec recorded.tsUsec
    (UInt32.ofNat (recorded.packet.buffer.length + 42))
    (UInt32.ofNat (recorded.packet.buffer.length + 42))

def record (recorded : Recorded) : List UInt8 :=
  recorded.header ++ dataWithFakeHeader recorded.packet

end Recorded

def perform (saver : PcapSaver) : DumpingStep → PcapSaver
  | .dump recorded =>
      (saver.writeToBuffer recorded.header).writeToBuffer
        (dataWithFakeHeader recorded.packet)
  | .flush => saver.flushBuffer

/-- The packets that are recorded, in order. -/
def recordedBy : List DumpingStep → List Recorded
  | [] => []
  | .dump recorded :: rest => recorded :: recordedBy rest
  | .flush :: rest => recordedBy rest

/-- The file after `Save`, the dumping thread and `close`. -/
def savedFile (steps : List DumpingStep) : List UInt8 :=
  (steps.foldl perform
    ((⟨[], []⟩ : PcapSaver).writeToBuffer pcapHeader)).flushBuffer.ofs

/-! ## The file -/

theorem writeToBuffer_content (data : List UInt8) (saver : PcapSaver) :
    (saver.writeToBuffer data).ofs ++ (saver.writeToBuffer data).writeBuffer =
      saver.ofs ++ saver.writeBuffer ++ data := by
  rw [writeToBuffer]
  split <;> simp [flushBuffer]

theorem foldl_content (saver : PcapSaver) (steps : List DumpingStep) :
    (steps.foldl perform saver).ofs ++
        (steps.foldl perform saver).writeBuffer =
      saver.ofs ++ saver.writeBuffer ++
        (recordedBy steps).flatMap Recorded.record := by
  induction steps generalizing saver with
  | nil => simp [recordedBy]
  | cons step rest induction =>
      rw [List.foldl_cons, induction]
      cases step with
      | dump recorded =>
          simp only [perform, recordedBy, Recorded.record,
            writeToBuffer_content, List.flatMap_cons, List.append_assoc]
      | flush => simp [perform, recordedBy, flushBuffer]

/-- Wherever the buffer is flushed, the records follow one another. -/
theorem savedFile_eq (steps : List DumpingStep) :
    savedFile steps =
      pcapHeader ++ (recordedBy steps).flatMap Recorded.record := by
  have content :=
    foldl_content ((⟨[], []⟩ : PcapSaver).writeToBuffer pcapHeader) steps
  rw [writeToBuffer_content] at content
  simpa [savedFile, flushBuffer] using content

theorem length_pcapIPHeader (protocol : UInt8) (pktLen : UInt16) :
    (pcapIPHeader protocol pktLen).length = 34 :=
  rfl

theorem length_pcapUDPHeader (pktLen port : UInt16) :
    (pcapUDPHeader pktLen port).length = 42 :=
  rfl

theorem length_dataWithFakeHeader (packet : PandarPacket) :
    (dataWithFakeHeader packet).length = packet.buffer.length + 42 := by
  rw [dataWithFakeHeader, List.length_append, length_pcapUDPHeader]
  omega

theorem Recorded.length_header (recorded : Recorded) :
    recorded.header.length = 16 :=
  rfl

theorem Recorded.length_record (recorded : Recorded) :
    recorded.record.length = recorded.packet.buffer.length + 58 := by
  rw [record, List.length_append, length_header, length_dataWithFakeHeader]
  omega

end PcapSaver

end Go2Navigation.Lidar
