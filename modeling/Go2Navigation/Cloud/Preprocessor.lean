import Go2Navigation.Cloud.PointCloud

/-!
# The scan preprocessor

`ScanPreprocessor::on_cloud` on a little-endian machine.  Addresses are
`size_t`, the counters 32 bits wide.  A read outside the data has no defined
result, so the callback returns `none` there.
-/

namespace Go2Navigation.Cloud

/-- The parameters of the node. -/
structure ScanPreprocessor where
  ringField : String
  ringMin : ℤ
  ringMax : ℤ

/-- `static_cast<uint16_t>` of an `int`. -/
def toUint16 (value : ℤ) : ℕ :=
  (value % 2 ^ 16).toNat

/-- The two-byte `memcpy` into `ring`, on a little-endian machine. -/
def readRing (data : List UInt8) (address : ℕ) : Option ℕ :=
  if address + 2 ≤ data.length then
    some
      ((data.getD address 0).toNat +
        256 * (data.getD (address + 1) 0).toNat)
  else none

/-- The bytes between two iterators. -/
def readRange (data : List UInt8) (first size : ℕ) : Option (List UInt8) :=
  if first + size ≤ data.length then
    some ((data.drop first).take size)
  else none

/-- What the loop over the points has emitted. -/
structure LoopState where
  data : List UInt8
  kept : ℕ

namespace ScanPreprocessor

/-- Whether the ring test keeps a value. -/
def keeps (node : ScanPreprocessor) (ring : ℕ) : Bool :=
  decide (toUint16 node.ringMin ≤ ring) &&
    decide (ring ≤ toUint16 node.ringMax)

/-- One iteration of the loop over the points. -/
def loopBody
    (node : ScanPreprocessor) (cloud : PointCloud2) (offset : ℕ)
    (state : LoopState) (index : ℕ) : Option LoopState := do
  let step := cloud.pointStep.toNat
  let base := index * step % 2 ^ 64
  let ring ← readRing cloud.data (base + offset)
  if node.keeps ring then
    let bytes ← readRange cloud.data base step
    some ⟨state.data ++ bytes, (state.kept + 1) % 2 ^ 32⟩
  else
    some state

/-- The cloud which the callback publishes. -/
def onCloud (node : ScanPreprocessor) (cloud : PointCloud2) :
    Option PointCloud2 :=
  match cloud.fields.find? fun field => field.name == node.ringField with
  | none => some cloud
  | some field => do
      let points := cloud.width.toNat * cloud.height.toNat
      let state ←
        (List.range points).foldlM
          (node.loopBody cloud field.offset.toNat) ⟨[], 0⟩
      some
        { header := cloud.header
          height := 1
          width := UInt32.ofNat state.kept
          fields := cloud.fields
          isBigendian := cloud.isBigendian
          pointStep := cloud.pointStep
          rowStep := UInt32.ofNat state.data.length
          data := state.data
          isDense := cloud.isDense }

end ScanPreprocessor

/-! ## The ring test -/

/-- The ring values which two thresholds ask for. -/
def Between (ringMin ringMax : ℤ) (ring : ℕ) : Prop :=
  ringMin ≤ ring ∧ (ring : ℤ) ≤ ringMax

instance (ringMin ringMax : ℤ) (ring : ℕ) :
    Decidable (Between ringMin ringMax ring) :=
  inferInstanceAs (Decidable (_ ∧ _))

/-- The test of the loop, on the wrapped thresholds. -/
theorem keeps_iff_wrapped (node : ScanPreprocessor) (ring : ℕ) :
    node.keeps ring = true ↔
      Between (node.ringMin % 65536) (node.ringMax % 65536) ring := by
  rw [ScanPreprocessor.keeps, Bool.and_eq_true, decide_eq_true_iff,
    decide_eq_true_iff, toUint16, toUint16, Between]
  omega

/-- Thresholds which fit into 16 bits are compared as they are. -/
theorem keeps_iff_between
    {node : ScanPreprocessor}
    (minNonneg : 0 ≤ node.ringMin) (minSmall : node.ringMin ≤ 65535)
    (maxNonneg : 0 ≤ node.ringMax) (maxSmall : node.ringMax ≤ 65535)
    (ring : ℕ) :
    node.keeps ring = true ↔
      Between node.ringMin node.ringMax ring := by
  have minEq : node.ringMin % 65536 = node.ringMin :=
    Int.emod_eq_of_lt minNonneg (Int.lt_add_one_of_le minSmall)
  have maxEq : node.ringMax % 65536 = node.ringMax :=
    Int.emod_eq_of_lt maxNonneg (Int.lt_add_one_of_le maxSmall)
  rw [keeps_iff_wrapped, minEq, maxEq]

/-! ## What the loop emits while its reads are in range -/

namespace PointCloud2

/-- The number of points the loop visits. -/
def points (cloud : PointCloud2) : ℕ :=
  cloud.width.toNat * cloud.height.toNat

/-- The record at a flat index, as the loop addresses it. -/
def flatRecord (cloud : PointCloud2) (index : ℕ) : List UInt8 :=
  (cloud.data.drop (index * cloud.pointStep.toNat)).take
    cloud.pointStep.toNat

/-- The ring value at a flat index, as the loop reads it. -/
def flatRing (cloud : PointCloud2) (offset index : ℕ) : ℕ :=
  let address := index * cloud.pointStep.toNat + offset
  (cloud.data.getD address 0).toNat +
    256 * (cloud.data.getD (address + 1) 0).toNat

/-- The ring bytes of a record, read in the byte order of the machine. -/
def ringBytes (record : List UInt8) (offset : ℕ) : ℕ :=
  (record.getD offset 0).toNat + 256 * (record.getD (offset + 1) 0).toNat

theorem ringBytes_le (record : List UInt8) (offset : ℕ) :
    ringBytes record offset ≤ 65535 := by
  have first := (record.getD offset 0).toNat_lt
  have second := (record.getD (offset + 1) 0).toNat_lt
  rw [ringBytes]
  omega

theorem flatRing_le (cloud : PointCloud2) (offset index : ℕ) :
    cloud.flatRing offset index ≤ 65535 :=
  ringBytes_le cloud.data _

/-- A ring field inside the point is read from the record at the flat index. -/
theorem flatRing_eq_ringBytes
    {cloud : PointCloud2} {offset : ℕ}
    (inside : offset + 2 ≤ cloud.pointStep.toNat) (index : ℕ) :
    cloud.flatRing offset index =
      ringBytes (cloud.flatRecord index) offset := by
  have first : offset < cloud.pointStep.toNat := by omega
  have second : offset + 1 < cloud.pointStep.toNat := by omega
  simp [flatRing, ringBytes, flatRecord, List.getD, List.getElem?_drop,
    first, second, Nat.add_assoc]

/-- Both reads of one iteration are inside the data, and no address wraps. -/
structure InRange (cloud : PointCloud2) (offset index : ℕ) : Prop where
  address : index * cloud.pointStep.toNat < 2 ^ 64
  ring :
    index * cloud.pointStep.toNat + offset + 2 ≤ cloud.data.length
  record :
    index * cloud.pointStep.toNat + cloud.pointStep.toNat ≤
      cloud.data.length

theorem InRange.length_flatRecord
    {cloud : PointCloud2} {offset index : ℕ}
    (inRange : cloud.InRange offset index) :
    (cloud.flatRecord index).length = cloud.pointStep.toNat := by
  have fits := inRange.record
  simp only [flatRecord, List.length_take, List.length_drop]
  omega

end PointCloud2

namespace ScanPreprocessor

/-- The flat indices of the points which the loop keeps. -/
def keptIndices
    (node : ScanPreprocessor) (cloud : PointCloud2) (offset : ℕ)
    (indices : List ℕ) : List ℕ :=
  indices.filter fun index => node.keeps (cloud.flatRing offset index)

/--
The reads of one iteration, at unwrapped addresses, are inside the data: the
two bytes of the ring, and the record if it is kept.
-/
structure ReadsInside
    (node : ScanPreprocessor) (cloud : PointCloud2)
    (offset index : ℕ) : Prop where
  ring :
    index * cloud.pointStep.toNat + offset + 2 ≤ cloud.data.length
  record :
    node.keeps (cloud.flatRing offset index) = true →
      index * cloud.pointStep.toNat + cloud.pointStep.toNat ≤
        cloud.data.length

theorem readsInside_of_inRange
    (node : ScanPreprocessor) {cloud : PointCloud2} {offset index : ℕ}
    (inRange : cloud.InRange offset index) :
    node.ReadsInside cloud offset index :=
  ⟨inRange.ring, fun _ => inRange.record⟩

theorem loopBody_of_readsInside
    {node : ScanPreprocessor} {cloud : PointCloud2} {offset index : ℕ}
    (state : LoopState)
    (address : index * cloud.pointStep.toNat < 2 ^ 64)
    (inside : node.ReadsInside cloud offset index) :
    node.loopBody cloud offset state index =
      some
        (if node.keeps (cloud.flatRing offset index) then
          ⟨state.data ++ cloud.flatRecord index,
            (state.kept + 1) % 2 ^ 32⟩
        else state) := by
  have ringEq :
      readRing cloud.data (index * cloud.pointStep.toNat + offset) =
        some (cloud.flatRing offset index) :=
    if_pos inside.ring
  simp only [loopBody, Nat.mod_eq_of_lt address, ringEq,
    Option.bind_eq_bind, Option.bind_some]
  split_ifs with kept
  · simp only [readRange, if_pos (inside.record kept), Option.bind_some,
      PointCloud2.flatRecord]
  · rfl

/-- A read outside the data has no defined result. -/
theorem loopBody_eq_none
    {node : ScanPreprocessor} {cloud : PointCloud2} {offset index : ℕ}
    (state : LoopState)
    (address : index * cloud.pointStep.toNat < 2 ^ 64)
    (outside : ¬ node.ReadsInside cloud offset index) :
    node.loopBody cloud offset state index = none := by
  simp only [loopBody, Nat.mod_eq_of_lt address]
  by_cases ring :
      index * cloud.pointStep.toNat + offset + 2 ≤ cloud.data.length
  · have ringEq :
        readRing cloud.data (index * cloud.pointStep.toNat + offset) =
          some (cloud.flatRing offset index) :=
      if_pos ring
    have keptOutside :
        node.keeps (cloud.flatRing offset index) = true ∧
          ¬ index * cloud.pointStep.toNat + cloud.pointStep.toNat ≤
            cloud.data.length := by
      by_contra fits
      exact outside ⟨ring, fun kept => not_not.mp (not_and.mp fits kept)⟩
    simp only [ringEq, Option.bind_eq_bind, Option.bind_some,
      if_pos keptOutside.1, readRange, if_neg keptOutside.2,
      Option.bind_none]
  · simp only [readRing, if_neg ring, Option.bind_eq_bind,
      Option.bind_none]

/-- The loop appends the kept records in order and counts them. -/
theorem foldlM_loopBody
    {node : ScanPreprocessor} {cloud : PointCloud2} {offset : ℕ}
    {indices : List ℕ} (state : LoopState)
    (counter : state.kept < 2 ^ 32)
    (address :
      ∀ index ∈ indices, index * cloud.pointStep.toNat < 2 ^ 64)
    (inside : ∀ index ∈ indices, node.ReadsInside cloud offset index) :
    indices.foldlM (node.loopBody cloud offset) state =
      some
        ⟨state.data ++
            ((node.keptIndices cloud offset indices).map
              cloud.flatRecord).flatten,
          (state.kept +
            (node.keptIndices cloud offset indices).length) % 2 ^ 32⟩ := by
  induction indices generalizing state with
  | nil =>
      rcases state with ⟨data, kept⟩
      simpa [keptIndices] using (Nat.mod_eq_of_lt counter).symm
  | cons index rest induction =>
      have first :=
        loopBody_of_readsInside state (address index List.mem_cons_self)
          (inside index List.mem_cons_self)
      have restAddress :
          ∀ later ∈ rest, later * cloud.pointStep.toNat < 2 ^ 64 :=
        fun later member => address later (List.mem_cons_of_mem _ member)
      have restInside :
          ∀ later ∈ rest, node.ReadsInside cloud offset later :=
        fun later member => inside later (List.mem_cons_of_mem _ member)
      rw [List.foldlM_cons, first]
      simp only [Option.bind_eq_bind, Option.bind_some]
      cases keeps : node.keeps (cloud.flatRing offset index) with
      | false =>
          simp only [Bool.false_eq_true, if_false]
          rw [induction state counter restAddress restInside]
          simp [keptIndices, keeps]
      | true =>
          simp only [if_true]
          rw [induction _ (Nat.mod_lt _ (by norm_num)) restAddress
            restInside]
          simp only [keptIndices, List.filter_cons, keeps, if_true,
            List.map_cons, List.flatten_cons, List.append_assoc,
            List.length_cons, Nat.mod_add_mod]
          congr 3
          omega

/-- The records which the loop keeps, in order. -/
def keptRecords
    (node : ScanPreprocessor) (cloud : PointCloud2) (field : PointField) :
    List (List UInt8) :=
  (node.keptIndices cloud field.offset.toNat
    (List.range cloud.points)).map cloud.flatRecord

/-- What is published once these records are kept. -/
def published
    (cloud : PointCloud2) (records : List (List UInt8)) : PointCloud2 where
  header := cloud.header
  height := 1
  width := UInt32.ofNat records.length
  fields := cloud.fields
  isBigendian := cloud.isBigendian
  pointStep := cloud.pointStep
  rowStep := UInt32.ofNat records.flatten.length
  data := records.flatten
  isDense := cloud.isDense

/-- The published cloud, when the ring field exists and every read is inside. -/
theorem onCloud_of_readsInside
    {node : ScanPreprocessor} {cloud : PointCloud2} {field : PointField}
    (found :
      (cloud.fields.find? fun field => field.name == node.ringField) =
        some field)
    (address :
      ∀ index < cloud.points, index * cloud.pointStep.toNat < 2 ^ 64)
    (inside :
      ∀ index < cloud.points,
        node.ReadsInside cloud field.offset.toNat index) :
    node.onCloud cloud =
      some (published cloud (node.keptRecords cloud field)) := by
  have looped :
      (List.range cloud.points).foldlM
          (node.loopBody cloud field.offset.toNat) ⟨[], 0⟩ = _ :=
    foldlM_loopBody ⟨[], 0⟩ (by norm_num)
      (fun index member => address index (List.mem_range.mp member))
      (fun index member => inside index (List.mem_range.mp member))
  rw [PointCloud2.points] at looped
  simp only [onCloud, found]
  rw [looped]
  simp only [Option.bind_eq_bind, Option.bind_some, List.nil_append,
    Nat.zero_add, UInt32.ofNat_mod_size, published, keptRecords,
    List.length_map, PointCloud2.points]

/-- The published cloud, when every read would be in range. -/
theorem onCloud_of_inRange
    (node : ScanPreprocessor) {cloud : PointCloud2} {field : PointField}
    (found :
      (cloud.fields.find? fun field => field.name == node.ringField) =
        some field)
    (inRange :
      ∀ index < cloud.points, cloud.InRange field.offset.toNat index) :
    node.onCloud cloud =
      some (published cloud (node.keptRecords cloud field)) :=
  onCloud_of_readsInside found
    (fun index visited => (inRange index visited).address)
    (fun index visited => node.readsInside_of_inRange (inRange index visited))

end ScanPreprocessor

end Go2Navigation.Cloud
