import Go2Navigation.Cloud.Reads
import Go2Navigation.Foundation.Records

/-!
# Ring filtering of well-formed clouds

The filter should publish the records whose announced ring value lies within
the thresholds, in row-major order and unaltered.  The loop addresses points
by a flat index and reads the ring in the byte order of the machine.  It
filters exactly the clouds whose layout these two shortcuts do not disturb.
-/

namespace Go2Navigation.Cloud

open Go2Navigation.Foundation

/-- A well-formed cloud with a 16-bit ring field. -/
structure RingCloud where
  cloud : PointCloud2
  ringField : String
  field : PointField
  wellFormed : cloud.WellFormed
  found :
    (cloud.fields.find? fun field => field.name == ringField) = some field
  uint16 : field.datatype = PointField.uint16
  counted : 0 < field.count.toNat

namespace RingCloud

/-- The record at a flat index, as the layout places it. -/
def layoutRecord (input : RingCloud) (index : ℕ) : List UInt8 :=
  input.cloud.record (index / input.cloud.width.toNat)
    (index % input.cloud.width.toNat)

/-- The announced ring value of a record. -/
def ringOf (input : RingCloud) (record : List UInt8) : ℕ :=
  input.cloud.uint16At record input.field.offset.toNat

/-- The records whose ring value lies within the thresholds, in row-major order. -/
def expected (input : RingCloud) (ringMin ringMax : ℤ) : List UInt8 :=
  (List.range input.cloud.height.toNat).flatMap fun row =>
    (List.range input.cloud.width.toNat).flatMap fun column =>
      let record := input.cloud.record row column
      if ringMin ≤ input.ringOf record ∧ input.ringOf record ≤ ringMax then
        record
      else []

/-- The node with this ring field and these thresholds. -/
def node (input : RingCloud) (ringMin ringMax : ℤ) : ScanPreprocessor :=
  ⟨input.ringField, ringMin, ringMax⟩

/-- For all admissible thresholds the published data is as expected. -/
def FiltersExactly (input : RingCloud) : Prop :=
  ∀ ringMin ringMax : ℤ,
    0 ≤ ringMin → ringMin ≤ 65535 → 0 ≤ ringMax → ringMax ≤ 65535 →
      ∃ out,
        (input.node ringMin ringMax).onCloud input.cloud = some out ∧
          out.data = input.expected ringMin ringMax

/--
The flat index addresses the record which the layout places there, and in a
big-endian cloud the two ring bytes of every record are equal.
-/
def LayoutIsFlat (input : RingCloud) : Prop :=
  ∀ index < input.cloud.points,
    input.cloud.flatRecord index = input.layoutRecord index ∧
      (input.cloud.isBigendian = true →
        (input.layoutRecord index).getD input.field.offset.toNat 0 =
          (input.layoutRecord index).getD
            (input.field.offset.toNat + 1) 0)

/-! ## Reads of a well-formed cloud -/

/-- The ring field lies inside the point. -/
theorem ring_inside (input : RingCloud) :
    input.field.offset.toNat + 2 ≤ input.cloud.pointStep.toNat := by
  have member := List.mem_of_find?_eq_some input.found
  rcases input.wellFormed.fields _ member with ⟨size, sizeEq, inside⟩
  have counted := input.counted
  rw [input.uint16] at sizeEq
  have twoBytes : size = 2 := by
    have known : PointField.datatypeSize PointField.uint16 = some 2 := by
      decide
    rw [known] at sizeEq
    exact (Option.some.inj sizeEq).symm
  rw [twoBytes] at inside
  omega

theorem step_pos (input : RingCloud) : 0 < input.cloud.pointStep.toNat := by
  have inside := input.ring_inside
  omega

/-- The records of the layout end inside the data. -/
theorem record_fits
    (input : RingCloud) {row column : ℕ}
    (rowInside : row < input.cloud.height.toNat)
    (columnInside : column < input.cloud.width.toNat) :
    row * input.cloud.rowStep.toNat +
          column * input.cloud.pointStep.toNat +
        input.cloud.pointStep.toNat ≤
      input.cloud.data.length := by
  rw [input.wellFormed.data]
  calc
    row * input.cloud.rowStep.toNat +
            column * input.cloud.pointStep.toNat +
          input.cloud.pointStep.toNat =
        row * input.cloud.rowStep.toNat +
          (column + 1) * input.cloud.pointStep.toNat := by
      rw [Nat.succ_mul, Nat.add_assoc]
    _ ≤ row * input.cloud.rowStep.toNat +
          input.cloud.width.toNat * input.cloud.pointStep.toNat :=
      Nat.add_le_add_left (Nat.mul_le_mul_right _ columnInside) _
    _ ≤ row * input.cloud.rowStep.toNat + input.cloud.rowStep.toNat :=
      Nat.add_le_add_left input.wellFormed.rowStep _
    _ = (row + 1) * input.cloud.rowStep.toNat := (Nat.succ_mul _ _).symm
    _ ≤ input.cloud.rowStep.toNat * input.cloud.height.toNat := by
      rw [Nat.mul_comm]
      exact Nat.mul_le_mul_left _ rowInside

theorem index_split
    (input : RingCloud) {index : ℕ} (visited : index < input.cloud.points) :
    index / input.cloud.width.toNat < input.cloud.height.toNat ∧
      index % input.cloud.width.toNat < input.cloud.width.toNat := by
  have widthPos : 0 < input.cloud.width.toNat := by
    by_contra zero
    rw [PointCloud2.points, Nat.eq_zero_of_not_pos zero,
      Nat.zero_mul] at visited
    exact absurd visited (Nat.not_lt_zero _)
  exact
    ⟨Nat.div_lt_of_lt_mul visited, Nat.mod_lt _ widthPos⟩

theorem length_layoutRecord
    (input : RingCloud) {index : ℕ} (visited : index < input.cloud.points) :
    (input.layoutRecord index).length = input.cloud.pointStep.toNat := by
  rcases input.index_split visited with ⟨rowInside, columnInside⟩
  have fits := input.record_fits rowInside columnInside
  simp only [layoutRecord, PointCloud2.record, List.length_take,
    List.length_drop]
  omega

/-- Every read of the loop is inside the data, and no address wraps. -/
theorem inRange
    (input : RingCloud) {index : ℕ} (visited : index < input.cloud.points) :
    input.cloud.InRange input.field.offset.toNat index := by
  have inside := input.ring_inside
  have fits :
      index * input.cloud.pointStep.toNat + input.cloud.pointStep.toNat ≤
        input.cloud.data.length := by
    rw [input.wellFormed.data]
    calc
      index * input.cloud.pointStep.toNat +
            input.cloud.pointStep.toNat =
          (index + 1) * input.cloud.pointStep.toNat :=
        (Nat.succ_mul _ _).symm
      _ ≤ input.cloud.points * input.cloud.pointStep.toNat :=
        Nat.mul_le_mul_right _ visited
      _ = input.cloud.width.toNat * input.cloud.pointStep.toNat *
            input.cloud.height.toNat := by
        rw [PointCloud2.points, Nat.mul_right_comm]
      _ ≤ input.cloud.rowStep.toNat * input.cloud.height.toNat :=
        Nat.mul_le_mul_right _ input.wellFormed.rowStep
  have small : input.cloud.data.length < 2 ^ 64 := by
    rw [input.wellFormed.data]
    have rowStepSmall := input.cloud.rowStep.toNat_lt
    have heightSmall := input.cloud.height.toNat_lt
    calc
      input.cloud.rowStep.toNat * input.cloud.height.toNat <
          2 ^ 32 * 2 ^ 32 :=
        Nat.mul_lt_mul'' rowStepSmall heightSmall
      _ = 2 ^ 64 := by norm_num
  exact ⟨by omega, by omega, fits⟩

/-! ## What is published, and what should be -/

/-- The ring bytes of a record, read in the byte order of the machine. -/
def machineRing (input : RingCloud) (record : List UInt8) : ℕ :=
  (record.getD input.field.offset.toNat 0).toNat +
    256 * (record.getD (input.field.offset.toNat + 1) 0).toNat

/-- The loop reads the ring bytes of the record at the flat index. -/
theorem flatRing_eq (input : RingCloud) (index : ℕ) :
    input.cloud.flatRing input.field.offset.toNat index =
      input.machineRing (input.cloud.flatRecord index) :=
  PointCloud2.flatRing_eq_ringBytes input.ring_inside index

/-- The machine reads the announced value unless unequal bytes are swapped. -/
theorem machineRing_eq_ringOf_iff
    (input : RingCloud) (record : List UInt8) :
    input.machineRing record = input.ringOf record ↔
      (input.cloud.isBigendian = true →
        record.getD input.field.offset.toNat 0 =
          record.getD (input.field.offset.toNat + 1) 0) := by
  rw [machineRing, ringOf, PointCloud2.uint16At]
  cases input.cloud.isBigendian with
  | false => simp
  | true =>
      simp only [if_true, true_implies, ← UInt8.toNat_inj]
      omega

theorem ringOf_le (input : RingCloud) (record : List UInt8) :
    input.ringOf record ≤ 65535 := by
  have first := (record.getD input.field.offset.toNat 0).toNat_lt
  have second := (record.getD (input.field.offset.toNat + 1) 0).toNat_lt
  rw [ringOf, PointCloud2.uint16At]
  split_ifs <;> omega

theorem machineRing_le (input : RingCloud) (record : List UInt8) :
    input.machineRing record ≤ 65535 :=
  PointCloud2.ringBytes_le record _

/-- The records which should be published, selected by the flat index. -/
theorem expected_eq (input : RingCloud) (ringMin ringMax : ℤ) :
    input.expected ringMin ringMax =
      (((List.range input.cloud.points).filter fun index =>
        decide
          (ringMin ≤ input.ringOf (input.layoutRecord index) ∧
            input.ringOf (input.layoutRecord index) ≤ ringMax)).map
        input.layoutRecord).flatten := by
  rw [expected, flatMap_rowMajor, PointCloud2.points,
    Nat.mul_comm input.cloud.width.toNat, ← flatMap_ite_nil]
  rfl

/-- What the node publishes for thresholds which fit into 16 bits. -/
theorem published_eq
    (input : RingCloud) {ringMin ringMax : ℤ}
    (minNonneg : 0 ≤ ringMin) (minSmall : ringMin ≤ 65535)
    (maxNonneg : 0 ≤ ringMax) (maxSmall : ringMax ≤ 65535) :
    ∃ out,
      (input.node ringMin ringMax).onCloud input.cloud = some out ∧
        out.data =
          (((List.range input.cloud.points).filter fun index =>
            decide
              (ringMin ≤
                  input.machineRing (input.cloud.flatRecord index) ∧
                input.machineRing (input.cloud.flatRecord index) ≤
                  ringMax)).map
            input.cloud.flatRecord).flatten := by
  have found :
      (input.cloud.fields.find? fun field =>
          field.name == (input.node ringMin ringMax).ringField) =
        some input.field :=
    input.found
  refine
    ⟨_,
      ScanPreprocessor.onCloud_of_inRange _ found
        (fun index visited => input.inRange visited),
      ?_⟩
  have sameTest :
      ∀ index,
        (input.node ringMin ringMax).keeps
            (input.cloud.flatRing input.field.offset.toNat index) =
          decide
            (ringMin ≤ input.machineRing (input.cloud.flatRecord index) ∧
              input.machineRing (input.cloud.flatRecord index) ≤
                ringMax) := by
    intro index
    rw [input.flatRing_eq, Bool.eq_iff_iff, decide_eq_true_eq]
    exact keeps_iff_between minNonneg minSmall maxNonneg maxSmall _
  simp only [ScanPreprocessor.published, ScanPreprocessor.keptRecords,
    ScanPreprocessor.keptIndices, sameTest]

/-- Publishing as expected is selecting the same records in the same order. -/
theorem sameRecords_of_filtersExactly
    {input : RingCloud} (exact : input.FiltersExactly)
    {ringMin ringMax : ℤ}
    (minNonneg : 0 ≤ ringMin) (minSmall : ringMin ≤ 65535)
    (maxNonneg : 0 ≤ ringMax) (maxSmall : ringMax ≤ 65535) :
    (((List.range input.cloud.points).filter fun index =>
        decide
          (ringMin ≤ input.machineRing (input.cloud.flatRecord index) ∧
            input.machineRing (input.cloud.flatRecord index) ≤
              ringMax)).map
        input.cloud.flatRecord) =
      (((List.range input.cloud.points).filter fun index =>
        decide
          (ringMin ≤ input.ringOf (input.layoutRecord index) ∧
            input.ringOf (input.layoutRecord index) ≤ ringMax)).map
        input.layoutRecord) := by
  rcases exact ringMin ringMax minNonneg minSmall maxNonneg maxSmall with
    ⟨out, outEq, dataEq⟩
  rcases input.published_eq minNonneg minSmall maxNonneg maxSmall with
    ⟨published, publishedEq, publishedData⟩
  rw [outEq] at publishedEq
  rw [← Option.some.inj publishedEq, dataEq, expected_eq] at publishedData
  apply flatten_injective_of_length input.step_pos ?_ ?_
    publishedData.symm
  · intro record member
    rcases List.mem_map.mp member with ⟨index, selected, rfl⟩
    have visited := List.mem_range.mp (List.mem_filter.mp selected).1
    exact (input.inRange visited).length_flatRecord
  · intro record member
    rcases List.mem_map.mp member with ⟨index, selected, rfl⟩
    have visited := List.mem_range.mp (List.mem_filter.mp selected).1
    exact input.length_layoutRecord visited

/-- With every record kept, each flat record is the one the layout places. -/
theorem flatRecord_of_filtersExactly
    {input : RingCloud} (exact : input.FiltersExactly)
    {index : ℕ} (visited : index < input.cloud.points) :
    input.cloud.flatRecord index = input.layoutRecord index := by
  have same :=
    sameRecords_of_filtersExactly exact le_rfl (by norm_num)
      (by norm_num) le_rfl
  have allFlat :
      ∀ index,
        (0 : ℤ) ≤ input.machineRing (input.cloud.flatRecord index) ∧
          (input.machineRing (input.cloud.flatRecord index) : ℤ) ≤
            65535 := by
    intro index
    have small := input.machineRing_le (input.cloud.flatRecord index)
    omega
  have allLayout :
      ∀ index,
        (0 : ℤ) ≤ input.ringOf (input.layoutRecord index) ∧
          (input.ringOf (input.layoutRecord index) : ℤ) ≤ 65535 := by
    intro index
    have small := input.ringOf_le (input.layoutRecord index)
    omega
  simp only [allFlat, allLayout, and_self, decide_true,
    List.filter_true] at same
  exact
    List.map_inj_left.mp same index (List.mem_range.mpr visited)

/-- With one ring value kept, the machine reads the announced value. -/
theorem machineRing_of_filtersExactly
    {input : RingCloud} (exact : input.FiltersExactly)
    {index : ℕ} (visited : index < input.cloud.points) :
    input.machineRing (input.layoutRecord index) =
      input.ringOf (input.layoutRecord index) := by
  have recordEq := flatRecord_of_filtersExactly exact visited
  generalize valueEq :
    input.machineRing (input.layoutRecord index) = value
  have small : value ≤ 65535 := valueEq ▸ input.machineRing_le _
  have same :=
    sameRecords_of_filtersExactly exact
      (by omega : (0 : ℤ) ≤ value) (by omega) (by omega)
      (by omega : (value : ℤ) ≤ 65535)
  have kept :
      input.cloud.flatRecord index ∈
        ((List.range input.cloud.points).filter fun index =>
          decide
            ((value : ℤ) ≤
                input.machineRing (input.cloud.flatRecord index) ∧
              (input.machineRing (input.cloud.flatRecord index) : ℤ) ≤
                value)).map
          input.cloud.flatRecord := by
    apply List.mem_map_of_mem
    apply List.mem_filter.mpr
    refine ⟨List.mem_range.mpr visited, ?_⟩
    simp [recordEq, valueEq]
  rw [same] at kept
  rcases List.mem_map.mp kept with ⟨other, selected, otherEq⟩
  have otherRing := of_decide_eq_true (List.mem_filter.mp selected).2
  rw [otherEq, recordEq] at otherRing
  omega

theorem layoutIsFlat_of_filtersExactly
    {input : RingCloud} (exact : input.FiltersExactly) :
    input.LayoutIsFlat := by
  intro index visited
  refine ⟨flatRecord_of_filtersExactly exact visited, ?_⟩
  exact
    (input.machineRing_eq_ringOf_iff _).mp
      (machineRing_of_filtersExactly exact visited)

theorem filtersExactly_of_layoutIsFlat
    {input : RingCloud} (flat : input.LayoutIsFlat) :
    input.FiltersExactly := by
  intro ringMin ringMax minNonneg minSmall maxNonneg maxSmall
  rcases input.published_eq minNonneg minSmall maxNonneg maxSmall with
    ⟨out, outEq, dataEq⟩
  refine ⟨out, outEq, ?_⟩
  have sameRing :
      ∀ index < input.cloud.points,
        input.machineRing (input.cloud.flatRecord index) =
          input.ringOf (input.layoutRecord index) := by
    intro index visited
    rw [(flat index visited).1]
    exact
      (input.machineRing_eq_ringOf_iff _).mpr (flat index visited).2
  rw [dataEq, expected_eq]
  congr 1
  rw [List.filter_congr fun index member =>
    show
      decide
          (ringMin ≤ input.machineRing (input.cloud.flatRecord index) ∧
            input.machineRing (input.cloud.flatRecord index) ≤ ringMax) =
        decide
          (ringMin ≤ input.ringOf (input.layoutRecord index) ∧
            input.ringOf (input.layoutRecord index) ≤ ringMax) by
      rw [sameRing index (List.mem_range.mp member)]]
  apply List.map_congr_left
  intro index selected
  have visited := List.mem_range.mp (List.mem_filter.mp selected).1
  exact (flat index visited).1

/-- Unpadded rows, or a single one, in the byte order of the machine are flat. -/
theorem layoutIsFlat_of_unpadded
    {input : RingCloud}
    (unpadded :
      input.cloud.rowStep.toNat =
          input.cloud.width.toNat * input.cloud.pointStep.toNat ∨
        input.cloud.height.toNat ≤ 1)
    (littleEndian : input.cloud.isBigendian = false) :
    input.LayoutIsFlat := by
  intro index visited
  refine ⟨?_, by simp [littleEndian]⟩
  have divMod := Nat.div_add_mod' index input.cloud.width.toNat
  have rowInside := (input.index_split visited).1
  rw [PointCloud2.flatRecord, layoutRecord, PointCloud2.record]
  congr 2
  rcases unpadded with tight | single
  · rw [tight, ← Nat.mul_assoc, ← Nat.add_mul, divMod]
  · have firstRow : index / input.cloud.width.toNat = 0 :=
      Nat.lt_one_iff.mp (rowInside.trans_le single)
    rw [firstRow, Nat.zero_mul, Nat.zero_add] at divMod
    rw [firstRow, Nat.zero_mul, Nat.zero_add, divMod]

/--
The filter is exact for all thresholds on exactly the well-formed clouds
whose layout is flat.
-/
theorem filtersExactly_iff_layoutIsFlat (input : RingCloud) :
    input.FiltersExactly ↔ input.LayoutIsFlat :=
  ⟨layoutIsFlat_of_filtersExactly, filtersExactly_of_layoutIsFlat⟩

end RingCloud

/-! ## Two clouds which are not filtered exactly -/

/-- Two rows of one point of ring 7, each padded with two bytes. -/
def paddedCloud : RingCloud where
  cloud :=
    { header := ⟨⟨0, 0⟩, "hesai_lidar"⟩
      height := 2
      width := 1
      fields := [ringOnly]
      isBigendian := false
      pointStep := 2
      rowStep := 4
      data := [7, 0, 255, 255, 7, 0, 255, 255]
      isDense := true }
  ringField := "ring"
  field := ringOnly
  wellFormed := by
    refine ⟨by decide, by decide, ?_⟩
    intro field member
    rw [List.mem_singleton.mp member]
    exact ⟨2, by decide, by decide⟩
  found := rfl
  uint16 := rfl
  counted := by decide

/-- One big-endian point of ring 7. -/
def bigEndianCloud : RingCloud where
  cloud :=
    { header := ⟨⟨0, 0⟩, "hesai_lidar"⟩
      height := 1
      width := 1
      fields := [ringOnly]
      isBigendian := true
      pointStep := 2
      rowStep := 2
      data := [0, 7]
      isDense := true }
  ringField := "ring"
  field := ringOnly
  wellFormed := by
    refine ⟨by decide, by decide, ?_⟩
    intro field member
    rw [List.mem_singleton.mp member]
    exact ⟨2, by decide, by decide⟩
  found := rfl
  uint16 := rfl
  counted := by decide

/-- Padding is read as a point, and the swapped ring value loses its point. -/
theorem not_filtersExactly :
    ¬ paddedCloud.FiltersExactly ∧ ¬ bigEndianCloud.FiltersExactly := by
  constructor
  · intro exact
    have visited : 1 < paddedCloud.cloud.points := by decide
    have flat := RingCloud.flatRecord_of_filtersExactly exact visited
    exact absurd flat (by decide)
  · intro exact
    have visited : 0 < bigEndianCloud.cloud.points := by decide
    have ring := RingCloud.machineRing_of_filtersExactly exact visited
    exact absurd ring (by decide)

end Go2Navigation.Cloud
