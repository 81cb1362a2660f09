import Go2Navigation.Cloud.Thresholds
import Go2Navigation.Foundation.Records

/-!
# Ring filters in sequence

A filtered cloud has the record layout of its input, so it can be filtered
again.  The second pass reads the records which the first one emitted, and
filters compose by intersecting their windows.
-/

namespace Go2Navigation.Cloud

open Go2Navigation.Foundation

/-- Thresholds which are ring values. -/
structure RingWindow where
  ringMin : ℤ
  ringMax : ℤ
  minNonneg : 0 ≤ ringMin
  minSmall : ringMin ≤ 65535
  maxNonneg : 0 ≤ ringMax
  maxSmall : ringMax ≤ 65535

namespace RingWindow

/-- The window of the ring values in both windows. -/
def inter (first second : RingWindow) : RingWindow where
  ringMin := max first.ringMin second.ringMin
  ringMax := min first.ringMax second.ringMax
  minNonneg := le_max_of_le_left first.minNonneg
  minSmall := max_le first.minSmall second.minSmall
  maxNonneg := le_min first.maxNonneg second.maxNonneg
  maxSmall := min_le_of_left_le first.maxSmall

theorem inter_self (window : RingWindow) : window.inter window = window := by
  simp [inter]

theorem inter_comm (first second : RingWindow) :
    first.inter second = second.inter first := by
  simp [inter, max_comm, min_comm]

/-- The ring value lies in the window. -/
def Holds (window : RingWindow) (ring : ℕ) : Prop :=
  Between window.ringMin window.ringMax ring

instance (window : RingWindow) (ring : ℕ) : Decidable (window.Holds ring) :=
  inferInstanceAs (Decidable (Between _ _ _))

theorem holds_inter (first second : RingWindow) (ring : ℕ) :
    (first.inter second).Holds ring ↔
      first.Holds ring ∧ second.Holds ring := by
  simp only [Holds, Between, inter, max_le_iff, le_min_iff]
  tauto

end RingWindow

/--
A little-endian cloud with a 16-bit ring field inside its points, data for
every point, and fewer than 2^32 bytes.
-/
structure FilterInput where
  cloud : PointCloud2
  ringField : String
  field : PointField
  littleEndian : cloud.isBigendian = false
  found :
    (cloud.fields.find? fun field => field.name == ringField) = some field
  uint16 : field.datatype = PointField.uint16
  inside : field.offset.toNat + 2 ≤ cloud.pointStep.toNat
  holds : cloud.points * cloud.pointStep.toNat ≤ cloud.data.length
  fits : cloud.data.length < 2 ^ 32

namespace FilterInput

variable (input : FilterInput)

/-- The node which filters for a window. -/
def node (window : RingWindow) : ScanPreprocessor :=
  ⟨input.ringField, window.ringMin, window.ringMax⟩

/-- The records of all points. -/
def records : List (List UInt8) :=
  (List.range input.cloud.points).map input.cloud.flatRecord

/-- The records of the points in a window. -/
def kept (window : RingWindow) : List (List UInt8) :=
  input.records.filter fun record =>
    decide
      (window.Holds
        (PointCloud2.ringBytes record input.field.offset.toNat))

theorem inRange {index : ℕ} (visited : index < input.cloud.points) :
    input.cloud.InRange input.field.offset.toNat index := by
  have inside := input.inside
  have fits := input.fits
  have record :
      index * input.cloud.pointStep.toNat + input.cloud.pointStep.toNat ≤
        input.cloud.data.length := by
    rw [← Nat.succ_mul]
    exact (Nat.mul_le_mul_right _ visited).trans input.holds
  exact ⟨by omega, by omega, record⟩

theorem length_of_mem_records :
    ∀ record ∈ input.records,
      record.length = input.cloud.pointStep.toNat := by
  intro record member
  rcases List.mem_map.mp member with ⟨index, visited, rfl⟩
  exact (input.inRange (List.mem_range.mp visited)).length_flatRecord

theorem length_of_mem_kept (window : RingWindow) :
    ∀ record ∈ input.kept window,
      record.length = input.cloud.pointStep.toNat :=
  fun record member =>
    input.length_of_mem_records record (List.mem_of_mem_filter member)

/-- The kept records fit where all records fit. -/
theorem length_kept_mul_le (window : RingWindow) :
    (input.kept window).length * input.cloud.pointStep.toNat ≤
      input.cloud.data.length := by
  have fewer : (input.kept window).length ≤ input.cloud.points := by
    calc
      (input.kept window).length ≤ input.records.length :=
        List.length_filter_le _ _
      _ = input.cloud.points := by simp [records]
  exact (Nat.mul_le_mul_right _ fewer).trans input.holds

theorem length_kept_lt (window : RingWindow) :
    (input.kept window).length < 2 ^ 32 := by
  have bytes := input.length_kept_mul_le window
  have inside := input.inside
  have fits := input.fits
  have onePerPoint :
      (input.kept window).length ≤
        (input.kept window).length * input.cloud.pointStep.toNat :=
    Nat.le_mul_of_pos_right _ (by omega)
  omega

/-- The loop keeps the records in the window. -/
theorem keptRecords_eq (window : RingWindow) :
    (input.node window).keptRecords input.cloud input.field =
      input.kept window := by
  have sameTest :
      ∀ index,
        (input.node window).keeps
            (input.cloud.flatRing input.field.offset.toNat index) =
          decide
            (window.Holds
              (PointCloud2.ringBytes (input.cloud.flatRecord index)
                input.field.offset.toNat)) := by
    intro index
    rw [PointCloud2.flatRing_eq_ringBytes input.inside,
      Bool.eq_iff_iff, decide_eq_true_eq]
    exact
      keeps_iff_between window.minNonneg window.minSmall window.maxNonneg
        window.maxSmall _
  simp only [ScanPreprocessor.keptRecords, ScanPreprocessor.keptIndices,
    sameTest, kept, records, List.filter_map, Function.comp_def]

/-- The cloud published for a window. -/
def output (window : RingWindow) : PointCloud2 :=
  ScanPreprocessor.published input.cloud (input.kept window)

theorem onCloud_eq (window : RingWindow) :
    (input.node window).onCloud input.cloud =
      some (input.output window) := by
  rw [ScanPreprocessor.onCloud_of_inRange (input.node window) input.found
    fun index visited => input.inRange visited, keptRecords_eq, output]

/-! ## The published cloud -/

section Output

variable (window : RingWindow)

theorem output_width :
    (input.output window).width.toNat = (input.kept window).length := by
  rw [output, ScanPreprocessor.published, UInt32.toNat_ofNat']
  exact Nat.mod_eq_of_lt (input.length_kept_lt window)

theorem output_points :
    (input.output window).points = (input.kept window).length := by
  rw [PointCloud2.points, output_width]
  exact Nat.mul_one _

theorem output_data_length :
    (input.output window).data.length =
      (input.kept window).length * input.cloud.pointStep.toNat :=
  length_flatten_of_length (input.length_of_mem_kept window)

theorem output_rowStep :
    (input.output window).rowStep.toNat =
      (input.output window).data.length := by
  have short : (input.output window).data.length < 2 ^ 32 := by
    rw [output_data_length]
    exact (input.length_kept_mul_le window).trans_lt input.fits
  rw [output, ScanPreprocessor.published, UInt32.toNat_ofNat']
  exact Nat.mod_eq_of_lt short

/-- The published cloud can be filtered again. -/
def filtered : FilterInput where
  cloud := input.output window
  ringField := input.ringField
  field := input.field
  littleEndian := input.littleEndian
  found := input.found
  uint16 := input.uint16
  inside := input.inside
  holds := by
    rw [output_points, output_data_length]
    exact le_rfl
  fits := by
    rw [output_data_length]
    exact (input.length_kept_mul_le window).trans_lt input.fits

/-- The records read by a second pass are the ones emitted by the first. -/
theorem filtered_records :
    (input.filtered window).records = input.kept window := by
  have windows := map_window_flatten (input.length_of_mem_kept window)
  rw [← input.output_points window] at windows
  exact windows

end Output

/-- Two passes keep what one pass keeps for the intersection. -/
theorem filtered_kept (first second : RingWindow) :
    (input.filtered first).kept second =
      input.kept (first.inter second) := by
  rw [kept, filtered_records, kept, kept, List.filter_filter]
  apply List.filter_congr
  intro record _
  rw [← Bool.decide_and]
  apply decide_eq_decide.mpr
  rw [RingWindow.holds_inter, and_comm]
  rfl

theorem filtered_output (first second : RingWindow) :
    (input.filtered first).output second =
      input.output (first.inter second) := by
  rw [output, filtered_kept]
  rfl

/-- The points whose ring value lies in a window. -/
def keptCount (window : RingWindow) : ℕ :=
  ((List.range input.cloud.points).filter fun index =>
    decide
      (window.Holds
        (input.cloud.flatRing input.field.offset.toNat index))).length

theorem length_kept (window : RingWindow) :
    (input.kept window).length = input.keptCount window := by
  simp only [kept, records, keptCount, List.filter_map, List.length_map,
    Function.comp_def, PointCloud2.flatRing_eq_ringBytes input.inside]

/--
A filter publishes a consistent unorganised cloud of the points in its
window.  A second filter on it publishes what one filter for the intersection
publishes of the original, so a filter is idempotent and two commute.
-/
theorem onCloud_onCloud (first second : RingWindow) :
    ∃ out,
      (input.node first).onCloud input.cloud = some out ∧
        (out.height = 1 ∧
          out.width.toNat = input.keptCount first ∧
            out.rowStep.toNat = out.data.length ∧
              out.data.length =
                out.width.toNat * out.pointStep.toNat) ∧
          (input.node second).onCloud out =
              (input.node (first.inter second)).onCloud input.cloud ∧
            (input.node first).onCloud out = some out ∧
              ∃ other,
                (input.node second).onCloud input.cloud = some other ∧
                  (input.node second).onCloud out =
                    (input.node first).onCloud other := by
  have again :
      ∀ before after : RingWindow,
        (input.node after).onCloud (input.output before) =
          some (input.output (before.inter after)) := by
    intro before after
    rw [← filtered_output]
    exact (input.filtered before).onCloud_eq after
  refine
    ⟨_, input.onCloud_eq first, ⟨rfl, ?_, input.output_rowStep first, ?_⟩,
      ?_, ?_, _, input.onCloud_eq second, ?_⟩
  · rw [output_width, length_kept]
  · rw [output_data_length, output_width]
    rfl
  · rw [again, onCloud_eq]
  · rw [again, RingWindow.inter_self]
  · rw [again, again, RingWindow.inter_comm]

/-- Two rows of two points, of the rings 5, 7, 8 and 12. -/
def organisedCloud : PointCloud2 where
  header := ⟨⟨0, 0⟩, "hesai_lidar"⟩
  height := 2
  width := 2
  fields := [ringOnly]
  isBigendian := false
  pointStep := 2
  rowStep := 4
  data := [5, 0, 7, 0, 8, 0, 12, 0]
  isDense := true

theorem ringOnly_uint16 : ringOnly.datatype = PointField.uint16 :=
  rfl

theorem organisedCloud_holds :
    organisedCloud.points * organisedCloud.pointStep.toNat ≤
      organisedCloud.data.length := by
  decide

theorem organisedCloud_fits : organisedCloud.data.length < 2 ^ 32 := by
  decide

def organised : FilterInput where
  cloud := organisedCloud
  ringField := "ring"
  field := ringOnly
  littleEndian := rfl
  found := rfl
  uint16 := ringOnly_uint16
  inside := le_rfl
  holds := organisedCloud_holds
  fits := organisedCloud_fits

example :
    ((ScanPreprocessor.mk "ring" 7 12).onCloud organisedCloud).bind
        (ScanPreprocessor.mk "ring" 0 8).onCloud =
      (ScanPreprocessor.mk "ring" 7 8).onCloud organisedCloud := by
  decide

end FilterInput

end Go2Navigation.Cloud
