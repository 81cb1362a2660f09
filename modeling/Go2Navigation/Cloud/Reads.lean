import Go2Navigation.Cloud.Preprocessor

/-!
# The reads of the ring filter

The loop trusts the message: width, height, point step, field offset and data
length are never compared.  The addresses grow with the flat index, so the
reads of all points are inside the data exactly if those of the last one are.
-/

namespace Go2Navigation.Cloud

/-- A received message: its data is a vector, and no longer than a vector can be. -/
structure ReceivedCloud where
  cloud : PointCloud2
  fits : cloud.data.length < 2 ^ 63

namespace ScanPreprocessor

/-- If there is a ring field, every read of the loop is inside the data. -/
def ReadsOnlyData (node : ScanPreprocessor) (cloud : PointCloud2) : Prop :=
  ∀ field ∈ cloud.fields.find? (fun field => field.name == node.ringField),
    ∀ index < cloud.points,
      node.ReadsInside cloud field.offset.toNat index

/-- If there is a ring field, the cloud is empty or its last point is inside the data. -/
def LastPointInside (node : ScanPreprocessor) (cloud : PointCloud2) : Prop :=
  ∀ field ∈ cloud.fields.find? (fun field => field.name == node.ringField),
    cloud.points = 0 ∨
      node.ReadsInside cloud field.offset.toNat (cloud.points - 1)

end ScanPreprocessor

/-! ## Addresses do not wrap before a read is outside -/

namespace ReceivedCloud

variable (input : ReceivedCloud)

theorem address_of_readsInside
    {node : ScanPreprocessor} {offset index : ℕ}
    (inside : node.ReadsInside input.cloud offset index) :
    (index + 1) * input.cloud.pointStep.toNat < 2 ^ 64 := by
  have ring := inside.ring
  have fits := input.fits
  have step := input.cloud.pointStep.toNat_lt
  rw [Nat.succ_mul]
  omega

/-- While all earlier reads are inside the data, the next address does not wrap. -/
theorem address_of_earlier
    {node : ScanPreprocessor} {offset count : ℕ}
    (inside : ∀ index < count, node.ReadsInside input.cloud offset index) :
    ∀ index ≤ count, index * input.cloud.pointStep.toNat < 2 ^ 64 := by
  intro index notLater
  cases index with
  | zero => simp
  | succ index =>
      exact input.address_of_readsInside (inside index notLater)

/-- The loop over the first points has a result exactly if their reads are inside. -/
theorem foldlM_isSome_iff
    (node : ScanPreprocessor) (offset count : ℕ) :
    ((List.range count).foldlM (node.loopBody input.cloud offset)
        ⟨[], 0⟩).isSome = true ↔
      ∀ index < count, node.ReadsInside input.cloud offset index := by
  induction count with
  | zero => simp
  | succ count induction =>
      rw [List.range_succ, List.foldlM_append, Option.isSome_iff_exists]
      constructor
      · rintro ⟨final, finalEq⟩
        rcases Option.bind_eq_some_iff.mp finalEq with
          ⟨state, stateEq, lastEq⟩
        have earlier := induction.mp (by simp [stateEq])
        intro index visited
        rcases Nat.lt_succ_iff_lt_or_eq.mp visited with before | rfl
        · exact earlier index before
        · by_contra outside
          have undefined :=
            ScanPreprocessor.loopBody_eq_none state
              (input.address_of_earlier earlier index le_rfl) outside
          simp [undefined] at lastEq
      · intro inside
        have earlier :
            ∀ index < count,
              node.ReadsInside input.cloud offset index :=
          fun index visited => inside index (Nat.lt_succ_of_lt visited)
        rcases Option.isSome_iff_exists.mp (induction.mpr earlier) with
          ⟨state, stateEq⟩
        have lastEq :=
          ScanPreprocessor.loopBody_of_readsInside state
            (input.address_of_earlier earlier count le_rfl)
            (inside count (Nat.lt_succ_self count))
        rw [stateEq]
        simp [lastEq]

/-- The callback has a defined result exactly if it reads only the data. -/
theorem onCloud_isSome_iff (node : ScanPreprocessor) :
    (node.onCloud input.cloud).isSome = true ↔
      node.ReadsOnlyData input.cloud := by
  cases found :
    input.cloud.fields.find? fun field => field.name == node.ringField with
  | none =>
      simp [ScanPreprocessor.onCloud, ScanPreprocessor.ReadsOnlyData,
        found]
  | some field =>
      have looped :=
        input.foldlM_isSome_iff node field.offset.toNat
          input.cloud.points
      simp only [ScanPreprocessor.ReadsOnlyData, found, Option.mem_def,
        Option.some.injEq, forall_eq']
      rw [← looped, ScanPreprocessor.onCloud, found]
      simp [Option.isSome_bind, PointCloud2.points]

end ReceivedCloud

namespace ScanPreprocessor

/-- The reads of a point which is not the last one are inside with those of the last. -/
theorem ReadsInside.earlier
    {node : ScanPreprocessor} {cloud : PointCloud2}
    {offset index last : ℕ} (before : index < last)
    (inside : node.ReadsInside cloud offset last) :
    node.ReadsInside cloud offset index := by
  have ring := inside.ring
  have nextLe :
      index * cloud.pointStep.toNat + cloud.pointStep.toNat ≤
        last * cloud.pointStep.toNat := by
    rw [← Nat.succ_mul]
    exact Nat.mul_le_mul_right _ before
  exact ⟨by omega, fun _ => by omega⟩

theorem readsOnlyData_iff
    (node : ScanPreprocessor) (cloud : PointCloud2) :
    node.ReadsOnlyData cloud ↔ node.LastPointInside cloud := by
  apply forall₂_congr
  intro field _
  constructor
  · intro inside
    rcases Nat.eq_zero_or_pos cloud.points with empty | nonempty
    · exact Or.inl empty
    · exact Or.inr (inside _ (Nat.sub_lt nonempty one_pos))
  · rintro (empty | last) index visited
    · rw [empty] at visited
      exact absurd visited (Nat.not_lt_zero index)
    · rcases Nat.lt_or_eq_of_le (Nat.le_sub_one_of_lt visited) with
        before | rfl
      · exact last.earlier before
      · exact last

end ScanPreprocessor

/--
The callback reads only the data, and has a defined result, for exactly the
messages whose last point is inside the data.
-/
theorem ReceivedCloud.onCloud_safe_iff
    (input : ReceivedCloud) (node : ScanPreprocessor) :
    (node.ReadsOnlyData input.cloud ↔
        node.LastPointInside input.cloud) ∧
      ((node.onCloud input.cloud).isSome = true ↔
        node.LastPointInside input.cloud) := by
  have inside := node.readsOnlyData_iff input.cloud
  exact ⟨inside, (input.onCloud_isSome_iff node).trans inside⟩

/-! ## A point without data -/

/-- A field of 16-bit ring values at the start of each point. -/
def ringOnly : PointField :=
  ⟨"ring", 0, PointField.uint16, 1⟩

/-- One point is announced, and none is sent. -/
def dataless : ReceivedCloud where
  cloud :=
    { header := ⟨⟨0, 0⟩, "hesai_lidar"⟩
      height := 1
      width := 1
      fields := [ringOnly]
      isBigendian := false
      pointStep := 2
      rowStep := 2
      data := []
      isDense := true }
  fits := by decide

/-- The ring of the announced point is read from beyond the data. -/
theorem not_readsOnlyData :
    ¬ ∀ (node : ScanPreprocessor) (input : ReceivedCloud),
      node.ReadsOnlyData input.cloud := by
  intro safe
  have inside := safe ⟨"ring", 7, 8⟩ dataless ringOnly rfl 0 (by decide)
  exact absurd inside.ring (by decide)

end Go2Navigation.Cloud
