import Go2Navigation.Foundation.Stamp

/-!
# Point clouds

`sensor_msgs/PointCloud2`, the layout its definition announces, and the
values read from it.
-/

namespace Go2Navigation.Cloud

open Go2Navigation.Foundation

structure Header where
  stamp : Stamp
  frameId : String
deriving DecidableEq

structure PointField where
  name : String
  offset : UInt32
  datatype : UInt8
  count : UInt32
deriving DecidableEq

namespace PointField

/-- The constant `UINT16`. -/
def uint16 : UInt8 := 4

/-- The size in bytes of one value of a datatype. -/
def datatypeSize (datatype : UInt8) : Option ℕ :=
  if datatype = 1 ∨ datatype = 2 then some 1
  else if datatype = 3 ∨ datatype = 4 then some 2
  else if datatype = 5 ∨ datatype = 6 ∨ datatype = 7 then some 4
  else if datatype = 8 then some 8
  else none

end PointField

structure PointCloud2 where
  header : Header
  height : UInt32
  width : UInt32
  fields : List PointField
  isBigendian : Bool
  pointStep : UInt32
  rowStep : UInt32
  data : List UInt8
  isDense : Bool
deriving DecidableEq

namespace PointCloud2

/-- The record which the layout places in a row and column. -/
def record (cloud : PointCloud2) (row column : ℕ) : List UInt8 :=
  (cloud.data.drop
    (row * cloud.rowStep.toNat + column * cloud.pointStep.toNat)).take
      cloud.pointStep.toNat

/-- A 16-bit value in the announced byte order. -/
def uint16At
    (cloud : PointCloud2) (record : List UInt8) (offset : ℕ) : ℕ :=
  let first := (record.getD offset 0).toNat
  let second := (record.getD (offset + 1) 0).toNat
  if cloud.isBigendian then 256 * first + second
  else first + 256 * second

/--
A cloud as its message definition announces it: rows hold their points and
perhaps padding, the data holds the rows, and a point holds its fields.
-/
structure WellFormed (cloud : PointCloud2) : Prop where
  rowStep :
    cloud.width.toNat * cloud.pointStep.toNat ≤ cloud.rowStep.toNat
  data : cloud.data.length = cloud.rowStep.toNat * cloud.height.toNat
  fields :
    ∀ field ∈ cloud.fields,
      ∃ size, PointField.datatypeSize field.datatype = some size ∧
        field.offset.toNat + field.count.toNat * size ≤
          cloud.pointStep.toNat

end PointCloud2

end Go2Navigation.Cloud
