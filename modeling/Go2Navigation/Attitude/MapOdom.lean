import Go2Navigation.Attitude.Transform
import Go2Navigation.Foundation.Reactor

/-!
# The map to odometry broadcaster

`MapOdomBroadcaster` holds one transform, the identity at first.  A timer
sends it, and each initial pose replaces its translation and rotation.
-/

namespace Go2Navigation.Attitude

open Go2Navigation.Foundation

universe u

/-- `pose.pose` of `geometry_msgs/PoseWithCovarianceStamped`. -/
structure Pose (K : Type u) where
  position : Vector3 K
  orientation : QuaternionMsg K

/-- The member of the node which its callbacks use. -/
structure MapOdomBroadcaster (K : Type u) where
  transform : TransformStamped K

/-- A tick of the timer, at which `now()` reads the time, or a message. -/
inductive MapOdomEvent (K : Type u) where
  | publish (now : Stamp)
  | initialpose (msg : Pose K)

variable {K : Type u}

namespace MapOdomBroadcaster

def construct [RatCast K] (mapFrame odomFrame : String) :
    MapOdomBroadcaster K where
  transform :=
    { stamp := ⟨0, 0⟩
      frameId := mapFrame
      childFrameId := odomFrame
      translation := ⟨literal 0, literal 0, literal 0⟩
      rotation := ⟨literal 0, literal 0, literal 0, literal 1⟩ }

def publish (node : MapOdomBroadcaster K) (now : Stamp) :
    MapOdomBroadcaster K × List (TransformStamped K) :=
  let transform := { node.transform with stamp := now }
  ({ transform := transform }, [transform])

def onInitialpose (node : MapOdomBroadcaster K) (msg : Pose K) :
    MapOdomBroadcaster K where
  transform :=
    { node.transform with
      translation := msg.position
      rotation := msg.orientation }

end MapOdomBroadcaster

def mapOdomReactor :
    Reactor (MapOdomBroadcaster K) (MapOdomEvent K)
      (TransformStamped K) where
  step
    | node, .publish now => node.publish now
    | node, .initialpose msg => (node.onInitialpose msg, [])

end Go2Navigation.Attitude
