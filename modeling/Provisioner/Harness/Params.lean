import Provisioner.Peers
import Provisioner.Labels
import Provisioner.Harness.Duration
import Provisioner.Harness.Strategy

/-! The parameters of the performance harness and the seven environment entries it reads from
its config map. -/

namespace Provisioner

def harnessPort : Nat := 8080

def peerPort : Nat := 8080

def notificationServiceName : String := "notification-service"

def configMapName : String := "performance-test-configmap"

def jobName : String := "performance-test"

def notificationServiceAddress : String :=
  "http://" ++ notificationServiceName ++ ":" ++ toString harnessPort

structure HarnessParams where
  peers : Topology := ⟨[]⟩
  singleRequests : Nat := 1
  multipleRequests : Nat := 0
  testDuration : Duration := Duration.oneSecond
  maxPeersetsInChange : Nat := 2
  strategy : Strategy := .delayOnConflicts

/-- The environment entries of the harness, keys ascending. -/
def HarnessParams.data (p : HarnessParams) : LabelMap := LabelMap.ofList [
  ("TEST_PEERS", p.peers.descriptor peerPort),
  ("NOTIFICATION_SERVICE_ADDRESS", notificationServiceAddress),
  ("SINGLE_PEERSET_CHANGES_NUMBER", toString p.singleRequests),
  ("MULTIPLE_PEERSET_CHANGES_NUMBER", toString p.multipleRequests),
  ("TEST_DURATION", p.testDuration.text),
  ("MAX_PEERSETS_IN_CHANGE", toString p.maxPeersetsInChange),
  ("TESTS_STRATEGY", p.strategy.text)]

end Provisioner
