import Mathlib.Logic.Function.Basic
import CriDockerd.Lib.Reachable
import CriDockerd.Lib.Text

/-! The plugin manager (`network/plugins.go`): it keeps a lock for each pod that has a network operation in
    flight, so that the plugin works on one operation of a pod at a time. The step that looks a lock up and
    the one that gives it back are atomic, under `podsLock`; between them a call waits for the mutex of the
    lock, and holds it while it is in the plugin. -/

namespace CriDockerd.Network
open Text

/-! ### Locks -/

/-- `podLock`: the operations in flight, and whether the mutex is locked. -/
structure PodLock where
  refcount : Nat
  locked : Bool
  deriving DecidableEq, Repr

/-- The map of the manager, from the full names of pods to pointers, with the locks that they point to. -/
structure PluginManager where
  pods : Text → Option Nat
  locks : Nat → PodLock
  nextLock : Nat

def newPluginManager : PluginManager :=
  { pods := fun _ => none, locks := fun _ => ⟨0, false⟩, nextLock := 0 }

namespace PluginManager

def setLock (lock : Nat) (value : PodLock) (pm : PluginManager) : PluginManager :=
  { pm with locks := Function.update pm.locks lock value }

def setPod (fullPodName : Text) (lock : Option Nat) (pm : PluginManager) : PluginManager :=
  { pm with pods := Function.update pm.pods fullPodName lock }

@[simp] theorem setPod_locks (fullPodName : Text) (lock : Option Nat) (pm : PluginManager) :
    (pm.setPod fullPodName lock).locks = pm.locks := rfl

theorem setLock_locks_self (lock : Nat) (value : PodLock) (pm : PluginManager) : (pm.setLock lock value).locks lock = value :=
  Function.update_self _ _ _

theorem setLock_locks_of_ne {lock lock' : Nat} (h : lock' ≠ lock) (value : PodLock) (pm : PluginManager) :
    (pm.setLock lock value).locks lock' = pm.locks lock' := Function.update_of_ne h _ _

theorem setPod_pods_self (fullPodName : Text) (lock : Option Nat) (pm : PluginManager) :
    (pm.setPod fullPodName lock).pods fullPodName = lock := Function.update_self _ _ _

theorem setPod_pods_of_ne {fullPodName name : Text} (h : name ≠ fullPodName) (lock : Option Nat) (pm : PluginManager) :
    (pm.setPod fullPodName lock).pods name = pm.pods name := Function.update_of_ne h _ _

/-- Locks a mutex that is free. -/
def lockMutex (lock : Nat) (pm : PluginManager) : PluginManager :=
  pm.setLock lock { pm.locks lock with locked := true }

/-- The lock of a pod, which is added when it is not there; the call is counted. -/
def podLock (fullPodName : Text) (pm : PluginManager) : Nat × PluginManager :=
  match pm.pods fullPodName with
  | some lock => (lock, pm.setLock lock { pm.locks lock with refcount := (pm.locks lock).refcount + 1 })
  | none =>
    (pm.nextLock, { pm.setPod fullPodName (some pm.nextLock) with nextLock := pm.nextLock + 1 }.setLock pm.nextLock ⟨1, false⟩)

end PluginManager

/-- How `podUnlock` ends. To unlock a mutex that is not locked is a fatal error. -/
inductive Unlock where
  | unbalanced
  | zeroRefcount
  | fatal
  | released
  deriving DecidableEq, Repr

/-- Gives the lock of a pod back; the last call removes it. -/
def PluginManager.podUnlock (fullPodName : Text) (pm : PluginManager) : Unlock × PluginManager :=
  match pm.pods fullPodName with
  | none => (.unbalanced, pm)
  | some lock =>
    if (pm.locks lock).refcount = 0 then (.zeroRefcount, pm.setPod fullPodName none)
    else if (pm.locks lock).locked = false then (.fatal, pm)
    else
      let refcount := (pm.locks lock).refcount - 1
      let pm := pm.setLock lock ⟨refcount, false⟩
      (.released, if refcount = 0 then pm.setPod fullPodName none else pm)

/-! ### Calls -/

inductive Operation where
  | getPodNetworkStatus
  | setUpPod
  | tearDownPod
  deriving DecidableEq, Repr

/-- Where a call is between `podLock` and `podUnlock`: it waits for the mutex, it is in the plugin, or the
    plugin has returned. -/
inductive Phase where
  | waiting
  | inPlugin
  | returned
  deriving DecidableEq, Repr

/-- A call in progress, with the mutex that `podLock` has returned to it. -/
structure PluginCall where
  operation : Operation
  fullPodName : Text
  mutex : Nat
  phase : Phase
  deriving DecidableEq, Repr

def buildPodFullName (name namespace_ : Text) : Text := name ++ '_' :: namespace_

/-- The manager with the calls that are past `podLock` and not past `podUnlock`. -/
structure System where
  manager : PluginManager
  calls : List PluginCall

def System.initial : System := { manager := newPluginManager, calls := [] }

/-- A step of one of the calls. -/
inductive Step where
  | podLock (operation : Operation) (podNamespace podName : Text)
  | acquire (call : PluginCall)
  | pluginReturns (call : PluginCall)
  | podUnlock (call : PluginCall)
  deriving DecidableEq, Repr

/-- A call can go on in its own order, and past the mutex only when that is free. -/
def Step.Enabled (s : System) : Step → Prop
  | .podLock _ _ _ => True
  | .acquire call => call ∈ s.calls ∧ call.phase = .waiting ∧ (s.manager.locks call.mutex).locked = false
  | .pluginReturns call => call ∈ s.calls ∧ call.phase = .inPlugin
  | .podUnlock call => call ∈ s.calls ∧ call.phase = .returned

/-- A call in another phase. -/
def System.move (call : PluginCall) (phase : Phase) (s : System) : System :=
  { s with calls := { call with phase } :: s.calls.erase call }

def Step.run : Step → System → System
  | .podLock operation podNamespace podName, s =>
    let fullPodName := buildPodFullName podName podNamespace
    let (mutex, manager) := s.manager.podLock fullPodName
    { manager, calls := { operation, fullPodName, mutex, phase := .waiting } :: s.calls }
  | .acquire call, s => { s.move call .inPlugin with manager := s.manager.lockMutex call.mutex }
  | .pluginReturns call, s => s.move call .returned
  | .podUnlock call, s => { manager := (s.manager.podUnlock call.fullPodName).2, calls := s.calls.erase call }

end CriDockerd.Network
