import UserAuth.Credential.CredentialUpdated
import UserAuth.Executor.ResourceNodePool
import UserAuth.Framework.ExecutorProperties
import UserAuth.Lib.Grouping

namespace UserAuth
open Std

-- A pooled executor. `ref` tells it from others that came in under its index.
structure PooledExecutor where
  ref : Nat
  executorIndex : UInt64
  authType : AuthType
  executorRole : ExecutorRole
  deriving DecidableEq

abbrev ExecutorPool := ResourceNodePool PooledExecutor

-- The callback of each node, as it is in its driver's process at the moment.
abbrev Callbacks := Nat → FrameworkExecutorCallback

namespace PooledExecutor

def setProperty (node : PooledExecutor) (callbacks : Callbacks) (property : ExecutorProperty) : Option DriverCall :=
  property.properties.bind fun properties => (callbacks node.ref).onSetProperty (Attributes.serialize properties)

theorem setProperty_delete (node : PooledExecutor) (callbacks : Callbacks) (templateId : UInt64)
    (short : changeReasonTrace.length < Attributes.MAX_ATTR_LENGTH) :
    node.setProperty callbacks (.deleteTemplate templateId changeReasonTrace) =
      if (callbacks node.ref).hasHdi then some (.delete [templateId]) else none :=
  ExecutorProperty.delete_reaches (callbacks node.ref) templateId changeReasonTrace short

theorem setProperty_cached (node : PooledExecutor) (callbacks : Callbacks) (templateIds : List UInt64) :
    node.setProperty callbacks (.cachedTemplates templateIds) =
      if (callbacks node.ref).hasHdi ∧ templateIds.length * 8 ≤ Attributes.MAX_ATTR_LENGTH then
        some (.setCachedTemplates templateIds)
        else none :=
  ExecutorProperty.cached_reaches (callbacks node.ref) templateIds

-- Attributes that can be set are what a driver is asked with.
theorem setProperty_risk (node : PooledExecutor) (callbacks : Callbacks) (authType : AuthType) (templateIds : List UInt64)
    (set : (ExecutorProperty.riskEvent authType templateIds).properties.isSome = true)
    (connected : (callbacks node.ref).hasHdi = true) :
    ∃ extraInfo, ExecutorProperty.strongAuthExtraInfo authType templateIds = some extraInfo ∧
      node.setProperty callbacks (.riskEvent authType templateIds) =
        some (.request 0 (.sendCommand PROPERTY_MODE_RISK_EVENT extraInfo)) := by
  have reaches := ExecutorProperty.risk_wanted (callbacks node.ref) authType templateIds
  rw [if_pos connected] at reaches
  simp only [ExecutorProperty.properties,ExecutorProperty.calls,Option.isSome_map] at set
  cases made : ExecutorProperty.strongAuthExtraInfo authType templateIds with
  | none => simp [made] at set
  | some extraInfo =>
    by_cases long : extraInfo.length > Attributes.MAX_ATTR_LENGTH
    · simp [made,long] at set
    · refine ⟨extraInfo,rfl,reaches.trans ?_⟩
      simp [ExecutorProperty.wanted,made,Nat.not_lt.mp long]

end PooledExecutor

-- Every node is pooled under its own index.
def ExecutorPool.Keyed (pool : ExecutorPool) : Prop :=
  ∀ executorIndex node, pool.select executorIndex = some node → node.executorIndex = executorIndex

namespace ExecutorPool
variable {pool : ExecutorPool}

theorem Keyed.insert (keyed : Keyed pool) (same : param.node.executorIndex = executorIndex) :
    Keyed (pool.insert executorIndex param) := by
  intro other node held
  rw [ResourceNodePool.select_insert] at held
  split at held
  · rename_i here
    cases held
    exact same.trans here
  · exact keyed other node held

end ExecutorPool

namespace ResourceNodeUtils
variable (pool : ExecutorPool) (callbacks : Callbacks)

def setCachedTemplates (executorIndex : UInt64) (infos : List EngCredentialInfo) :
    Option (PooledExecutor × List UInt64 × Option DriverCall) :=
  (pool.select executorIndex).map fun resourceNode =>
    let templateIds := infos.map (·.templateId)
    (resourceNode,templateIds,resourceNode.setProperty callbacks (.cachedTemplates templateIds))

def classifyCredInfoByExecutor (infos : List EngCredentialInfo) : ExtTreeMap UInt64 (List EngCredentialInfo) :=
  Grouping.group (·.executorIndex) infos

end ResourceNodeUtils
end UserAuth
