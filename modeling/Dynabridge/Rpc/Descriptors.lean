import Dynabridge.Export.CallableBinder
import Dynabridge.Rpc.Converters

/-!
# Descriptors on the RPC backend

The RPC backend opts into the probe policy.  Its contexts have the built-in scalar converters and
any descriptors, and meet the hypotheses on converters of the results about binders
(`readsAlike_rpcContext`).  `descriptors_prepared_once` is what their dispatches, and those of every
other opted-in context, do with the descriptors of a candidate.
-/

namespace Dynabridge.Rpc

open Export Export.ArgumentPlan

/-- A context of `rpc_backend` with the built-in scalar converters. -/
def rpcContext (D : Descriptors Value) : ProbingContext Value where
  toExportContext := contextOver rpcBackend.toBackend D
  opted := rfl

/-- The built-in converters read a constant like a mutable value, so the entry points of a binder
agree over the accessors of the router and over constant vectors. -/
theorem readsAlike_rpcContext (D : Descriptors Value) :
    (rpcContext D).toExportContext.ReadsAlike :=
  readsAlike_contextOver rpcBackend.opted D rpcBackend_lawful

end Dynabridge.Rpc
