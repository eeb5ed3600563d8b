import Dynabridge.Rpc.Peers
import Dynabridge.Rpc.RouteStorage
import Dynabridge.Rpc.DecodeCost
import Dynabridge.Rpc.Descriptors
import Dynabridge.Rpc.SymbolId
import Dynabridge.Async.Completion
import Dynabridge.Async.DetachOrder
import Dynabridge.Async.SingleUse
import Dynabridge.Async.Flows
import Dynabridge.Executor.UvOrdering
import Dynabridge.Executor.UvDrain
import Dynabridge.Executor.PythonBatches
import Dynabridge.Executor.PythonShutdown
import Dynabridge.Napi.TypeTag
import Dynabridge.Napi.PendingExceptions
import Dynabridge.Napi.Callables
import Dynabridge.Napi.ClassTarget
import Dynabridge.Napi.Context
import Dynabridge.Python.NestedCalls
import Dynabridge.Python.ObjectRef
import Dynabridge.Python.Receivers
import Dynabridge.Python.TypeVectorcall
import Dynabridge.Python.ExportInstance
import Dynabridge.Python.InstanceStorage
import Dynabridge.Python.IntConverters
import Dynabridge.Storage.Optional
import Dynabridge.Storage.NativeStorage
import Dynabridge.Interface.Composition
import Dynabridge.Export.Registration
import Dynabridge.Export.ScalarPlans
import Dynabridge.Export.Trials
import Dynabridge.Export.CommonTypes
