import DriftDB.Query.Builder
import DriftDB.Query.Placeholders
import DriftDB.Connection
import DriftDB.Connection.Object
import DriftDB.Pool.Basic
import DriftDB.Pool.Initialize
import DriftDB.Pool.View
import DriftDB.Pool.Refine
import DriftDB.Pool.Safety
import DriftDB.Client
import DriftDB.Pool.Pairing
import DriftDB.Pool.Starvation
import DriftDB.Pool.Close
import DriftDB.Wire.Encode
import DriftDB.Wire.Decode
import DriftDB.Wire.Load
import DriftDB.Transaction
import DriftDB.Pool.Scope
