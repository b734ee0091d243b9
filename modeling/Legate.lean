import Legate.Comm.ThreadComm
import Legate.Deserializer.RoundTrip
import Legate.Mapping.CoreMapper
import Legate.Operation.Projection
import Legate.Runtime.Configuration
import Legate.Utilities.Debug
