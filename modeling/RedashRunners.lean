import RedashRunners.Python
import RedashRunners.Runner
import RedashRunners.Schema
import RedashRunners.Json.Value
import RedashRunners.Json.Encode
import RedashRunners.Json.Decode
import RedashRunners.Json.RoundTrip
import RedashRunners.Json.Progress
import RedashRunners.Transport
import RedashRunners.Postgres
import RedashRunners.Cassandra
import RedashRunners.Presto
import RedashRunners.Connections
import RedashRunners.Configuration
