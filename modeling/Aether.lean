import Aether.Python.Bytes
import Aether.Python.Str
import Aether.Python.Json
import Aether.Python.JsonRead
import Aether.Builder
import Aether.Rpc.Transaction
import Aether.Rpc.Wait
import Aether.Rpc.Concurrent
import Aether.Rpc.Helpers
import Aether.Rpc.Signing
import Aether.Rpc.Keypair
import Aether.Rpc.Lifecycle
import Aether.Rpc.Governance
import Aether.Sdk.Transaction
import Aether.Sdk.Builders
import Aether.Sdk.Client
import Aether.Interop
