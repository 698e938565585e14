import McpGateway.Json
import McpGateway.Shlex
import McpGateway.ShlexWords
import McpGateway.Config
import McpGateway.EnvScan
import McpGateway.ConfigRoundTrip
import McpGateway.Merge
import McpGateway.Backend
import McpGateway.Inner
import McpGateway.Stdio
import McpGateway.Pipe
import McpGateway.Http
import McpGateway.Cache
import McpGateway.Gateway
import McpGateway.Transport
import McpGateway.Hibernation
import McpGateway.Search
import McpGateway.Meta
import McpGateway.Registry
import McpGateway.Routes
import McpGateway.Cli
import McpGateway.Respawn
