/-!
# The settings template

The document that is written for a user to start from. It sets every setting to its default and says
what each of them means.
-/

namespace LedgerBoard

def templateLines : List String :=
  [
    "# Block Dashboard Configuration",
    "#",
    "# This file was auto-generated with default values.",
    "# All values shown below are the built-in defaults.",
    "#",
    "# Location: $XDG_CONFIG_HOME/block-dashboard/config.toml",
    "",
    "# ==============================================================================",
    "# Server",
    "# ==============================================================================",
    "",
    "[server]",
    "",
    "# Base WebSocket URL of the node.",
    "# The STOMP endpoint path \"/ws\" is appended to this URL.",
    "# Examples: \"ws://127.0.0.1:8080\", \"wss://node.example.org\"",
    "url = \"ws://127.0.0.1:8080\"",
    "",
    "# STOMP heart-beat interval the client offers to send.",
    "# The effective interval is the larger of this and what the server asks for.",
    "# Set to \"0s\" to disable client heart-beats.",
    "heartbeat = \"10s\"",
    "",
    "# ==============================================================================",
    "# Terminal UI",
    "# ==============================================================================",
    "",
    "[tui]",
    "",
    "# Render tick rate as a human-readable duration.",
    "# Examples: \"250ms\", \"500ms\", \"1s\"",
    "tick_rate = \"250ms\"",
    "",
    "# Maximum rows kept in each of the Blocks and Transactions tables.",
    "# The oldest row is dropped when the limit is reached.",
    "# 0 keeps every row for as long as the session is connected.",
    "max_rows = 0",
    "",
    "# ==============================================================================",
    "# Logging",
    "# ==============================================================================",
    "",
    "[log]",
    "",
    "# Logging verbosity level. BDASH_LOG overrides this when set.",
    "# Options: \"error\", \"warn\", \"info\", \"debug\", \"trace\"",
    "level = \"info\"",
    "",
    "# Log file used by the TUI. Empty means <runtime dir>/block-dashboard.log.",
    "# `bdash watch` always logs to stderr.",
    "file = \"\""
  ]

/-- A settings document with every default and comments. -/
def settingsTemplate : String :=
  String.join (templateLines.map (· ++ "\n"))

end LedgerBoard
