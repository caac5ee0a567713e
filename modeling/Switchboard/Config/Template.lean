/-!
# The default file

A file with every setting at its default, and what each is for.
-/

namespace Switchboard.Config

/-- The lines of the default file. -/
def templateLines : List String :=
  ["# Chathub Configuration",
    "#",
    "# Environment variables override these settings:",
    "# - CHATHUB_HOST",
    "# - CHATHUB_PORT",
    "# - CHATHUB_MAX_PUBLISH_RECIPIENTS",
    "# - CHATHUB_OUTBOX_CAPACITY",
    "# - CHATHUB_FANOUT_QUEUE",
    "# - CHATHUB_OVERFLOW_POLICY",
    "# - CHATHUB_DUPLICATE_POLICY",
    "# - CHATHUB_MAX_MESSAGE_SIZE",
    "# - CHATHUB_LOG_LEVEL",
    "# - CHATHUB_LOG_FORMAT",
    "",
    "[server]",
    "host = \"0.0.0.0\"",
    "port = 8080",
    "",
    "# Largest recipient list accepted by POST /api/v1/events",
    "max_publish_recipients = 10000",
    "",
    "[hub]",
    "# Payloads buffered per connection before the overflow policy applies",
    "outbox_capacity = 256",
    "",
    "# Dispatcher queue capacities",
    "register_queue = 256",
    "unregister_queue = 256",
    "fanout_queue = 1024",
    "",
    "# When an outbox is full: \"evict\" drops the connection,",
    "# \"drop_newest\" keeps it and discards the payload",
    "overflow_policy = \"evict\"",
    "",
    "# When a user connects twice: \"replace\" closes the old connection,",
    "# \"reject\" closes the new one",
    "duplicate_policy = \"replace\"",
    "",
    "# Presence events retained for slow subscribers",
    "presence_channel = 256",
    "",
    "[websocket]",
    "# Largest inbound frame accepted from a client (bytes)",
    "max_message_size = 524288",
    "",
    "# Outgoing write buffer (bytes)",
    "write_buffer_size = 1024",
    "",
    "# Maximum recipients for a client-relayed event",
    "max_relay_recipients = 256",
    "",
    "[logging]",
    "# Log level: trace, debug, info, warn, error (RUST_LOG takes precedence)",
    "level = \"info\"",
    "",
    "# Log format: pretty (for development) or json (for production)",
    "format = \"pretty\""]

/-- The text of the default file. -/
def template : String := String.join (templateLines.map (· ++ "\n"))

end Switchboard.Config
