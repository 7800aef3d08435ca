import Downloads.Record.Jitter
import Downloads.Payload
import Downloads.Store.Connection

/-!
# Hosts

What the program needs of its surroundings: files to read, stores to open, the time, and random
words. A run of the program is the same over every host.
-/

namespace Downloads

/-- Surroundings in which commands run. -/
class Host (m : Type → Type) where
  /-- Where the settings lie if the command line names no file. -/
  settingsPath : m (Option String)
  /-- What lies at a path. -/
  look (path : String) : m (Except FileFault FileNode)
  /-- Opens the store in a file. A file that is missing is made, its directory is not. -/
  openStore (path : String) (options : ConnectionOptions) : m (Except ConnectionError Store)
  /-- Keeps what became of the store in a file. -/
  keepStore (path : String) (store : Store) : m Unit
  /-- The nanoseconds since the start of 1970. -/
  nanos : m Int
  /-- The random words for one run. -/
  words : m RandomWords

/-- A store with no file lives as long as the run. -/
def Host.isTransient (path : String) : Bool := path == "" || path == ":memory:"

end Downloads
