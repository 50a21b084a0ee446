import OpenOxide.Remote.Execute
import OpenOxide.Shell.Launch
import OpenOxide.Shell.Script

/-!
# The commands that reach a remote shell

The command line of a remote command is read by the login shell of the server,
which starts a shell for its text, which starts the command: behind `sudo` when
the executor has it, and inside a job script when the command can be cancelled.
Every layer quotes the one below it, so what comes out at the end is the program
with its arguments.
-/

namespace OpenOxide.Remote

open Shell

variable (command pidFile : String)

end OpenOxide.Remote
