/-!
# Shell words

A command line is shown so that a shell would read the same words back: a word with a character that a shell may treat
specially stands between apostrophes.
-/

namespace RunSteward.Text

/-- Characters that no shell treats specially. -/
def isShellSafe (c : Char) : Bool :=
  c.isAlphanum || "_@%+=:,./-".toList.contains c

def shellWord (w : String) : String :=
  if w.isEmpty then "''"
  else if w.toList.all isShellSafe then w
  else
    let body := w.toList.flatMap fun c => if c = '\'' then "'\"'\"'".toList else [c]
    String.ofList ('\'' :: (body ++ ['\'']))

/-- The words of a command with single spaces between them. -/
def shellLine (argv : List String) : String :=
  " ".intercalate (argv.map shellWord)

end RunSteward.Text
