/-!
# What the tool needs of a host

The preview tool reads files and variables, makes directories and writes files. It is given these
as a `Host`, in a monad that carries the state of the files.
-/

namespace Flashcard.Tool

structure Host (m : Type → Type) where
  /-- The bytes of a file, if it can be read. -/
  read : String → m (Option ByteArray)
  /-- Makes a directory and those above it; whether it is there then. -/
  makeDirectories : String → m Bool
  /-- Makes a file with this text, in the place of an old one; whether that was possible. -/
  write : String → String → m Bool
  /-- The value of an environment variable. -/
  lookup : String → m (Option String)

end Flashcard.Tool
