import GuardedText.Files.Tree

/-! Files as a program is told of them at one time, whatever keeps them. Each question can fail for
a reason of its own: a name in a directory may lead nowhere, and a file that is there may refuse to
be read. A tree of files answers all of them. -/

namespace GuardedText.Files

/-- The answers to what is asked of files by their absolute paths. -/
structure View where
  present : String → Bool
  /-- Whether a regular file is at a path where something is. -/
  isFile : String → Except Failure Bool
  readBytes : String → Except Failure (List UInt8)
  readDirectory : String → Except Failure (List String)

def View.readText (files : View) (path : String) : Except Failure String :=
  (files.readBytes path).map Text.Utf8.decode

/-- What a tree answers. -/
def Tree.view (t : Tree) : View where
  present := t.present []
  isFile := t.isFile []
  readBytes := t.readBytes []
  readDirectory := t.readDirectory []

instance : Coe Tree View := ⟨Tree.view⟩

namespace Tree

variable (t : Tree) (path : String)

@[simp] theorem view_present : t.view.present path = t.present [] path := rfl

@[simp] theorem view_isFile : t.view.isFile path = t.isFile [] path := rfl

@[simp] theorem view_readBytes : t.view.readBytes path = t.readBytes [] path := rfl

@[simp] theorem view_readDirectory : t.view.readDirectory path = t.readDirectory [] path := rfl

end Tree

end GuardedText.Files
