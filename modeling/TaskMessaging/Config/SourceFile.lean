import TaskMessaging.Setting.Json
import TaskMessaging.Toml.Document
import TaskMessaging.Yaml.Document

/-!
# Configuration files

A file is given by its name, and the ending of the name says how it is written. The ending may be
left out where a file is asked for.
-/

namespace TaskMessaging.Config

/-- A file that was named, with what it holds if it could be read. -/
structure SourceFile where
  name : String
  text : Option String

namespace SourceFile

/-- What stands behind the last point of the last part of a path, unless the part begins there. -/
def ending? (path : String) : Option String :=
  let reversed := path.toList.reverse.takeWhile (· ≠ '/')
  match reversed.dropWhile (· ≠ '.') with
  | _ :: _ :: _ => some (String.ofList (reversed.takeWhile (· ≠ '.')).reverse)
  | _ => none

/-- The text without the mark of its byte order. -/
def unmarked (text : String) : String :=
  match text.toList with
  | '\uFEFF' :: cs => String.ofList cs
  | _ => text

/-- The settings in a file. -/
def settings? (f : SourceFile) : Option Setting := do
  let text ← f.text
  match ending? f.name with
  | some "toml" => Setting.ofToml? (unmarked text)
  | some "json" => Setting.ofJsonText? (unmarked text)
  | some "yaml" | some "yml" => Setting.ofYaml? (unmarked text)
  | _ => none

/-! ## Finding files -/

/-- The endings that are tried for a name that is none of a file. -/
def endings : List String := ["toml", "json", "yaml", "yml"]

/-- The names of the files that a name may mean, the first one that there is. -/
def candidates (name : String) : List String :=
  name :: endings.map fun ending ↦ name ++ "." ++ ending

/-- A path without steps to the directory in which it starts. -/
def plainPath : List Char → List Char
  | '.' :: '/' :: cs => plainPath cs
  | cs => cs

/-- The file that a name means, among files with their texts. -/
def find (files : List (String × String)) (name : String) : SourceFile :=
  let found := (candidates name).findSome? fun candidate ↦
    (files.find? fun f ↦ plainPath f.1.toList = plainPath candidate.toList).map fun f ↦
      (⟨f.1, some f.2⟩ : SourceFile)
  found.getD ⟨name, none⟩

end SourceFile

end TaskMessaging.Config
